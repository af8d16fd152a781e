import AccessSecurity.Decision.Outcome
import AccessSecurity.Decision.Preserved
import AccessSecurity.Foundation.Appends

/-!
# What is written to the audit log

Every way out of a call does its own logging. Whichever it takes, a call that returns has
appended one entry, which tells the answer and the header of the frame
(`decision_audited_once`); a call that throws has appended nothing, since only the append
itself or what comes before it can throw.
-/

namespace AccessSecurity.Decision.Engine

open Foundation Protocol Crypto Core

/-! ## What leaves the log alone -/

/-- What `view` selects is outside the handler's and the detector's part of the state, and
of the events only decisions are in it. -/
structure Aside {τ : Type} (view : EngineState → τ) : Prop where
  windows : ∀ windows s, view { s with windows } = view s
  readers : ∀ readers s, view { s with readers } = view s
  events : ∀ ev s, ev.kind ≠ "decision" → view { s with events := s.events ++ [ev] } = view s

theorem audit_aside : Aside EngineState.audit where
  windows _ _ := rfl
  readers _ _ := rfl
  events _ _ _ := rfl

section

variable {τ : Type} {view : EngineState → τ}

theorem Aside.keeps_events (h : Aside view) (v : τ) (ev : Event) (s : EngineState)
    (hkind : ev.kind ≠ "decision") (hs : view s = v) :
    view { s with events := s.events ++ [ev] } = v := (h.events ev s hkind).trans hs

theorem Aside.keeps_report (h : Aside view) (v : τ) {readerId : UInt32} {α : Type}
    (op : ReaderState → α × ReaderState) (s : EngineState) (hs : view s = v) :
    view { s with readers := (s.readers.report readerId op).2 } = v := (h.readers _ s).trans hs

theorem publishFrameEvent_silent (h : Aside view) (en : Engine) (env : Env) (frameSize : Nat) :
    Silent view (en.publishFrameEvent env frameSize) := fun v =>
  publishFrameEvent_keeps (h.keeps_events v) en env frameSize

theorem checkRollback_silent (h : Aside view) (en : Engine) (env : Env) (header : Header) :
    Silent view (en.checkRollback env header) := fun v =>
  checkRollback_keeps (h.keeps_report v) (h.keeps_events v) en env rfl

theorem reportDenied_silent (h : Aside view) (en : Engine) (env : Env) (res : HandleResult) :
    Silent view (en.reportDenied env res) := fun v =>
  reportDenied_keeps (h.keeps_report v) (h.keeps_events v) en env rfl

theorem reportAllowed_silent (h : Aside view) (en : Engine) (res : HandleResult) :
    Silent view (en.reportAllowed res) := fun v =>
  reportAllowed_keeps (h.keeps_report v) en rfl

variable [Sodium]

theorem checkNonce_silent (h : Aside view) (en : Engine) (env : Env) (header : Header) :
    Silent view (en.checkNonce env header) := fun v =>
  checkNonce_keeps (h.keeps_report v) (h.keeps_events v) en env rfl

theorem handle_silent (h : Aside view) (en : Engine) (env : Env) (frameBytes : Bytes) :
    Silent view (zoom EngineState.windows (fun windows s => { s with windows })
      (en.handler.handle env frameBytes)) := by
  intro v
  apply keeps_zoom
  intro windows s hs
  exact (h.windows windows s).trans hs

end

theorem push_silent (en : Engine) (ev : Event) : Silent EngineState.audit (en.push ev) :=
  fun _ => keeps_push en fun _ hs => hs

/-! ## Entries -/

/-- The entry on a frame with this header that is answered with `r`. -/
def entry (header : Header) (r : DecisionResult) (cardId action : Bytes) : AuditEvent where
  tsUnixMs := header.tsUnixMs
  readerId := header.readerId
  doorId := header.doorId
  seq := header.seq
  allow := r.allow
  reason := bytesOf r.reason
  cardId := cardId
  action := action

/-- An entry is written when an audit log is attached. -/
def logged (en : Engine) (ev : AuditEvent) : List AuditEvent := if en.audited then [ev] else []

/-- The reasons the engine gives. -/
def decisionCodes : List String :=
  FrameHandler.verdictCodes ++ ["quarantined", "bad_payload", "bad_action", "unknown_card",
    "forbidden"]

theorem log_appends (en : Engine) (env : Env) (header : Header) (r : DecisionResult)
    (cardId action : Bytes) : Appends EngineState.audit
      (fun _ es => es = en.logged (entry header r cardId action))
      (en.logAuditEvent env header r.allow r.reason cardId action) := by
  unfold logAuditEvent
  split_ifs with haudited
  · refine appends_bind (fun _ => keeps_lift _) fun _ _ _ _ => ?_
    refine appends_then (appends_modify fun _ => rfl) (fun _ => push_silent en _)
      (fun _ => push_total en _) ?_
    rintro _ _ _ _ _ rfl -
    simp [logged, haudited, entry]
  · refine appends_of_silent (fun _ => keeps_pure _) fun _ _ _ _ => ?_
    simp [logged, haudited]

variable [Sodium]

/-- The store maps the HMAC of a card to a role that is allowed on the door. -/
def CardAllowed (en : Engine) (doorId : UInt32) (cardHmac : Bytes) : Prop :=
  ∃ store keyVersion card role, en.store = some store ∧
    cardHmac = en.keyManager.cardHmac keyVersion card ∧
    store.roleForCardHmac cardHmac = some role ∧ store.isAllowed doorId role = true

/-- What the engine may write about a frame that it answers with `r`: the reason is one of
its codes, the card is named by its HMAC or not at all, and an allowed entry names the card
that was granted. -/
structure Truthful (en : Engine) (header : Header) (r : DecisionResult) (ev : AuditEvent) :
    Prop where
  eq : ev = entry header r ev.cardId ev.action
  reason : r.reason ∈ decisionCodes
  card : ev.cardId = [] ∨ ∃ keyVersion card, ev.cardId = en.keyManager.cardHmac keyVersion card
  action : ev.action = [] ∨ ev.action = bytesOf "open"
  granted : r.allow = true → en.CardAllowed header.doorId ev.cardId ∧ ev.action = bytesOf "open"

/-- The program answers, and what it writes to the audit log is one truthful entry. -/
def Records (en : Engine) (header : Header) (x : EngineM DecisionResult) : Prop :=
  Appends EngineState.audit (fun r es => ∃ ev, en.Truthful header r ev ∧ es = en.logged ev) x

theorem log_records {en : Engine} {header : Header} {r : DecisionResult} {cardId action : Bytes}
    (h : en.Truthful header r (entry header r cardId action)) (env : Env) :
    en.Records header (do
      en.logAuditEvent env header r.allow r.reason cardId action
      return r) := by
  refine appends_then (en.log_appends env header r cardId action) (fun _ _ => keeps_pure _)
    (fun _ => total_pure _) ?_
  intro _ es t r' u hes hret
  obtain ⟨rfl, -⟩ := returns_pure.mp hret
  exact ⟨_, h, hes⟩

theorem truthful_denied (en : Engine) (header : Header) {reason : String}
    (h : reason ∈ decisionCodes) : en.Truthful header (createDeniedResult reason)
      (entry header (createDeniedResult reason) [] []) where
  eq := rfl
  reason := h
  card := .inl rfl
  action := .inl rfl
  granted := by
    intro hallow
    cases hallow

theorem deny_records (en : Engine) (env : Env) (header : Header) {reason : String}
    (h : reason ∈ decisionCodes) : en.Records header (en.deny env header reason) :=
  log_records (en.truthful_denied header h) env

theorem refuseQuarantined_records (en : Engine) (env : Env) (res : HandleResult) :
    en.Records res.header (en.refuseQuarantined env res) := by
  have htruth := en.truthful_denied res.header (show "quarantined" ∈ decisionCodes by decide)
  refine appends_then (en.log_appends env res.header (createDeniedResult "quarantined") [] [])
    (fun _ v => keeps_bind (push_silent en _ v) fun _ => keeps_pure _)
    (fun _ t => total_bind (push_total _ _ t) fun _ _ _ => total_pure _ _) ?_
  intro _ es t r u hes hret
  obtain ⟨_, _, -, hret⟩ := returns_bind.mp hret
  obtain ⟨rfl, -⟩ := returns_pure.mp hret
  exact ⟨_, htruth, hes⟩

/-! ## Access policy -/

theorem checkAccessPolicy_records (en : Engine) (env : Env) (res : HandleResult)
    {request : AccessRequest} (hcard : request.cardId ≠ []) :
    en.Records res.header (en.checkAccessPolicy env res request) := by
  unfold checkAccessPolicy
  split_ifs with haction
  · exact deny_records en env _ (by decide)
  rw [not_not] at haction
  cases hstore : en.store with
  | none => exact deny_records en env _ (by decide)
  | some store =>
    refine appends_bind (fun _ => keeps_lift _) fun currentKv _ _ _ => ?_
    split_ifs with hkv
    · exact deny_records en env _ (by decide)
    refine appends_bind (fun _ => keeps_lift _) fun result _ _ hlift => ?_
    obtain ⟨-, ⟨keyVersion, hhmac⟩, hrole⟩ :=
      resolveCardHmac_ok hcard hkv (returns_lift.mp hlift).1
    obtain ⟨cardHmac, role⟩ := result
    cases role with
    | none =>
      refine log_records (r := createDeniedResult "unknown_card") ⟨rfl, by decide, ?_, ?_, ?_⟩ env
      · exact .inr ⟨keyVersion, request.cardId, hhmac⟩
      · exact .inr haction
      · intro hallow
        cases hallow
    | some role =>
      refine appends_bind (fun _ => keeps_lift _) fun r _ _ hlift => ?_
      have hr := checkRoleAccess_ok (returns_lift.mp hlift).1
      refine log_records ⟨rfl, ?_, .inr ⟨keyVersion, request.cardId, hhmac⟩, .inr haction, ?_⟩ env
      · rw [hr]
        split_ifs <;> decide
      · intro hallow
        refine ⟨⟨store, keyVersion, request.cardId, role, hstore, hhmac, hrole role rfl, ?_⟩,
          haction⟩
        by_contra hforbidden
        rw [hr, if_neg hforbidden] at hallow
        cases hallow

/-! ## The whole call -/

variable [JsonLib]

theorem checkPayload_records (en : Engine) (env : Env) (res : HandleResult) :
    en.Records res.header (en.checkPayload env res) := by
  unfold checkPayload
  cases hpayload : parseAccessRequestJson res.plaintext with
  | error e => exact deny_records en env _ (by decide)
  | ok request =>
    obtain ⟨members, -, -, -, hcard, -⟩ := parseAccessRequestJson_ok_iff.mp hpayload
    exact checkAccessPolicy_records en env res hcard

theorem finish_records (en : Engine) (env : Env) {res : HandleResult}
    (h : res.reason ∈ FrameHandler.verdictCodes) :
    en.Records res.header (en.finish env res) := by
  unfold finish
  refine appends_bind (push_silent en _) fun _ _ _ _ => ?_
  split_ifs
  · refine appends_bind (reportDenied_silent audit_aside en env res) fun _ _ _ _ => ?_
    exact deny_records en env _ (List.mem_append_left _ h)
  · refine appends_bind (reportAllowed_silent audit_aside en res) fun _ _ _ _ => ?_
    exact checkPayload_records en env res

theorem detect_records (en : Engine) (env : Env) {res : HandleResult}
    (h : res.reason ∈ FrameHandler.verdictCodes) :
    en.Records res.header (en.detect env res) := by
  have hrefuse := refuseQuarantined_records en env res
  unfold detect
  refine appends_bind (fun _ => keeps_get) fun s _ _ _ => ?_
  split_ifs
  · exact hrefuse
  refine appends_bind (checkRollback_silent audit_aside en env _) fun refused _ _ _ => ?_
  split_ifs
  · exact hrefuse
  refine appends_bind (checkNonce_silent audit_aside en env _) fun refused _ _ _ => ?_
  split_ifs
  · exact hrefuse
  · exact finish_records en env h

/-- Every call writes one truthful entry about the header of its frame. -/
theorem handleFrameBytes_records (en : Engine) (env : Env) (frameBytes : Bytes) :
    en.Records (en.handler.headerOf frameBytes) (en.handleFrameBytes env frameBytes) := by
  rw [handleFrameBytes_eq]
  refine appends_bind (handle_silent audit_aside en env frameBytes) fun res _ _ hzoom => ?_
  obtain ⟨_, hhandle, -⟩ := returns_zoom.mp hzoom
  obtain ⟨hres, -⟩ := FrameHandler.returns_handle hhandle
  rw [← FrameHandler.headerOf_verdict, ← hres]
  refine appends_bind (publishFrameEvent_silent audit_aside en env _) fun _ _ _ _ => ?_
  refine detect_records en env ?_
  rw [hres]
  exact FrameHandler.verdict_reason_mem _ _ _ _

/-- With an audit log attached, a call that returns has appended exactly one entry: its
answer, the header of the frame (zeros when there is none), and for a grant the HMAC of a
card whose role is allowed on the door. -/
theorem decision_audited_once {en : Engine} {env : Env} {frameBytes : Bytes} {s t : EngineState}
    {r : DecisionResult} (haudited : en.audited = true)
    (h : Returns (en.handleFrameBytes env frameBytes) s r t) :
    ∃ ev, t.audit = s.audit ++ [ev] ∧ ev.allow = r.allow ∧ ev.reason = bytesOf r.reason ∧
      (∀ frame, Protocol.parseFrame frameBytes en.frameHandlerCfg.maxCtLen = .ok frame →
        ev.readerId = frame.header.readerId ∧ ev.doorId = frame.header.doorId ∧
        ev.seq = frame.header.seq ∧ ev.tsUnixMs = frame.header.tsUnixMs) ∧
      (∀ fault, Protocol.parseFrame frameBytes en.frameHandlerCfg.maxCtLen = .error fault →
        ev.readerId = 0 ∧ ev.doorId = 0 ∧ ev.seq = 0 ∧ ev.tsUnixMs = 0) ∧
      (r.allow = true → ev.action = bytesOf "open" ∧ ∃ store keyVersion card role,
        en.store = some store ∧ ev.cardId = en.keyManager.cardHmac keyVersion card ∧
        store.roleForCardHmac ev.cardId = some role ∧ store.isAllowed ev.doorId role = true) := by
  obtain ⟨es, ⟨ev, htruth, hes⟩, haudit⟩ := (handleFrameBytes_records en env frameBytes).returns h
  obtain rfl : es = [ev] := by simp [hes, logged, haudited]
  have hentry := htruth.eq
  refine ⟨ev, haudit, ?_, ?_, fun frame hparse => ?_, fun fault hparse => ?_, fun hallow => ?_⟩
  · rw [hentry]
    rfl
  · rw [hentry]
    rfl
  · have hheader : en.handler.headerOf frameBytes = frame.header :=
      FrameHandler.headerOf_eq hparse
    rw [hentry, hheader]
    exact ⟨rfl, rfl, rfl, rfl⟩
  · have hheader : en.handler.headerOf frameBytes = .empty := FrameHandler.headerOf_unparsed hparse
    rw [hentry, hheader]
    exact ⟨rfl, rfl, rfl, rfl⟩
  · have hdoor : ev.doorId = (en.handler.headerOf frameBytes).doorId := by
      rw [hentry]
      rfl
    obtain ⟨hcard, haction⟩ := htruth.granted hallow
    rw [hdoor]
    exact ⟨haction, hcard⟩

omit [Sodium] [JsonLib] in
/-- The grant of a frame, in the log. -/
theorem decision_audited_once_knock :
    letI : Sodium := .transparent
    letI : JsonLib := .requests
    ∃ t ev, Returns (permissive.handleFrameBytes .quiet (serialize knock)) .initial
        { allow := true, reason := "ok" } t ∧
      t.audit = [ev] ∧ ev.reason = bytesOf "ok" ∧ ev.readerId = 7 ∧ ev.action = bytesOf "open" := by
  let _ : Sodium := .transparent
  let _ : JsonLib := .requests
  have hparse : Protocol.parseFrame (serialize knock) permissive.frameHandlerCfg.maxCtLen =
      .ok knock := by decide +kernel
  have hreturns : Returns (permissive.handleFrameBytes .quiet (serialize knock)) .initial
      { allow := true, reason := "ok" } _ := returns_after_iff.mpr (by decide +kernel)
  obtain ⟨ev, haudit, -, hreason, hheader, -, hgranted⟩ := decision_audited_once rfl hreturns
  exact ⟨_, ev, hreturns, haudit, hreason, (hheader knock hparse).1, (hgranted rfl).1⟩

end AccessSecurity.Decision.Engine
