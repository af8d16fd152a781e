import AccessSecurity.Decision.Auditing
import AccessSecurity.Decision.Mediation

/-!
# The live decision feed

Of the events of a call that returns exactly one is a decision, published in one of four
places and always from the verdict of the frame handler. The answer to the caller is made
later: by the detector, the payload and the policy. The feed tells the answer exactly when
none of these three changes it (`feed_tells_answer`).
-/

namespace AccessSecurity.Decision

open Foundation Protocol Crypto Core

/-- The decisions among the published events. -/
def EngineState.feed (s : EngineState) : List Event := s.events.filter (·.kind = "decision")

namespace Engine

theorem feed_aside : Aside EngineState.feed where
  windows _ _ := rfl
  readers _ _ := rfl
  events ev s hkind := by simp [EngineState.feed, hkind]

/-! ## One decision a call -/

/-- The event that `publishDecisionEvent` pushes. -/
def decisionEvent (env : Env) (res : HandleResult) : Event where
  tsUnixMs := env.now .decisionEvent
  kind := "decision"
  readerId := res.header.readerId
  doorId := res.header.doorId
  seq := res.header.seq
  allow := res.allow
  reason := res.reason
  message := bytesOf ("frame handler: " ++ outcome res.allow ++ res.reason)

theorem publishDecisionEvent_emits {en : Engine} (hpublished : en.published = true) (env : Env)
    (res : HandleResult) :
    Emits EngineState.feed [decisionEvent env res] (en.publishDecisionEvent env res) := by
  unfold publishDecisionEvent push
  rw [if_pos hpublished]
  apply emits_modify
  intro s
  simp [EngineState.feed, decisionEvent]

/-- What is logged is not in the feed. -/
theorem feed_logless (v : List Event) : Logless (fun s => s.feed = v) where
  audit _ _ hs := hs
  events := feed_aside.keeps_events v

section

variable [Sodium] [JsonLib]

variable {en : Engine} (hpublished : en.published = true) {env : Env}

include hpublished

omit [Sodium] [JsonLib] in
theorem refuseQuarantined_emits (res : HandleResult) :
    Emits EngineState.feed [decisionEvent env res] (en.refuseQuarantined env res) := by
  refine emits_bind (fun v => logAuditEvent_keeps (feed_logless v) en env _ _ _ _ _) fun _ => ?_
  exact emits_then (publishDecisionEvent_emits hpublished env res) fun _ _ => keeps_pure _

/-- The decision is published first; nothing after it is. -/
theorem finish_emits (res : HandleResult) :
    Emits EngineState.feed [decisionEvent env res] (en.finish env res) := by
  refine emits_then (publishDecisionEvent_emits hpublished env res) fun _ v => ?_
  split_ifs
  · exact keeps_bind (reportDenied_silent feed_aside en env res v) fun _ =>
      deny_keeps (feed_logless v) en env _ _
  · exact keeps_bind (reportAllowed_silent feed_aside en res v) fun _ =>
      checkPayload_keeps (feed_logless v) en env res

theorem detect_emits (res : HandleResult) :
    Emits EngineState.feed [decisionEvent env res] (en.detect env res) := by
  have hrefuse : Emits EngineState.feed [decisionEvent env res] (en.refuseQuarantined env res) :=
    refuseQuarantined_emits hpublished res
  unfold detect
  refine emits_bind (fun _ => keeps_get) fun s => ?_
  split_ifs
  · exact hrefuse
  refine emits_bind (checkRollback_silent feed_aside en env _) fun refused => ?_
  split_ifs
  · exact hrefuse
  refine emits_bind (checkNonce_silent feed_aside en env _) fun refused => ?_
  split_ifs
  · exact hrefuse
  · exact finish_emits hpublished res

/-- Whatever path a call takes that returns, it has published the verdict of the handler. -/
theorem feed_handleFrameBytes {frameBytes : Bytes} {s t : EngineState} {r : DecisionResult}
    (h : Returns (en.handleFrameBytes env frameBytes) s r t) :
    t.feed = s.feed ++ [decisionEvent env (en.verdict env.now s frameBytes)] := by
  rw [handleFrameBytes_eq, returns_bind] at h
  obtain ⟨res, u, hzoom, hrest⟩ := h
  obtain ⟨_, hhandle, -⟩ := returns_zoom.mp hzoom
  obtain ⟨hres, -⟩ := FrameHandler.returns_handle hhandle
  have hverdict : en.verdict env.now s frameBytes = res := hres.symm
  have hrun := emits_bind (publishFrameEvent_silent feed_aside en env frameBytes.length)
    (fun _ => detect_emits hpublished res) hrest
  rw [hrun, hverdict, (handle_silent feed_aside en env frameBytes).view_eq hzoom]

end

/-! ## The decision and the answer -/

section

variable [Sodium] [JsonLib]

/-- The plaintext is a request to open, and the tables grant it to the card in it. -/
structure GrantedRequest (en : Engine) (header : Header) (plaintext : Bytes)
    (store : AccessStore) (members : List (Bytes × Json)) (cardId role : Bytes) : Prop where
  store_eq : en.store = some store
  isObject : JsonLib.parse plaintext = .ok (.object members)
  card : Json.stringAt members "card_id" = some cardId ∧ cardId ≠ []
  action : Json.stringAt members "action" = some (bytesOf "open")
  hasRole : en.HasRole store (store.currentKeyVersionForReader header.readerId) cardId role
  allowed : store.isAllowed header.doorId role = true

/-- Nothing after the handler changes its verdict: the detector lets the frame pass, and
if the handler accepts it, the request in it is granted. -/
structure Settled (en : Engine) (now : ClockSite → UInt64) (s : EngineState)
    (frameBytes : Bytes) : Prop where
  cleared : en.detectorActive = true → en.Cleared s.readers (en.handler.headerOf frameBytes)
  granted : ∀ frame plaintext,
    en.handler.Accepts (now .skewCheck) s.windows frameBytes frame plaintext →
    ∃ store members cardId role,
      en.GrantedRequest frame.header plaintext store members cardId role

variable {en : Engine}

theorem decide_allow_of_accepts {now : UInt64} {windows : ReplayWindowMap} {frameBytes : Bytes}
    {frame : Frame} {plaintext : Bytes}
    (h : en.handler.Accepts now windows frameBytes frame plaintext) :
    (en.decide (en.handler.verdict now windows frameBytes)).allow = true ↔
      ∃ store members cardId role,
        en.GrantedRequest frame.header plaintext store members cardId role := by
  rw [h.verdict, decide_allow_iff, and_iff_right rfl]
  obtain ⟨-, store, hpasses⟩ := h
  constructor
  · rintro ⟨request, hpayload, hpolicy⟩
    obtain ⟨members, hobject, hcard, haction, hne, -⟩ := parseAccessRequestJson_ok_iff.mp hpayload
    obtain ⟨store, role, hstore, hopen, -, hrole, hallowed⟩ := policy_allow_iff.mp hpolicy
    exact ⟨store, members, request.cardId, role, hstore, hobject, ⟨hcard, hne⟩, hopen ▸ haction,
      hrole, hallowed⟩
  · rintro ⟨store', members, cardId, role, hgranted⟩
    obtain rfl : store' = store := Option.some.inj (hgranted.store_eq.symm.trans hpasses.store_eq)
    have hopen : bytesOf "open" ≠ [] := by decide
    have hpayload : parseAccessRequestJson plaintext = .ok ⟨cardId, bytesOf "open"⟩ :=
      parseAccessRequestJson_ok_iff.mpr ⟨members, hgranted.isObject, hgranted.card.1,
        hgranted.action, hgranted.card.2, hopen⟩
    exact ⟨_, hpayload, policy_allow_iff.mpr ⟨store', role, hgranted.store_eq, rfl,
      hpasses.registered, hgranted.hasRole, hgranted.allowed⟩⟩

theorem settled_iff {now : ClockSite → UInt64} {s : EngineState} {frameBytes : Bytes} :
    en.Settled now s frameBytes ↔
      (en.screen now s.readers (en.verdict now s frameBytes).header).1 = false ∧
        ((en.verdict now s frameBytes).allow = true →
          (en.decide (en.verdict now s frameBytes)).allow = true) := by
  have hheader : (en.verdict now s frameBytes).header = en.handler.headerOf frameBytes :=
    FrameHandler.headerOf_verdict ..
  rw [screen_eq_false_iff, hheader]
  constructor
  · rintro ⟨hcleared, hgranted⟩
    refine ⟨hcleared, fun hallow => ?_⟩
    obtain ⟨frame, plaintext, haccepts⟩ := FrameHandler.accepts_of_allow hallow
    exact (decide_allow_of_accepts haccepts).mpr (hgranted frame plaintext haccepts)
  · rintro ⟨hcleared, hgranted⟩
    refine ⟨hcleared, fun frame plaintext haccepts => ?_⟩
    have hallow : (en.verdict now s frameBytes).allow = true :=
      congrArg HandleResult.allow haccepts.verdict
    exact (decide_allow_of_accepts haccepts).mp (hgranted hallow)

omit [JsonLib] in
theorem policy_reason_of_allow {header : Header} {request : AccessRequest}
    (h : (en.policy header request).allow = true) : (en.policy header request).reason = "ok" := by
  obtain ⟨store, role, hstore, hopen, hregistered, hrole, hallowed⟩ := policy_allow_iff.mp h
  rw [← roleOf_eq_some_iff] at hrole
  simp [policy, hstore, hopen, hregistered, hrole, hallowed]

theorem decide_reason_of_allow {res : HandleResult} (h : (en.decide res).allow = true) :
    (en.decide res).reason = "ok" := by
  obtain ⟨hallow, request, hpayload, hpolicy⟩ := decide_allow_iff.mp h
  unfold decide
  simp only [hallow, hpayload]
  exact policy_reason_of_allow hpolicy

/-- The answer agrees with the verdict when none of the later stages changes it. A refusal
of the detector does even to a frame that is denied anyway: its reason is not a verdict's. -/
theorem answer_agrees_iff {now : ClockSite → UInt64} {readers : Readers} {res : HandleResult}
    (hreason : res.reason ∈ FrameHandler.verdictCodes)
    (hok : res.allow = true → res.reason = "ok") :
    (res.allow = (en.answer now readers res).allow ∧
        res.reason = (en.answer now readers res).reason) ↔
      (en.screen now readers res.header).1 = false ∧
        (res.allow = true → (en.decide res).allow = true) := by
  unfold answer
  cases hscreen : (en.screen now readers res.header).1 with
  | true =>
    have hquarantined : "quarantined" ∉ FrameHandler.verdictCodes := by decide
    refine iff_of_false ?_ (by simp)
    rintro ⟨-, heq⟩
    rw [heq] at hreason
    exact hquarantined hreason
  | false =>
    rw [if_neg (by simp), and_iff_right rfl]
    cases hallow : res.allow with
    | false => simp [decide, hallow, createDeniedResult]
    | true =>
      constructor
      · rintro ⟨heq, -⟩ -
        exact heq.symm
      · intro hdecide
        exact ⟨(hdecide rfl).symm, by
          rw [hok hallow, decide_reason_of_allow (hdecide rfl)]⟩

/-- A call that returns has published exactly one decision, and it tells the answer exactly
when nothing after the handler changes the verdict. -/
theorem feed_tells_answer {env : Env} {frameBytes : Bytes} {s t : EngineState}
    {r : DecisionResult} (hpublished : en.published = true)
    (h : Returns (en.handleFrameBytes env frameBytes) s r t) :
    (∃ ev, t.feed = s.feed ++ [ev]) ∧
      ((∃ ev, t.feed = s.feed ++ [ev] ∧ ev.allow = r.allow ∧ ev.reason = r.reason) ↔
        en.Settled env.now s frameBytes) := by
  have hfeed := feed_handleFrameBytes hpublished h
  refine ⟨⟨_, hfeed⟩, ?_⟩
  have hreason : (en.verdict env.now s frameBytes).reason ∈ FrameHandler.verdictCodes :=
    FrameHandler.verdict_reason_mem ..
  rw [(returns_handleFrameBytes h).answer, settled_iff,
    ← answer_agrees_iff hreason verdict_reason_of_allow, hfeed]
  simp [decisionEvent]

end

/-- A grant is told as it is. -/
theorem feed_tells_answer_knock :
    letI : Sodium := .transparent
    letI : JsonLib := .requests
    ∃ t, Returns (permissive.handleFrameBytes .quiet (serialize knock)) .initial
        { allow := true, reason := "ok" } t ∧ t.feed.length = 1 ∧
      permissive.Settled Env.quiet.now .initial (serialize knock) := by
  let _ : Sodium := .transparent
  let _ : JsonLib := .requests
  have hreturns : Returns (permissive.handleFrameBytes .quiet (serialize knock)) .initial
      { allow := true, reason := "ok" } _ := returns_after_iff.mpr (by decide +kernel)
  obtain ⟨⟨ev, hone⟩, htells⟩ := feed_tells_answer rfl hreturns
  refine ⟨_, hreturns, by rw [hone]; rfl, htells.mp ⟨_, feed_handleFrameBytes rfl hreturns, ?_, ?_⟩⟩
  · decide +kernel
  · decide +kernel

/-- The permissive engine on a store that knows no cards. -/
def cardless : Engine :=
  { permissive with store := some { AccessStore.permissive with roleForCardHmac := fun _ => none } }

/-- An unknown card is denied, and the feed tells that it was let in. -/
theorem feed_grants_unknown_card :
    letI : Sodium := .transparent
    letI : JsonLib := .requests
    ∃ t ev, Returns (cardless.handleFrameBytes .quiet (serialize knock)) .initial
        { allow := false, reason := "unknown_card" } t ∧
      t.feed = [ev] ∧ ev.allow = true ∧ ev.reason = "ok" := by
  let _ : Sodium := .transparent
  let _ : JsonLib := .requests
  have hreturns : Returns (cardless.handleFrameBytes .quiet (serialize knock)) .initial
      { allow := false, reason := "unknown_card" } _ := returns_after_iff.mpr (by decide +kernel)
  refine ⟨_, _, hreturns, feed_handleFrameBytes rfl hreturns, ?_, ?_⟩
  · decide +kernel
  · decide +kernel

end Engine

end AccessSecurity.Decision
