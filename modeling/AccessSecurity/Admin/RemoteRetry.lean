import AccessSecurity.Admin.Agreement
import AccessSecurity.Decision.Repetition

/-!
# Retries of a remote decision

`processHwUid` posts the same frame up to three times. The decision endpoint is not
idempotent: a frame that it has accepted is a replay when it arrives again, which is
answered with a denial and puts the reader in quarantine. `retry_safe_iff` says exactly for
which scans the retries are without effect.
-/

namespace AccessSecurity.Admin

open Foundation Protocol Crypto Core Decision

/-- The calls of the endpoint, up to the first whose answer arrives. -/
def deliveries : List Attempt → List Env
  | [] => []
  | attempt :: attempts =>
    match attempt.delivery with
    | .requestLost => deliveries attempts
    | .responseLost => attempt.env :: deliveries attempts
    | .answered => [attempt.env]

/-- Some answer arrives. -/
def answered (attempts : List Attempt) : Bool := attempts.any (·.delivery = .answered)

theorem noFault_deliveries {attempts : List Attempt}
    (hfaults : ∀ attempt ∈ attempts, attempt.env.NoFault) :
    ∀ env ∈ deliveries attempts, env.NoFault := by
  induction attempts with
  | nil => simp [deliveries]
  | cons attempt attempts ih =>
    have hrest := ih fun c hc => hfaults c (.tail _ hc)
    have hfirst := hfaults attempt (.head _)
    unfold deliveries
    cases attempt.delivery with
    | requestLost => exact hrest
    | responseLost => exact List.forall_mem_cons.mpr ⟨hfirst, hrest⟩
    | answered => exact List.forall_mem_singleton.mpr hfirst

section

variable [Sodium] [JsonLib]

/-! ## How a sender's frame is judged -/

section

variable {en : Engine} {body : Bytes} {payload : Bytes}

omit [JsonLib] in
/-- Bytes that are refused whatever the state and the clock. -/
theorem judged_of_refused {err : HandleResult} (hverdict : ∀ now s, en.verdict now s body = err)
    (hdeny : err.allow = false) (hreplay : err.reason ≠ "replay")
    (hharmless : Engine.Harmless err) : en.Judged body err.header payload where
  header_eq now s := by rw [hverdict]
  accepted now s h := by
    rw [hverdict, hdeny] at h
    exact absurd h (by simp)
  harmless now s _ := by rwa [hverdict]
  replay now s h := absurd (hverdict now s ▸ h) hreplay
  unseen now s t _ _ := by rw [hverdict, hverdict]
  known now now' s t _ _ := by rw [hverdict, hverdict]
  again now now' s t h _ := by
    rw [hverdict, hdeny] at h
    exact absurd h (by simp)

omit [JsonLib] in
/-- Bytes that pass every check but those for replays and for the time. -/
theorem judged_of_opened {header : Header} (late : (ClockSite → UInt64) → Option String)
    (hverdict : ∀ now s, en.verdict now s body =
      if en.seen header s then makeError "replay" header
      else
        match late now with
        | some error => makeError error header
        | none => { allow := true, reason := "ok", plaintext := payload, header })
    (hlate : ∀ now error, late now = some error → error = "too_old" ∨ error = "too_future") :
    en.Judged body header payload := by
  have hseen : ∀ now s, en.seen header s = true →
      en.verdict now s body = makeError "replay" header := by
    intro now s h
    rw [hverdict, if_pos h]
  have hunseen : ∀ now s, en.seen header s = false →
      (en.verdict now s body).header = header ∧ (en.verdict now s body).reason ≠ "replay" ∧
        Engine.Harmless (en.verdict now s body) ∧
        ((en.verdict now s body).allow = true → (en.verdict now s body).plaintext = payload) := by
    intro now s h
    rw [hverdict, if_neg (by simp [h])]
    cases hnow : late now with
    | none => exact ⟨rfl, by simp, .inl rfl, fun _ => rfl⟩
    | some error =>
      obtain rfl | rfl := hlate now error hnow
      · exact ⟨rfl, by simp [makeError], .inr (by simp [makeError]), by simp [makeError]⟩
      · exact ⟨rfl, by simp [makeError], .inr (by simp [makeError]), by simp [makeError]⟩
  constructor
  · intro now s
    cases h : en.seen header s with
    | true => rw [hseen now s h]; rfl
    | false => exact (hunseen now s h).1
  · intro now s hallow
    cases h : en.seen header s with
    | true => simp [hseen now s h, makeError] at hallow
    | false => exact ⟨(hunseen now s h).2.2.2 hallow, rfl⟩
  · intro now s hreason
    cases h : en.seen header s with
    | true => simp [hseen now s h, makeError] at hreason
    | false => exact (hunseen now s h).2.2.1
  · intro now s hreason
    cases h : en.seen header s with
    | true => exact ⟨by rw [hseen now s h]; rfl, rfl⟩
    | false => exact absurd hreason (hunseen now s h).2.1
  · intro now s t hs ht
    rw [hverdict, hverdict, if_neg (by simp [hs]), if_neg (by simp [ht])]
  · intro now now' s t hs ht
    rw [hseen now s hs, hseen now' t ht]
  · intro now now' s t _ ht
    rw [hseen now' t ht]
    rfl

end

variable {en : Engine} {km : KeyManager} {req : SendRequest}

omit [JsonLib] in
/-- A frame of a registered reader, sent at its current key version. -/
theorem SharedModes.judged (hopen : OpenInvertsSeal) (h : SharedModes en km req)
    {store : AccessStore} (hstore : en.store = some store)
    (hkv : store.currentKeyVersionForReader req.readerId = req.keyVersion)
    (hzero : req.keyVersion ≠ 0) (payload : Bytes) :
    ∃ header, en.Judged (serialize (req.frame km payload)) header payload := by
  let f := req.frame km payload
  cases hparse : en.handler.parseFrame (serialize f) with
  | error err =>
    have hdeny := (FrameHandler.parseFrame_error hparse).1
    have hreason := FrameHandler.parseFrame_reason hparse
    refine ⟨err.header, judged_of_refused (fun now s => ?_) hdeny hreason.1 (.inr hreason)⟩
    simp only [Engine.verdict, FrameHandler.verdict, f, hparse] at *
  | ok g =>
    have hfit : f = g := ((parseFrame_frame_iff.mp (FrameHandler.parseFrame_ok.mp hparse)).1).symm
    subst hfit
    have hverdict : ∀ now s, en.verdict now s (serialize f) =
        en.handler.verdictOn (now .skewCheck) s.windows f := by
      intro now s
      simp only [Engine.verdict, FrameHandler.verdict, hparse]
    have hregistered : store.currentKeyVersionForReader f.header.readerId ≠ 0 := by
      intro hnone
      exact hzero (hkv.symm.trans hnone)
    have hhandler : en.handler.store = some store := hstore
    by_cases hforbidden : en.handler.config.enforceReaderDoorBinding = true ∧
        store.isReaderAllowedDoor f.header.readerId f.header.doorId = false
    · have hrefused : ∀ now s, en.verdict now s (serialize f) =
          makeError "reader_door_forbidden" f.header := by
        intro now s
        rw [hverdict]
        simp only [FrameHandler.verdictOn, hhandler, if_neg hregistered, if_pos hforbidden]
      exact ⟨_, judged_of_refused hrefused rfl (by simp [makeError]) (.inr (by simp [makeError]))⟩
    · have hkey : en.handler.keyOk f.header.keyVersion
          (store.currentKeyVersionForReader f.header.readerId) = true :=
        FrameHandler.keyOk_iff.mpr (.inl hkv.symm)
      have hopens : en.handler.opens f = some payload := h.opens hopen payload
      refine ⟨f.header, judged_of_opened (fun now => en.handler.skew (now .skewCheck) f)
        (fun now s => ?_) fun now error herror => FrameHandler.skew_code herror⟩
      rw [hverdict]
      simp only [FrameHandler.verdictOn, hhandler, if_neg hregistered, if_neg hforbidden, hkey,
        Bool.true_eq_false, if_false]
      have hseen : (en.handler.config.antiReplayEnabled = true ∧
          s.windows.contains f.header.readerId f.header.seq = true) ↔
          en.seen f.header s = true := (Bool.and_eq_true _ _).symm ▸ Iff.rfl
      by_cases hreplay : en.seen f.header s = true
      · rw [if_pos hreplay, if_pos (hseen.mpr hreplay)]
      · rw [if_neg hreplay, if_neg fun hboth => hreplay (hseen.mp hboth), FrameHandler.decryption,
          hopens]
        cases en.handler.skew (now .skewCheck) f <;> rfl

/-! ## The loop -/

theorem returns_decisionEndpoint {env : Env} (henv : env.NoFault) {body : Bytes} (hbody : body ≠ [])
    {s t : EngineState} {reply : DecisionReply} : Returns (decisionEndpoint en env body) s reply t ↔
    ∃ r, Returns (en.handleFrameBytes env body) s r t ∧
      reply = { status := 200, allow := r.allow, reason := r.reason } := by
  have htotal : Total (do
      let r ← en.handleFrameBytes env body
      return ({ status := 200, allow := r.allow, reason := r.reason } : DecisionReply)) s :=
    total_bind (Engine.handleFrameBytes_total en henv body s) fun _ _ _ => total_pure _ _
  unfold decisionEndpoint
  rw [if_neg (by simpa using hbody), returns_recover htotal]
  simp

/-- The loop processes the frame once for each delivery, and returns the last answer. -/
theorem returns_remoteDecision {body : Bytes} (hbody : body ≠ []) {attempts : List Attempt}
    (hfaults : ∀ attempt ∈ attempts, attempt.env.NoFault) {s t : EngineState} {r : DecisionResult}
    (h : Returns (remoteDecision en body attempts) s r t) :
    t = run (en.process body) s (deliveries attempts) ∧
    (answered attempts = true → ∃ before last d, deliveries attempts = before ++ [last] ∧
      Returns (en.handleFrameBytes last body) (run (en.process body) s before) d t ∧
      r.allow = d.allow) := by
  induction attempts generalizing s with
  | nil =>
    obtain ⟨-, rfl⟩ := returns_pure.mp h
    exact ⟨rfl, by simp [answered]⟩
  | cons attempt attempts ih =>
    have hrest : ∀ c ∈ attempts, c.env.NoFault := fun c hc => hfaults c (.tail _ hc)
    have henv := hfaults attempt (.head _)
    unfold remoteDecision Attempt.post at h
    cases hdelivery : attempt.delivery with
    | requestLost =>
      simp only [hdelivery, returns_bind, returns_pure] at h
      obtain ⟨_, _, ⟨rfl, rfl⟩, h⟩ := h
      simpa [deliveries, answered, hdelivery] using ih hrest h
    | responseLost =>
      simp only [hdelivery, returns_bind, returns_pure,
        returns_decisionEndpoint henv hbody] at h
      obtain ⟨_, u, ⟨_, _, ⟨d, hcall, -⟩, rfl, rfl⟩, h⟩ := h
      obtain rfl : en.process body s attempt.env = u := hcall.after_eq
      obtain ⟨ht, hanswer⟩ := ih hrest h
      refine ⟨by simpa [deliveries, hdelivery] using ht, fun hanswered => ?_⟩
      obtain ⟨before, last, e, hdeliveries, hlast⟩ :=
        hanswer (by simpa [answered, hdelivery] using hanswered)
      exact ⟨attempt.env :: before, last, e, by simp [deliveries, hdelivery, hdeliveries], hlast⟩
    | answered =>
      simp only [hdelivery, returns_bind, returns_pure,
        returns_decisionEndpoint henv hbody] at h
      obtain ⟨_, u, ⟨_, _, ⟨d, hcall, rfl⟩, rfl, rfl⟩, h⟩ := h
      simp only [if_true, returns_pure] at h
      obtain ⟨rfl, rfl⟩ := h
      have ht : en.process body s attempt.env = t := hcall.after_eq
      refine ⟨by simp [deliveries, hdelivery, ht], fun _ => ?_⟩
      exact ⟨[], attempt.env, d, by simp [deliveries, hdelivery], hcall, rfl⟩

/-! ## Scans -/

/-- The frame of a scan has been processed at most once, as far as windows, detector and
answer can tell, and no repetition has put a reader in quarantine. -/
structure RetrySafe (en : Engine) (body : Bytes) (attempts : List Attempt) (s t : EngineState)
    (allow : Bool) : Prop where
  undelivered : deliveries attempts = [] → en.SameState s t
  state : ∀ first ∈ (deliveries attempts).head?,
    en.SameState s t ∨ en.SameState (en.process body s first) t
  answer : ∀ first ∈ (deliveries attempts).head?, answered attempts = true →
    ∀ d u, Returns (en.handleFrameBytes first body) s d u → allow = d.allow
  quarantine : ∀ first ∈ (deliveries attempts).head?, en.detectorActive = true → ∀ r,
    t.readers.isQuarantined r = true → (en.process body s first).readers.isQuarantined r = true

theorem RetrySafe.congr {body : Bytes} {attempts : List Attempt} {s u t : EngineState}
    {allow : Bool} (hfaults : ∀ env ∈ deliveries attempts, env.NoFault)
    (hsame : Engine.SameControl s u) (h : RetrySafe en body attempts s t allow) :
    RetrySafe en body attempts u t allow := by
  have hstate : en.SameState u s := (Engine.SameState.of_control hsame).symm
  have hprocess : ∀ first ∈ (deliveries attempts).head?,
      en.SameState (en.process body u first) (en.process body s first) :=
    fun first hfirst => (Engine.process_congr en body
      (hfaults first (List.mem_of_mem_head? hfirst)) hsame).symm
  constructor
  · intro hnone
    exact hstate.trans (h.undelivered hnone)
  · intro first hfirst
    rcases h.state first hfirst with hs | hs
    · exact .inl (hstate.trans hs)
    · exact .inr ((hprocess first hfirst).trans hs)
  · intro first hfirst hanswered d v hd
    have henv := hfaults first (List.mem_of_mem_head? hfirst)
    obtain ⟨r, hr, -⟩ := Engine.process_effect en body henv s
    rw [h.answer first hfirst hanswered _ _ hr, Engine.answer_congr hsame hr hd]
  · intro first hfirst hactive r hquar
    rw [← (hprocess first hfirst).isQuarantined]
    exact h.quarantine first hfirst hactive r hquar

/-- The attempts to post the frame of a scan: none for an unknown reader. -/
def AppState.posts (app : AppState) (scan : Scan) : List Attempt :=
  if app.store.currentKeyVersionForReader scan.req.readerId = 0 then [] else scan.attempts.toList

/-- The frame of a scan with this payload. -/
def AppState.frameBytes (app : AppState) (scan : Scan) (payload : Bytes) : Bytes :=
  serialize ((app.sendRequest scan (app.store.currentKeyVersionForReader
    scan.req.readerId)).frame app.keyManager payload)

/-- The retries of a scan are safe; nothing happens when nothing is posted. -/
structure AppState.RetrySafe (app : AppState) (scan : Scan) (s t : EngineState) (allow : Bool) :
    Prop where
  unposted : app.posts scan = [] → app.engine.SameState s t
  posted : ∀ payload, buildPayloadJson scan.req.uid scan.req.action = .ok payload →
    Admin.RetrySafe app.engine (app.frameBytes scan payload) (app.posts scan) s t allow

/-- The frame is delivered more than once, and the repetitions are noticed. -/
def AppState.RetryHarmful (app : AppState) (scan : Scan) (s : EngineState) : Prop :=
  ∃ payload first mid last, buildPayloadJson scan.req.uid scan.req.action = .ok payload ∧
    deliveries (app.posts scan) = first :: (mid ++ [last]) ∧
    app.engine.Harmful (app.frameBytes scan payload)
      (app.engine.verdict first.now s (app.frameBytes scan payload)).header payload s first
      (mid ++ [last]) last (answered (app.posts scan))

omit [Sodium] [JsonLib] in
theorem head_delivery {attempts : List Attempt} {first c : Env} {rest : List Env}
    (h : deliveries attempts = first :: rest) (hc : c ∈ (deliveries attempts).head?) :
    c = first := by
  rw [h] at hc
  simpa [eq_comm] using hc

/-- One delivery is safe. -/
theorem retrySafe_of_single {body : Bytes} {attempts : List Attempt} {first : Env}
    (hdeliveries : deliveries attempts = [first]) {s t : EngineState} {allow : Bool}
    (ht : t = en.process body s first) (hanswer : answered attempts = true →
      ∃ d, Returns (en.handleFrameBytes first body) s d t ∧ allow = d.allow) :
    RetrySafe en body attempts s t allow := by
  subst ht
  have hhead : ∀ c ∈ (deliveries attempts).head?, c = first := fun c => head_delivery hdeliveries
  constructor
  · intro hnone
    simp [hdeliveries] at hnone
  · intro c hc
    rw [hhead c hc]
    exact .inr (.refl en _)
  · intro c hc hanswered d u hd
    rw [hhead c hc] at hd
    obtain ⟨r, hr, hallow⟩ := hanswer hanswered
    rw [hallow, (hr.unique hd).1]
  · intro c hc _ r hquar
    rwa [hhead c hc]

/-- Several deliveries are safe when the repetitions are. -/
theorem retrySafe_iff_repeatSafe {body : Bytes} {attempts : List Attempt} {first last : Env}
    {mid : List Env} (hdeliveries : deliveries attempts = first :: (mid ++ [last]))
    {s t : EngineState} {allow : Bool}
    (ht : t = run (en.process body) s (first :: (mid ++ [last])))
    (hanswer : answered attempts = true →
      ∃ d, Returns (en.handleFrameBytes last body) (run (en.process body) s (first :: mid)) d t ∧
        allow = d.allow) :
    RetrySafe en body attempts s t allow ↔
      en.RepeatSafe body s first mid last (answered attempts) := by
  subst ht
  have hhead : ∀ c ∈ (deliveries attempts).head?, c = first := fun c => head_delivery hdeliveries
  have hmem : first ∈ (deliveries attempts).head? := by simp [hdeliveries]
  constructor
  · intro hsafe
    refine ⟨hsafe.state first hmem, fun hanswered r d t u hr hd => ?_,
      hsafe.quarantine first hmem⟩
    obtain ⟨e, he, hallow⟩ := hanswer hanswered
    rw [(hd.unique he).1, ← hallow, hsafe.answer first hmem hanswered r t hr]
  · intro hsafe
    constructor
    · intro hnone
      simp [hdeliveries] at hnone
    · intro c hc
      rw [hhead c hc]
      exact hsafe.state
    · intro c hc hanswered r u hr
      rw [hhead c hc] at hr
      obtain ⟨d, hd, hallow⟩ := hanswer hanswered
      rw [hallow, hsafe.answer hanswered r d u _ hr hd]
    · intro c hc
      rw [hhead c hc]
      exact hsafe.quarantine

/-- The loop, for bytes that the handler judges by replay and time. -/
theorem retrySafe_remoteDecision {body : Bytes} {header : Header} {payload : Bytes}
    (hbody : body ≠ []) (hj : en.Judged body header payload) {attempts : List Attempt}
    (hfaults : ∀ attempt ∈ attempts, attempt.env.NoFault) {s t : EngineState} {r : DecisionResult}
    (h : Returns (remoteDecision en body attempts) s r t) :
    RetrySafe en body attempts s t r.allow ↔ ∀ first mid last,
      deliveries attempts = first :: (mid ++ [last]) →
        ¬ en.Harmful body header payload s first (mid ++ [last]) last (answered attempts) := by
  have henvs := noFault_deliveries hfaults
  obtain ⟨ht, hanswer⟩ := returns_remoteDecision hbody hfaults h
  cases hdeliveries : deliveries attempts with
  | nil =>
    obtain rfl : t = s := by rw [ht, hdeliveries, run_nil]
    refine iff_of_true ?_ (by simp)
    refine ⟨fun _ => .refl en _, ?_, ?_, ?_⟩ <;> simp [hdeliveries]
  | cons first rest =>
    cases rest using List.reverseRecOn with
    | nil =>
      refine iff_of_true (retrySafe_of_single hdeliveries (by rw [ht, hdeliveries]; rfl) ?_)
        (by simp)
      intro hanswered
      obtain ⟨before, last, d, heq, hd, hallow⟩ := hanswer hanswered
      have hsplit : [] ++ [first] = before ++ [last] := hdeliveries.symm.trans heq
      obtain ⟨rfl, hlast⟩ := List.append_inj' hsplit rfl
      obtain rfl : first = last := by simpa using hlast
      exact ⟨d, hd, hallow⟩
    | append_singleton mid last _ =>
      rw [hdeliveries] at henvs ht
      have hfirst := henvs first (by simp)
      rw [retrySafe_iff_repeatSafe hdeliveries ht, Engine.repeated_safe_iff hj hfirst
        (fun env henv => henvs env (by simp [henv])) (henvs last (by simp))]
      · constructor
        · intro hharm c mid' last' heq
          obtain ⟨rfl, hsplit⟩ := List.cons.inj heq
          obtain ⟨rfl, hlast⟩ := List.append_inj' hsplit rfl
          obtain rfl : last = last' := by simpa using hlast
          exact hharm
        · intro hharm
          exact hharm first mid last rfl
      · intro hanswered
        obtain ⟨before, last', d, heq, hd, hallow⟩ := hanswer hanswered
        have hsplit : (first :: mid) ++ [last] = before ++ [last'] :=
          hdeliveries.symm.trans heq
        obtain ⟨rfl, hlast⟩ := List.append_inj' hsplit rfl
        obtain rfl : last = last' := by simpa using hlast
        exact ⟨d, hd, hallow⟩

/-- Retries are safe exactly when the frame is delivered at most once or the repetitions are
without effect. -/
theorem retry_safe_iff (hopen : OpenInvertsSeal) {app : AppState}
    (hremote : app.cfg.decisionMode = "remote") {scan : Scan}
    (hfaults : ∀ attempt ∈ scan.attempts.toList, attempt.env.NoFault) {s t : EngineState}
    {resp : HwResponse} (h : Returns (app.processHwUid scan) s resp t) :
    app.RetrySafe scan s t resp.allow ↔ ¬ app.RetryHarmful scan s := by
  obtain ⟨hzero, rfl, hsame⟩ | ⟨hzero, frameBytes, u, r, hbuild, hsame, hallow, -, hcall⟩ :=
    returns_processHwUid h
  · have hposts : app.posts scan = [] := if_pos hzero
    have hdeliveries : deliveries (app.posts scan) = [] := by rw [hposts]; rfl
    have hstate : app.engine.SameState s t := .of_control hsame
    refine iff_of_true ⟨fun _ => hstate, fun payload _ => ⟨fun _ => hstate, ?_, ?_, ?_⟩⟩ ?_
    · simp [hdeliveries]
    · simp [hdeliveries]
    · simp [hdeliveries]
    · rintro ⟨payload, first, mid, last, -, heq, -⟩
      simp [hdeliveries] at heq
  · have hposts : app.posts scan = scan.attempts.toList := if_neg hzero
    rw [if_pos hremote, ← hposts] at hcall
    rw [← hposts] at hfaults
    obtain ⟨payload, hpayload, rfl⟩ := SendRequest.build_ok_iff.mp hbuild
    obtain ⟨header, hj⟩ : ∃ header,
        app.engine.Judged (app.frameBytes scan payload) header payload :=
      (app.sharedModes scan _).judged hopen (show app.engine.store = some app.store from rfl) rfl
        hzero payload
    have hbody : app.frameBytes scan payload ≠ [] := by
      intro hnil
      have hlength := congrArg List.length hnil
      unfold AppState.frameBytes at hlength
      rw [length_serialize] at hlength
      simp at hlength
    have hiff := retrySafe_remoteDecision hbody hj hfaults hcall
    rw [hallow]
    constructor
    · rintro hsafe ⟨payload', first, mid, last, hpayload', hdeliveries, hharm⟩
      obtain rfl : payload = payload' := Except.ok.inj (hpayload.symm.trans hpayload')
      rw [hj.header_eq] at hharm
      have hretry := (hsafe.posted payload hpayload).congr (noFault_deliveries hfaults) hsame
      exact hiff.mp hretry first mid last hdeliveries (hharm.congr hsame)
    · intro hnot
      refine ⟨fun hnone => ?_, fun payload' hpayload' => ?_⟩
      · have hlength := congrArg List.length (hposts.symm.trans hnone)
        simp at hlength
      · obtain rfl : payload = payload' := Except.ok.inj (hpayload.symm.trans hpayload')
        refine RetrySafe.congr (noFault_deliveries hfaults) ⟨hsame.1.symm, hsame.2.symm⟩
          (hiff.mpr fun first mid last hdeliveries hharm => hnot ?_)
        refine ⟨payload, first, mid, last, hpayload, hdeliveries, ?_⟩
        rw [hj.header_eq]
        exact hharm.congr ⟨hsame.1.symm, hsame.2.symm⟩

end

/-! ## A lost response -/

/-- The sample application with a remote decision. -/
def remoteApp : AppState :=
  { sampleApp with cfg := { sampleApp.cfg with decisionMode := "remote" } }

/-- A scan at reader 7 whose first post is processed without an answer. -/
def retriedScan : Scan :=
  { sampleScan 1 .answered with
    attempts := #v[⟨.responseLost, .quiet⟩, ⟨.answered, .quiet⟩, ⟨.answered, .quiet⟩] }

/-- The frame of the sample scan when nothing is encrypted. -/
def retriedBytes : Bytes :=
  letI : Sodium := .transparent
  letI : JsonLib := .requests
  remoteApp.frameBytes retriedScan (RequestText.dump (bytesOf "card") (bytesOf "open"))

/-- The first post is granted; the second one is denied and ends in quarantine. -/
theorem retry_quarantines :
    letI : Sodium := .transparent
    letI : JsonLib := .requests
    (∃ d u, Returns (remoteApp.engine.handleFrameBytes .quiet retriedBytes) .initial d u ∧
      d.allow = true ∧ u.readers.isQuarantined 7 = false) ∧
    ∃ resp t, Returns (remoteApp.processHwUid retriedScan) .initial resp t ∧
      resp.allow = false ∧ t.readers.isQuarantined 7 = true ∧
      ¬ remoteApp.RetrySafe retriedScan .initial t resp.allow := by
  let _ : Sodium := .transparent
  let _ : JsonLib := .requests
  have hfirst : (match remoteApp.engine.handleFrameBytes .quiet retriedBytes .initial with
      | .ok d u => d.allow && !u.readers.isQuarantined 7
      | .error _ _ => false) = true := by decide +kernel
  have hscan : (match remoteApp.processHwUid retriedScan .initial with
      | .ok resp t => !resp.allow && t.readers.isQuarantined 7
      | .error _ _ => false) = true := by decide +kernel
  cases hcall : remoteApp.engine.handleFrameBytes .quiet retriedBytes .initial with
  | error e u => simp [hcall] at hfirst
  | ok d u =>
    cases hrun : remoteApp.processHwUid retriedScan .initial with
    | error e t => simp [hrun] at hscan
    | ok resp t =>
      simp only [hcall, hrun, Bool.and_eq_true, Bool.not_eq_true'] at hfirst hscan
      refine ⟨⟨d, u, hcall, hfirst.1, hfirst.2⟩, resp, t, hrun, hscan.1, hscan.2, fun hsafe => ?_⟩
      have hposted := hsafe.posted (RequestText.dump (bytesOf "card") (bytesOf "open")) rfl
      have hquar := hposted.quarantine .quiet rfl rfl 7 hscan.2
      have hafter : remoteApp.engine.process retriedBytes .initial .quiet = u :=
        Returns.after_eq hcall
      have hsame : (remoteApp.engine.process retriedBytes .initial .quiet).readers.isQuarantined 7 =
        true := hquar
      rw [hafter, hfirst.2] at hsame
      exact absurd hsame (by simp)

/-- One post that is answered is safe. -/
theorem retry_safe_iff_answered :
    letI : Sodium := .transparent
    letI : JsonLib := .requests
    ∃ resp t, Returns (remoteApp.processHwUid (sampleScan 1 .answered)) .initial resp t ∧
      resp.allow = true ∧ remoteApp.RetrySafe (sampleScan 1 .answered) .initial t resp.allow := by
  let _ : Sodium := .transparent
  let _ : JsonLib := .requests
  have hscan : (match remoteApp.processHwUid (sampleScan 1 .answered) .initial with
      | .ok resp _ => resp.allow
      | .error _ _ => false) = true := by decide +kernel
  have hfaults : ∀ attempt ∈ (sampleScan 1 .answered).attempts.toList, attempt.env.NoFault := by
    intro attempt hattempt
    have hquiet : attempt = ⟨.answered, .quiet⟩ := by simpa [sampleScan] using hattempt
    rw [hquiet]
    exact Env.quiet_noFault
  cases hrun : remoteApp.processHwUid (sampleScan 1 .answered) .initial with
  | error e t => simp [hrun] at hscan
  | ok resp t =>
    simp only [hrun] at hscan
    refine ⟨resp, t, hrun, hscan, (retry_safe_iff Sodium.transparent_openInvertsSeal rfl hfaults
      hrun).mpr ?_⟩
    rintro ⟨payload, first, mid, last, -, hdeliveries, -⟩
    have hlength := congrArg List.length hdeliveries
    have hone : (deliveries (remoteApp.posts (sampleScan 1 .answered))).length = 1 := rfl
    simp [hone] at hlength

end AccessSecurity.Admin
