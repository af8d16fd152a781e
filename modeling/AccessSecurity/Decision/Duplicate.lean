import AccessSecurity.Decision.Mediation
import AccessSecurity.Decision.OneReader

/-!
# The same frame again

What becomes of the engine when the same bytes are processed several times. The handler's
verdict on a sender's frame depends on the state through the replay check and on the clock
through the timestamp only (`Judged`), and the frame changes the window and the detector
state of its reader only.
-/

namespace AccessSecurity.Decision.Engine

open Foundation Protocol Crypto Core

/-! ## Windows and detector -/

/-- The replay windows and the detector cannot be told apart. -/
structure SameState (en : Engine) (s t : EngineState) : Prop where
  windows : s.windows.Same en.frameHandlerCfg.replayWindowSize t.windows
  readers : ∀ r, t.readers.getState r = s.readers.getState r

theorem SameState.refl (en : Engine) (s : EngineState) : en.SameState s s :=
  ⟨fun _ => rfl, fun _ => rfl⟩

theorem SameState.trans {en : Engine} {s t u : EngineState} (h : en.SameState s t)
    (h' : en.SameState t u) : en.SameState s u :=
  ⟨fun r => (h'.windows r).trans (h.windows r), fun r => (h'.readers r).trans (h.readers r)⟩

theorem SameState.symm {en : Engine} {s t : EngineState} (h : en.SameState s t) :
    en.SameState t s :=
  ⟨fun r => (h.windows r).symm, fun r => (h.readers r).symm⟩

theorem SameState.isQuarantined {en : Engine} {s t : EngineState} (h : en.SameState s t)
    (r : UInt32) : t.readers.isQuarantined r = s.readers.isQuarantined r := by
  rw [Readers.isQuarantined_eq, Readers.isQuarantined_eq, h.readers]

theorem SameState.of_control {en : Engine} {s t : EngineState} (h : SameControl s t) :
    en.SameState s t :=
  ⟨fun _ => by rw [h.1], fun _ => by rw [h.2]⟩

/-- The replay check finds the number of the frame. -/
def seen (en : Engine) (header : Header) (s : EngineState) : Bool :=
  en.frameHandlerCfg.antiReplayEnabled && s.windows.contains header.readerId header.seq

theorem SameState.seen {en : Engine} {s t : EngineState} (h : en.SameState s t)
    (header : Header) : en.seen header t = en.seen header s := by
  unfold Engine.seen
  rw [h.windows.contains]

/-! ## Bytes that are judged by replay and time -/

section

variable [Sodium] [JsonLib]

/-- The handler accepts the bytes. -/
def accepts (en : Engine) (body : Bytes) (s : EngineState) (env : Env) : Bool :=
  (en.verdict env.now s body).allow

/-- The handler's verdict on the bytes depends on the state through the replay check, and on
the clock only while the number has not been seen. -/
structure Judged (en : Engine) (body : Bytes) (header : Header) (payload : Bytes) : Prop where
  header_eq : ∀ now s, (en.verdict now s body).header = header
  accepted : ∀ now s, (en.verdict now s body).allow = true →
    (en.verdict now s body).plaintext = payload ∧ en.seen header s = false
  harmless : ∀ now s, (en.verdict now s body).reason ≠ "replay" →
    Harmless (en.verdict now s body)
  replay : ∀ now s, (en.verdict now s body).reason = "replay" →
    (en.verdict now s body).allow = false ∧ en.seen header s = true
  unseen : ∀ now s t, en.seen header s = false → en.seen header t = false →
    en.verdict now s body = en.verdict now t body
  known : ∀ now now' s t, en.seen header s = true → en.seen header t = true →
    en.verdict now s body = en.verdict now' t body
  again : ∀ now now' s t, (en.verdict now s body).allow = true → en.seen header t = true →
    (en.verdict now' t body).reason = "replay"

/-- The policy grants the request in the payload of a frame. -/
def Grants (en : Engine) (header : Header) (payload : Bytes) : Prop :=
  ∃ request, parseAccessRequestJson payload = .ok request ∧
    (en.policy header request).allow = true

/-- The state in which a call ends. -/
def process (en : Engine) (body : Bytes) (s : EngineState) (env : Env) : EngineState :=
  after (en.handleFrameBytes env body) s

/-- Without faults a call returns, with the effect that the tables give. -/
theorem process_effect (en : Engine) (body : Bytes) {env : Env} (henv : env.NoFault)
    (s : EngineState) : ∃ r, Returns (en.handleFrameBytes env body) s r (en.process body s env) ∧
      en.Effect env.now (en.verdict env.now s body) s (en.process body s env) r := by
  obtain ⟨r, t, h⟩ := handleFrameBytes_total en henv body s
  obtain rfl : en.process body s env = t := h.after_eq
  exact ⟨r, h, returns_handleFrameBytes h⟩

omit [JsonLib] in
theorem verdict_congr (en : Engine) (body : Bytes) {s u : EngineState} (h : SameControl s u)
    (now : ClockSite → UInt64) : en.verdict now u body = en.verdict now s body := by
  unfold verdict
  rw [h.1]

/-- Log and events have no influence on the answer. -/
theorem answer_congr {en : Engine} {body : Bytes} {env : Env} {s t u v : EngineState}
    {r d : DecisionResult} (h : SameControl s u) (hr : Returns (en.handleFrameBytes env body) s r t)
    (hd : Returns (en.handleFrameBytes env body) u d v) : d = r := by
  rw [(returns_handleFrameBytes hr).answer, (returns_handleFrameBytes hd).answer, h.2,
    verdict_congr en body h]

theorem process_congr (en : Engine) (body : Bytes) {env : Env} (henv : env.NoFault)
    {s u : EngineState} (h : SameControl s u) :
    en.SameState (en.process body s env) (en.process body u env) := by
  obtain ⟨_, _, hs⟩ := process_effect en body henv s
  obtain ⟨_, _, hu⟩ := process_effect en body henv u
  rw [verdict_congr en body h] at hu
  constructor
  · intro r
    cases hallow : (en.verdict env.now s body).allow with
    | true => rw [hu.windows.1 hallow, hs.windows.1 hallow, h.1]
    | false =>
      have hsame := hu.windows.2 hallow r
      rw [h.1] at hsame
      exact hsame.trans (hs.windows.2 hallow r).symm
  · intro r
    rw [hu.readers, hs.readers, h.2]

variable {en : Engine} {body : Bytes} {header : Header} {payload : Bytes}
  (hj : en.Judged body header payload) {env : Env} (henv : env.NoFault) {s : EngineState}

include hj henv

/-- The detector's state of the frame's reader, by the verdict of the handler. -/
theorem getState_process : (en.process body s env).readers.getState header.readerId =
    (en.readersAfter env.now s.readers (en.verdict env.now s body)).getState
      (en.verdict env.now s body).header.readerId := by
  obtain ⟨_, _, heffect⟩ := process_effect en body henv s
  rw [heffect.readers, hj.header_eq]

theorem getState_process_of_ne {r : UInt32} (hr : r ≠ header.readerId) :
    (en.process body s env).readers.getState r = s.readers.getState r := by
  obtain ⟨_, _, heffect⟩ := process_effect en body henv s
  have hne : r ≠ (en.verdict env.now s body).header.readerId := by rwa [hj.header_eq]
  rw [heffect.readers, getState_readersAfter_of_ne _ hne]

theorem getState_process_of_ignored (h : en.detectorActive = false ∨
    (s.readers.getState header.readerId).quarantine.isSome = true) :
    (en.process body s env).readers.getState header.readerId =
      s.readers.getState header.readerId := by
  have hheader := hj.header_eq env.now s
  rw [getState_process hj henv, getState_readersAfter_of_ignored (by rwa [hheader]), hheader]

theorem isSome_quarantine_process_of_refuses
    (h : en.refuses header (s.readers.getState header.readerId) = true) :
    ((en.process body s env).readers.getState header.readerId).quarantine.isSome = true := by
  rw [getState_process hj henv]
  exact isSome_quarantine_of_refuses (by rwa [hj.header_eq])

theorem isSome_quarantine_process_of_replay (hactive : en.detectorActive = true)
    (h : (en.verdict env.now s body).reason = "replay") :
    ((en.process body s env).readers.getState header.readerId).quarantine.isSome = true := by
  rw [getState_process hj henv]
  exact isSome_quarantine_of_replay hactive (hj.replay _ _ h).1 h

theorem getState_process_of_passes (hactive : en.detectorActive = true)
    (hpass : en.refuses header (s.readers.getState header.readerId) = false)
    (h : (en.verdict env.now s body).reason ≠ "replay") :
    (en.process body s env).readers.getState header.readerId =
      if en.accepts body s env then
        { (s.readers.getState header.readerId).raise header.seq with consecutiveTagFails := 0 }
      else (s.readers.getState header.readerId).raise header.seq := by
  have hheader := hj.header_eq env.now s
  rw [getState_process hj henv, getState_readersAfter_of_harmless hactive (by rwa [hheader])
    (hj.harmless _ _ h), hheader]
  rfl

omit hj in
/-- Only an accepted frame is recorded. -/
theorem windows_process (h : en.frameHandlerCfg.antiReplayEnabled = true →
    en.accepts body s env = false) :
    s.windows.Same en.frameHandlerCfg.replayWindowSize (en.process body s env).windows := by
  obtain ⟨_, _, heffect⟩ := process_effect en body henv s
  obtain ⟨hrecord, hrefuse⟩ := heffect.windows
  cases hallow : (en.verdict env.now s body).allow with
  | false => exact hrefuse hallow
  | true =>
    have hoff : ¬ en.frameHandlerCfg.antiReplayEnabled = true := by
      intro hon
      have hnot := h hon
      unfold accepts at hnot
      rw [hallow] at hnot
      exact absurd hnot (by simp)
    intro r
    rw [hrecord hallow, FrameHandler.recordFrame_off hoff]

/-- The number of an accepted frame is seen from then on. -/
theorem seen_process_of_accepts (hon : en.frameHandlerCfg.antiReplayEnabled = true)
    (h : en.accepts body s env = true) : en.seen header (en.process body s env) = true := by
  obtain ⟨_, _, heffect⟩ := process_effect en body henv s
  unfold seen
  rw [heffect.windows.1 h, FrameHandler.recordFrame_on hon, hj.header_eq, hon, Bool.true_and]
  exact ReplayWindowMap.contains_record_self ..

omit [JsonLib] henv in
theorem not_replay_of_accepts (h : en.accepts body s env = true) :
    (en.verdict env.now s body).reason ≠ "replay" := by
  intro hreplay
  have hdenied := (hj.replay _ _ hreplay).1
  unfold accepts at h
  rw [hdenied] at h
  exact absurd h (by simp)

omit [JsonLib] henv in
theorem accepts_of_seen (h : en.seen header s = true) : en.accepts body s env = false := by
  by_contra hallow
  have hunseen := (hj.accepted env.now s (by simpa [accepts] using hallow)).2
  rw [h] at hunseen
  exact absurd hunseen (by simp)

theorem seen_process (h : en.seen header s = true) :
    en.seen header (en.process body s env) = true := by
  have hwindows := windows_process henv fun _ => accepts_of_seen hj h
  unfold seen at *
  rwa [hwindows.contains]

/-- The call leaves everything as it was. -/
theorem sameState_process (hwindows : en.frameHandlerCfg.antiReplayEnabled = true →
    en.accepts body s env = false) (hstate :
    (en.process body s env).readers.getState header.readerId =
      s.readers.getState header.readerId) : en.SameState s (en.process body s env) := by
  refine ⟨windows_process henv hwindows, fun r => ?_⟩
  by_cases hr : r = header.readerId
  · rw [hr, hstate]
  · exact getState_process_of_ne hj henv hr

omit henv in
/-- The answer to a frame grants access when the detector does not refuse it, the handler
accepts it and the policy grants the request. -/
theorem answer_allow_iff : (en.answer env.now s.readers (en.verdict env.now s body)).allow = true ↔
    en.refuses header (s.readers.getState header.readerId) = false ∧
      en.accepts body s env = true ∧ en.Grants header payload := by
  have hheader := hj.header_eq env.now s
  unfold answer
  rw [screen_fst, hheader]
  cases hrefuses : en.refuses header (s.readers.getState header.readerId) with
  | true => simp [createDeniedResult]
  | false =>
    rw [if_neg (by simp), decide_allow_iff, hheader, and_iff_right rfl]
    refine and_congr_right fun hallow => ?_
    rw [(hj.accepted _ _ hallow).1]
    rfl

/-- The reader's state after a frame that was neither refused nor a replay. -/
theorem passed_process (hactive : en.detectorActive = true)
    (hpass : en.refuses header (s.readers.getState header.readerId) = false)
    (h : (en.verdict env.now s body).reason ≠ "replay") :
    ((en.process body s env).readers.getState header.readerId).quarantine = none ∧
    header.seq ≤ ((en.process body s env).readers.getState header.readerId).maxSeenSeq ∧
    (en.refuses header ((en.process body s env).readers.getState header.readerId) = true ↔
      en.Wraps header (s.readers.getState header.readerId)) := by
  have hstate := getState_process_of_passes hj henv hactive hpass h
  have hquar : ((en.process body s env).readers.getState header.readerId).quarantine =
      (s.readers.getState header.readerId).quarantine := by
    rw [hstate]
    split_ifs <;> simp
  have hseq : ((en.process body s env).readers.getState header.readerId).maxSeenSeq =
      ((s.readers.getState header.readerId).raise header.seq).maxSeenSeq := by
    rw [hstate]
    split_ifs <;> rfl
  refine ⟨hquar.trans ((refuses_eq_false hactive).mp hpass).1, ?_, ?_⟩
  · rw [hseq]
    exact ReaderState.le_maxSeenSeq_raise _ _
  · rw [refuses_again hpass hquar hseq, and_iff_right hactive]

end

end AccessSecurity.Decision.Engine
