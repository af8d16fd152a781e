import AccessSecurity.Decision.Outcome
import AccessSecurity.Decision.Preserved

/-!
# Frames of readers in quarantine

While a reader is in quarantine no call touches its detector state, whatever the call
does about other readers and whether it returns or throws (`handleFrameBytes_keeps`), and
every frame in its name is denied. The frame handler however has run before the
quarantine is looked at: a frame that it accepts is recorded in the replay window.
-/

namespace AccessSecurity.Decision.Engine

open Foundation Protocol Crypto Core

/-! ## Frames of the reader itself -/

section

variable [Sodium] [JsonLib] {en : Engine} (hactive : en.detectorActive = true)

include hactive in
/-- The state of a quarantined reader survives every call. For a frame of another reader
the detector works on that reader; for one of the reader itself the call stops at the
quarantine check. -/
theorem handleFrameBytes_keeps {readerId : UInt32} {state : ReaderState}
    (hstate : state.quarantine.isSome = true) (env : Env) (frameBytes : Bytes) :
    Keeps (fun s => s.readers readerId = some state) (en.handleFrameBytes env frameBytes) := by
  have hlog : ∀ s t : EngineState, SameControl s t → s.readers readerId = some state →
      t.readers readerId = some state := by
    intro s t hsame hs
    rw [hsame.2, hs]
  have hlogless : Logless fun s => s.readers readerId = some state := .of_control hlog
  have hzoom : Keeps (fun s => s.readers readerId = some state)
      (zoom EngineState.windows (fun windows s => { s with windows })
        (en.handler.handle env frameBytes)) := by
    apply keeps_zoom
    intro windows s hs
    exact hs
  refine keeps_bind hzoom fun res => ?_
  refine keeps_bind (push_keeps hlog en _) fun _ => keeps_get_bind fun s hs => ?_
  by_cases hreader : res.header.readerId = readerId
  · have hquar : s.readers.isQuarantined res.header.readerId = true := by
      rw [hreader, Readers.isQuarantined, hs]
      exact hstate
    rw [if_pos ⟨hactive, hquar⟩]
    exact refuseQuarantined_keeps hlog en env res
  · have hreport : ∀ {α : Type} (op : ReaderState → α × ReaderState) (s : EngineState),
        s.readers readerId = some state →
        (s.readers.report res.header.readerId op).2 readerId = some state := by
      intro α op s hs
      rw [Readers.report_of_ne _ _ (Ne.symm hreader), hs]
    split_ifs
    · exact refuseQuarantined_keeps hlog en env res
    refine keeps_bind (checkRollback_keeps hreport hlogless.events en env rfl) fun refused => ?_
    split_ifs
    · exact refuseQuarantined_keeps hlog en env res
    refine keeps_bind (checkNonce_keeps hreport hlogless.events en env rfl) fun refused => ?_
    split_ifs
    · exact refuseQuarantined_keeps hlog en env res
    · exact finish_keeps hlog hreport en env rfl

variable {env : Env} {frameBytes : Bytes} {frame : Frame}
  (hparse : parseFrame frameBytes en.frameHandlerCfg.maxCtLen = .ok frame)
  {s t : EngineState} (hquar : s.readers.isQuarantined frame.header.readerId = true)

include hactive hparse hquar in
theorem denied_of_isQuarantined {r : DecisionResult}
    (h : Returns (en.handleFrameBytes env frameBytes) s r t) :
    r = createDeniedResult "quarantined" := by
  have hheader : (en.verdict env.now s frameBytes).header = frame.header :=
    FrameHandler.verdict_header hparse
  rw [(returns_handleFrameBytes h).answer, answer, hheader]
  simp [screen, hactive, hquar]

include hparse in
/-- Only an accepted frame changes the replay windows. -/
theorem windows_unchanged_iff {r : DecisionResult}
    (h : Returns (en.handleFrameBytes env frameBytes) s r t) :
    (∀ q n, t.windows.contains q n = s.windows.contains q n) ↔
    ¬ (en.frameHandlerCfg.antiReplayEnabled = true ∧ ∃ plaintext,
      en.handler.Accepts (env.now .skewCheck) s.windows frameBytes frame plaintext) := by
  obtain ⟨hrecord, hrefuse⟩ := (returns_handleFrameBytes h).windows
  constructor
  · rintro hsame ⟨hreplay, plaintext, haccepts⟩
    have hverdict : en.verdict env.now s frameBytes =
        { allow := true, reason := "ok", plaintext, header := frame.header } := haccepts.verdict
    obtain ⟨-, store, hpasses⟩ := haccepts
    have hfresh := hpasses.fresh hreplay
    rw [← hsame, hrecord (by rw [hverdict]), hverdict,
      FrameHandler.recordFrame_on hreplay, ReplayWindowMap.contains_record_self] at hfresh
    exact absurd hfresh (by simp)
  · intro hnot
    cases hallow : (en.verdict env.now s frameBytes).allow with
    | false => exact (hrefuse hallow).contains
    | true =>
      obtain ⟨frame', plaintext, haccepts⟩ := FrameHandler.accepts_of_allow hallow
      obtain rfl : frame = frame' := Except.ok.inj (hparse.symm.trans haccepts.1)
      have hoff : ¬ en.frameHandlerCfg.antiReplayEnabled = true := by
        intro hreplay
        exact hnot ⟨hreplay, plaintext, haccepts⟩
      intro q n
      rw [hrecord hallow, FrameHandler.recordFrame_off hoff]

include hactive hparse hquar in
/-- A frame of a reader in quarantine is denied and leaves the windows alone unless the
frame handler accepts it: the handler records the number before the quarantine check. -/
theorem quarantined_without_effect_iff :
    (env.NoFault → Total (en.handleFrameBytes env frameBytes) s) ∧
    ∀ r t, Returns (en.handleFrameBytes env frameBytes) s r t →
      ((r = createDeniedResult "quarantined" ∧
          ∀ q n, t.windows.contains q n = s.windows.contains q n) ↔
        ¬ (en.frameHandlerCfg.antiReplayEnabled = true ∧ ∃ plaintext,
          en.handler.Accepts (env.now .skewCheck) s.windows frameBytes frame plaintext)) := by
  refine ⟨fun henv => handleFrameBytes_total en henv frameBytes s, fun r t h => ?_⟩
  rw [← windows_unchanged_iff hparse h, and_iff_right]
  exact denied_of_isQuarantined hactive hparse hquar h

end

/-- Reader 7 is in quarantine. -/
def locked : EngineState :=
  { EngineState.initial with
    readers := fun r => if r = 7 then some { quarantine := some ⟨0, .seqReuse, "seq=1"⟩ }
      else none }

theorem quarantined_without_effect_iff_knock :
    letI : Sodium := .transparent
    letI : JsonLib := .requests
    ∃ r t, Returns (permissive.handleFrameBytes .quiet (serialize knock)) locked r t ∧
      ((r = createDeniedResult "quarantined" ∧
          ∀ q n, t.windows.contains q n = locked.windows.contains q n) ↔
        ¬ (permissive.frameHandlerCfg.antiReplayEnabled = true ∧ ∃ plaintext,
          permissive.handler.Accepts 0 locked.windows (serialize knock) knock plaintext)) := by
  let _ : Sodium := .transparent
  let _ : JsonLib := .requests
  have hactive : permissive.detectorActive = true := rfl
  have hparse : parseFrame (serialize knock) permissive.frameHandlerCfg.maxCtLen = .ok knock := by
    decide +kernel
  have hquar : locked.readers.isQuarantined knock.header.readerId = true := by decide +kernel
  obtain ⟨htotal, hiff⟩ := quarantined_without_effect_iff hactive hparse hquar
  obtain ⟨r, t, h⟩ := htotal Env.quiet_noFault
  exact ⟨r, t, h, hiff r t h⟩

/-- A frame that is refused during quarantine counts as seen afterwards. -/
theorem quarantined_frame_counts_as_seen :
    letI : Sodium := .transparent
    letI : JsonLib := .requests
    parseFrame (serialize knock) permissive.frameHandlerCfg.maxCtLen = .ok knock ∧
      locked.readers.isQuarantined knock.header.readerId = true ∧
      locked.windows.contains 7 1 = false ∧
      ∃ t, Returns (permissive.handleFrameBytes .quiet (serialize knock)) locked
          (createDeniedResult "quarantined") t ∧
        t.windows.contains 7 1 = true := by
  let _ : Sodium := .transparent
  let _ : JsonLib := .requests
  have hparse : parseFrame (serialize knock) permissive.frameHandlerCfg.maxCtLen = .ok knock := by
    decide +kernel
  have hquar : locked.readers.isQuarantined knock.header.readerId = true := by decide +kernel
  obtain ⟨r, t, h⟩ :=
    handleFrameBytes_total permissive Env.quiet_noFault (serialize knock) locked
  obtain rfl := denied_of_isQuarantined rfl hparse hquar h
  have hallow : (permissive.verdict Env.quiet.now locked (serialize knock)).allow = true := by
    decide +kernel
  have hheader : (permissive.verdict Env.quiet.now locked (serialize knock)).header =
      knock.header := FrameHandler.verdict_header hparse
  refine ⟨hparse, hquar, rfl, t, h, ?_⟩
  rw [(returns_handleFrameBytes h).windows.1 hallow, hheader, FrameHandler.recordFrame_on rfl]
  exact ReplayWindowMap.contains_record_self ..

end AccessSecurity.Decision.Engine
