import AccessSecurity.Decision.Interruption

/-!
# Bytes that are not a frame

The handler's verdict on bytes that it cannot parse carries an empty header, and the engine
hands it to the detector like any other: as a frame of reader 0 with number 0 and a zero
nonce. The rollback check leaves number 0 out; the quarantine and nonce checks do not.
-/

namespace AccessSecurity.Decision.Engine

open Foundation Protocol Crypto Core

section

variable [Sodium] {en : Engine} {frameBytes : Bytes} {err : HandleResult}
  (h : en.handler.parseFrame frameBytes = .error err)

include h in
theorem verdict_malformed (now : ClockSite → UInt64) (s : EngineState) :
    en.verdict now s frameBytes = err := by
  unfold verdict FrameHandler.verdict
  rw [h]

/-- The detector lets bytes that are not a frame pass. -/
def PassesMalformed (en : Engine) (readers : Readers) : Prop :=
  en.detectorActive = true → readers.isQuarantined 0 = false ∧ en.nonceOk .empty = true

theorem refuses_empty_iff {readers : Readers} :
    en.refuses .empty (readers.getState 0) = false ↔ en.PassesMalformed readers := by
  unfold PassesMalformed
  rw [Readers.isQuarantined_eq]
  cases hactive : en.detectorActive with
  | false => simp [refuses, hactive]
  | true =>
    have hroll : en.rolls .empty (readers.getState 0) = false := by
      rw [← Bool.not_eq_true, rolls_iff]
      rintro ⟨hseq, -⟩
      exact absurd hseq (by decide)
    rw [refuses_eq_false hactive]
    simp [hroll]

include h in
/-- Bytes that pass the detector's checks leave it alone: number 0 is not looked at, and the
codes of parse errors are not reported. -/
theorem readersAfter_malformed {now : ClockSite → UInt64} {readers : Readers}
    (hpass : en.PassesMalformed readers) : en.readersAfter now readers err = readers := by
  have hdeny := (FrameHandler.parseFrame_error h).1
  have hheader := (FrameHandler.parseFrame_error h).2
  obtain ⟨hreplay, hmac, hdecrypt⟩ := FrameHandler.parseFrame_reason h
  have hfst : (en.screen now readers .empty).1 = false := by
    rw [screen_fst]
    exact refuses_empty_iff.mpr hpass
  have hseq : en.afterSeq now readers .empty = readers := if_neg (by decide)
  have hsnd : (en.screen now readers .empty).2 = readers := by
    unfold screen at hfst ⊢
    split_ifs at hfst ⊢
    · rfl
    · exact hseq
  rw [readersAfter, hheader, if_neg (by simp [hfst]), hsnd]
  unfold settle
  simp [hdeny, hreplay, hmac, hdecrypt]

variable [JsonLib] {env : Env} {s : EngineState}

include h in
/-- Bytes that are not a frame change nothing at the detector and are denied with the code of
the parse error exactly when the detector lets them pass: when it is off, or reader 0 is not
in quarantine and the zero nonce is not found to be wrong. -/
theorem malformed_harmless_iff :
    (env.NoFault → Total (en.handleFrameBytes env frameBytes) s) ∧
    (en.PassesMalformed s.readers →
      (after (en.handleFrameBytes env frameBytes) s).readers = s.readers) ∧
    ∀ r t, Returns (en.handleFrameBytes env frameBytes) s r t →
      ((t.readers = s.readers ∧ r = createDeniedResult err.reason) ↔
        en.PassesMalformed s.readers) := by
  have hheader := (FrameHandler.parseFrame_error h).2
  refine ⟨fun henv => handleFrameBytes_total en henv frameBytes s, fun hpass => ?_,
    fun r t hret => ?_⟩
  · obtain ⟨res, windows, hhandle⟩ : Total (en.handler.handle env frameBytes) s.windows := by
      refine FrameHandler.handle_total_of_reader (fun frame hparse => ?_) _
      exact absurd hparse (FrameHandler.parseFrame_ne_ok h frame)
    obtain rfl : res = err :=
      (FrameHandler.returns_handle hhandle).1.trans (verdict_malformed h _ _)
    rw [(after_handleFrameBytes_of_returns hhandle).2]
    exact readersAfter_malformed h hpass
  · obtain ⟨-, hreaders, hanswer⟩ := returns_handleFrameBytes hret
    rw [verdict_malformed h] at hreaders hanswer
    have hzero : Header.empty.readerId = 0 := rfl
    rw [answer, hheader, screen_fst, hzero] at hanswer
    constructor
    · rintro ⟨-, hcode⟩
      rw [← refuses_empty_iff]
      by_contra hrefuses
      rw [Bool.not_eq_false] at hrefuses
      rw [hcode, if_pos hrefuses] at hanswer
      have hreason := congrArg DecisionResult.reason hanswer
      exact FrameHandler.parseFrame_reason_ne h (by decide) hreason
    · intro hpass
      refine ⟨hreaders.trans (readersAfter_malformed h hpass), ?_⟩
      have hrefuses := refuses_empty_iff.mpr hpass
      rw [hanswer, hrefuses, if_neg (by simp), decide, if_pos (FrameHandler.parseFrame_error h).1]

end

/-! ## An empty input -/

/-- The permissive engine, checking nonces. -/
def strict : Engine := { permissive with frameHandlerCfg := {} }

/-- No bytes at all: reader 0, which is registered, is quarantined for a wrong nonce. -/
theorem empty_input_quarantines :
    letI : Sodium := { Sodium.transparent with hmacSha256 := fun _ _ => Vector.replicate 32 1 }
    letI : JsonLib := .requests
    strict.handler.parseFrame [] = .error (makeError "frame_too_small" .empty) ∧
    (EngineState.initial.readers.isQuarantined 0 = false) ∧
    ∃ t, Returns (strict.handleFrameBytes .quiet []) .initial (createDeniedResult "quarantined") t ∧
      t.readers.quarantineInfo 0 = some ⟨0, .nonceMismatch, ""⟩ := by
  let _ : Sodium := { Sodium.transparent with hmacSha256 := fun _ _ => Vector.replicate 32 1 }
  let _ : JsonLib := .requests
  refine ⟨by decide +kernel, rfl, _, returns_after_iff.mpr ?_, ?_⟩
  · decide +kernel
  · decide +kernel

/-- With random nonces the empty input does no harm. -/
theorem malformed_harmless_iff_random :
    letI : Sodium := .transparent
    letI : JsonLib := .requests
    ∃ t, Returns (permissive.handleFrameBytes .quiet []) .initial
      (createDeniedResult "frame_too_small") t ∧ t.readers = EngineState.initial.readers := by
  let _ : Sodium := .transparent
  let _ : JsonLib := .requests
  have hparse : permissive.handler.parseFrame [] =
      .error (makeError "frame_too_small" .empty) := by decide +kernel
  obtain ⟨htotal, -, hiff⟩ := malformed_harmless_iff hparse (s := .initial)
  obtain ⟨r, t, h⟩ := htotal Env.quiet_noFault
  obtain ⟨hreaders, rfl⟩ := (hiff r t h).mpr fun _ => ⟨rfl, rfl⟩
  exact ⟨t, h, hreaders⟩

end AccessSecurity.Decision.Engine
