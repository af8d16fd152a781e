import AccessSecurity.Admin.Unquarantine
import AccessSecurity.Decision.Interruption

/-!
# The rollback baseline

The detector compares the sequence number of a frame with the highest one it has seen from
the reader, and it looks at the number before it looks at the verdict of the handler. A
frame that the handler refuses, a forged one for instance, therefore moves the baseline
whenever its number is new (`baseline_unmoved_iff`).
-/

namespace AccessSecurity.Decision.Engine

open Foundation Protocol Crypto Core

section

variable [Sodium] {en : Engine} {now : ClockSite → UInt64} {readers : Readers}
  {res : HandleResult} (hactive : en.detectorActive = true) (hdeny : res.allow = false)

include hactive hdeny in
/-- The baseline of the frame's reader after a frame that the handler refused. -/
theorem maxSeenSeq_readersAfter :
    ((en.readersAfter now readers res).getState res.header.readerId).maxSeenSeq =
      if (readers.getState res.header.readerId).quarantine.isSome = true ∨
          en.rolls res.header (readers.getState res.header.readerId) = true then
        (readers.getState res.header.readerId).maxSeenSeq
      else ((readers.getState res.header.readerId).raise res.header.seq).maxSeenSeq := by
  cases hquar : (readers.getState res.header.readerId).quarantine with
  | some info =>
    have hsome : (readers.getState res.header.readerId).quarantine.isSome = true := by
      simp [hquar]
    simp [getState_readersAfter_of_ignored (.inr hsome)]
  | none =>
    cases hroll : en.rolls res.header (readers.getState res.header.readerId) with
    | true =>
      rw [getState_readersAfter_of_rolls hactive hquar hroll, ReaderState.reportSeq,
        if_pos (rolls_iff.mp hroll).2]
      simp [ReaderState.doQuarantine]
    | false =>
      cases hnonce : en.nonceOk res.header with
      | false =>
        rw [getState_readersAfter_of_mismatch hactive hquar hroll hnonce]
        simp [ReaderState.reportNonceMismatch, ReaderState.doQuarantine]
      | true =>
        rw [getState_readersAfter_of_passes hactive
          ((refuses_eq_false hactive).mpr ⟨hquar, hroll, hnonce⟩)]
        unfold settled
        rw [if_neg (by simp [hdeny])]
        split_ifs <;> simp_all [ReaderState.reportReplay, ReaderState.doQuarantine,
          ReaderState.maxSeenSeq_reportTagFailure]

variable [JsonLib] {env : Env} {frameBytes : Bytes} {s : EngineState}
  {windows : ReplayWindowMap}

include hactive hdeny in
/-- A frame that the handler refuses moves no baseline exactly when its reader is in
quarantine, its number counts as a rollback, or its number is not above the baseline.
This holds whether the call returns or throws. -/
theorem baseline_unmoved_iff
    (h : Returns (en.handler.handle env frameBytes) s.windows res windows) :
    (∀ r, ((after (en.handleFrameBytes env frameBytes) s).readers.getState r).maxSeenSeq =
      (s.readers.getState r).maxSeenSeq) ↔
    s.readers.isQuarantined (en.handler.headerOf frameBytes).readerId = true ∨
      en.rollsBack s.readers (en.handler.headerOf frameBytes) = true ∨
      (en.handler.headerOf frameBytes).seq ≤
        (s.readers.getState (en.handler.headerOf frameBytes).readerId).maxSeenSeq := by
  have hheader : en.handler.headerOf frameBytes = res.header := by
    rw [(FrameHandler.returns_handle h).1, FrameHandler.headerOf_verdict]
  have hrolls : en.rollsBack s.readers res.header =
      en.rolls res.header (s.readers.getState res.header.readerId) := rfl
  rw [(after_handleFrameBytes_of_returns h).2, hheader, Readers.isQuarantined_eq, hrolls]
  have hself : ((en.readersAfter env.now s.readers res).getState
      res.header.readerId).maxSeenSeq = _ := maxSeenSeq_readersAfter hactive hdeny
  constructor
  · intro hsame
    have hreader := hsame res.header.readerId
    rw [hself] at hreader
    split_ifs at hreader with hcond
    · exact hcond.imp_right .inl
    · exact .inr (.inr (ReaderState.maxSeenSeq_raise_eq_iff.mp hreader))
  · intro hcond r
    by_cases hr : r = res.header.readerId
    · rw [hr, hself]
      split_ifs with hno
      · rfl
      · rw [not_or] at hno
        have hle := (hcond.resolve_left hno.1).resolve_left hno.2
        rw [ReaderState.raise_of_le hle]
    · rw [getState_readersAfter_of_ne _ hr]

end

/-! ## Numbers far below the baseline -/

section

variable [Sodium] {en : Engine}

/-- The number of the frame is too far below the baseline, in exact arithmetic. -/
def FarBelow (en : Engine) (header : Header) (readers : Readers) : Prop :=
  header.seq.toNat + en.config.rollbackThreshold.toNat <
    (readers.getState header.readerId).maxSeenSeq.toNat

/-- A rollback that is noticed: by the rollback check, which leaves out the number 0, or
because the frame gives another reason for quarantine. -/
def Caught (en : Engine) (s : EngineState) (frameBytes : Bytes) : Prop :=
  0 < (en.handler.headerOf frameBytes).seq ∨
    en.nonceOk (en.handler.headerOf frameBytes) = false ∨
    en.handler.Replays s.windows frameBytes ∨
    (en.handler.Unauthentic s.windows frameBytes ∧ en.config.tagFailStreakLimit ≤
      (s.readers.getState (en.handler.headerOf frameBytes).readerId).consecutiveTagFails + 1)

omit [Sodium] in
/-- In exact arithmetic a rollback is one for the check too: the sum does not wrap. -/
theorem FarBelow.rolls {header : Header} {readers : Readers} (h : en.FarBelow header readers) :
    en.rolls header (readers.getState header.readerId) = true ↔ 0 < header.seq := by
  have hmax := (readers.getState header.readerId).maxSeenSeq.toNat_lt
  unfold FarBelow at h
  have hsum : (header.seq + en.config.rollbackThreshold).toNat =
      header.seq.toNat + en.config.rollbackThreshold.toNat := by
    rw [UInt64.toNat_add, Nat.mod_eq_of_lt (by omega)]
  rw [rolls_iff, and_iff_left_iff_imp]
  intro hseq
  have hzero : (0 : UInt64).toNat = 0 := rfl
  simp only [ReaderState.rollsBack, Bool.and_eq_true, decide_eq_true_eq, UInt64.lt_iff_toNat_lt,
    hsum, hzero]
  omega

omit [Sodium] in
theorem isSome_quarantine_settled_iff {now : ClockSite → UInt64} {state : ReaderState}
    {res : HandleResult} (hquar : state.quarantine = none)
    (hallow : res.allow = true → res.reason = "ok") :
    (en.settled now state res).quarantine.isSome = true ↔
      res.reason = "replay" ∨
        ((res.reason = "mac_verification_failed" ∨ res.reason = "decrypt_failed") ∧
          en.config.tagFailStreakLimit ≤ state.consecutiveTagFails + 1) := by
  unfold settled
  split_ifs with hallowed hreplay htag
  · have hok := hallow hallowed
    simp [ReaderState.reportSuccess, hquar, hok]
  · simp [ReaderState.reportReplay, ReaderState.doQuarantine, hreplay]
  · rw [or_iff_right hreplay, and_iff_right htag]
    unfold ReaderState.reportTagFailure
    dsimp only
    split_ifs with hlimit
    · simp [ReaderState.doQuarantine, hlimit]
    · simp [hquar, hlimit]
  · simp [hquar, hreplay, htag]

/-- The condition in terms of the verdict. -/
theorem caught_iff_verdict (now : ClockSite → UInt64) {s : EngineState} {frameBytes : Bytes} :
    en.Caught s frameBytes ↔
      0 < (en.verdict now s frameBytes).header.seq ∨
      en.nonceOk (en.verdict now s frameBytes).header = false ∨
      (en.verdict now s frameBytes).reason = "replay" ∨
      (((en.verdict now s frameBytes).reason = "mac_verification_failed" ∨
        (en.verdict now s frameBytes).reason = "decrypt_failed") ∧
        en.config.tagFailStreakLimit ≤
          (s.readers.getState (en.verdict now s frameBytes).header.readerId).consecutiveTagFails
            + 1) := by
  have hheader : (en.verdict now s frameBytes).header = en.handler.headerOf frameBytes :=
    FrameHandler.headerOf_verdict ..
  unfold Caught
  rw [hheader, verdict_replay_iff, verdict_unauthentic_iff]

variable [JsonLib] (hactive : en.detectorActive = true) {env : Env} {frameBytes : Bytes}
  {frame : Frame} (hparse : parseFrame frameBytes en.frameHandlerCfg.maxCtLen = .ok frame)

include hactive hparse in
/-- A frame far below the baseline of its reader is denied and quarantines the reader exactly
when it is caught. -/
theorem caught_iff {s t : EngineState} {d : DecisionResult}
    (hquar : s.readers.isQuarantined frame.header.readerId = false)
    (hfar : en.FarBelow frame.header s.readers)
    (h : Returns (en.handleFrameBytes env frameBytes) s d t) :
    (d.allow = false ∧ t.readers.isQuarantined frame.header.readerId = true) ↔
      en.Caught s frameBytes := by
  obtain ⟨-, hreaders, hanswer⟩ := returns_handleFrameBytes h
  have hheader : (en.verdict env.now s frameBytes).header = frame.header :=
    FrameHandler.verdict_header hparse
  have hok : (en.verdict env.now s frameBytes).allow = true →
      (en.verdict env.now s frameBytes).reason = "ok" := verdict_reason_of_allow
  rw [caught_iff_verdict env.now]
  generalize en.verdict env.now s frameBytes = res at *
  rw [Readers.isQuarantined_eq] at hquar ⊢
  rw [← hheader] at hquar hfar ⊢
  have hnone : (s.readers.getState res.header.readerId).quarantine = none := by
    simpa using hquar
  rw [answer, screen_fst] at hanswer
  rw [hreaders, hanswer]
  cases hrefuses : en.refuses res.header (s.readers.getState res.header.readerId) with
  | true =>
    refine iff_of_true ⟨rfl, isSome_quarantine_of_refuses hrefuses⟩ ?_
    by_contra hnot
    rw [not_or, not_or, Bool.not_eq_false] at hnot
    obtain ⟨hseq, hnonce, -⟩ := hnot
    have hroll : en.rolls res.header (s.readers.getState res.header.readerId) = false := by
      rw [← Bool.not_eq_true, hfar.rolls]
      exact hseq
    rw [(refuses_eq_false hactive).mpr ⟨hnone, hroll, hnonce⟩] at hrefuses
    cases hrefuses
  | false =>
    obtain ⟨-, hroll, hnonce⟩ := (refuses_eq_false hactive).mp hrefuses
    have hseq : ¬ 0 < res.header.seq := by
      rw [← hfar.rolls, hroll]
      simp
    have hmatch : ¬ en.nonceOk res.header = false := by simp [hnonce]
    rw [getState_readersAfter_of_passes hactive hrefuses,
      isSome_quarantine_settled_iff (by simpa using hnone) hok,
      ReaderState.consecutiveTagFails_raise, if_neg (by simp)]
    rw [or_iff_right hseq, or_iff_right hmatch, and_iff_right_iff_imp]
    intro hreason
    have hdeny : res.allow = false := by
      by_contra hallow
      rw [Bool.not_eq_false] at hallow
      rw [hok hallow] at hreason
      simp at hreason
    rw [Engine.decide, if_pos hdeny]
    rfl

include hactive hparse in
/-- In every reachable state: a frame far below the baseline of a reader that is not in
quarantine is denied and quarantines the reader exactly when its number is positive, its
nonce is wrong, the handler takes it for a replay, or it ends the streak of failures. -/
theorem rollback_caught_iff {commands : List Command}
    (hquar : (run en.step .initial commands).readers.isQuarantined frame.header.readerId = false)
    (hfar : en.FarBelow frame.header (run en.step .initial commands).readers) :
    (env.NoFault → Total (en.handleFrameBytes env frameBytes) (run en.step .initial commands)) ∧
    ∀ d t, Returns (en.handleFrameBytes env frameBytes) (run en.step .initial commands) d t →
      ((d.allow = false ∧ t.readers.isQuarantined frame.header.readerId = true) ↔
        en.Caught (run en.step .initial commands) frameBytes) :=
  ⟨fun henv => handleFrameBytes_total en henv frameBytes _,
    fun _ _ h => caught_iff hactive hparse hquar hfar h⟩

end

/-! ## A forged number -/

/-- A frame like `knock` with another sequence number. -/
def knockAt (seq : UInt64) : Frame := { knock with header := { knock.header with seq } }

/-- A forged frame with the number 1000 is refused by the handler, but afterwards the
authentic frames 1 and 2 count as rollbacks, the second one although the quarantine was
lifted in between. -/
theorem forged_frame_moves_baseline :
    letI : Sodium := .transparent
    letI : JsonLib := .requests
    let forged : Command := .frame .quiet (serialize (FrameHandler.forged 1000))
    let knock : Command := .frame .quiet (serialize (knockAt 1))
    permissive.detectorActive = true ∧
    (∃ windows, Returns (permissive.handler.handle .quiet (serialize (FrameHandler.forged 1000)))
      .empty (makeError "decrypt_failed" (FrameHandler.forged 1000).header) windows) ∧
    ((run permissive.step .initial [forged]).readers.getState 7).maxSeenSeq = 1000 ∧
    (∃ t, Returns (permissive.handleFrameBytes .quiet (serialize (knockAt 1))) .initial
      { allow := true, reason := "ok" } t) ∧
    (∃ t, Returns (permissive.handleFrameBytes .quiet (serialize (knockAt 1)))
      (run permissive.step .initial [forged]) (createDeniedResult "quarantined") t) ∧
    ∃ t, Returns (permissive.handleFrameBytes .quiet (serialize (knockAt 2)))
      (run permissive.step .initial [forged, knock, .unquarantine 0 7])
      (createDeniedResult "quarantined") t := by
  let _ : Sodium := .transparent
  let _ : JsonLib := .requests
  refine ⟨rfl, ⟨_, returns_after_iff.mpr ?_⟩, ?_, ⟨_, returns_after_iff.mpr ?_⟩,
    ⟨_, returns_after_iff.mpr ?_⟩, ⟨_, returns_after_iff.mpr ?_⟩⟩
  · decide +kernel
  · decide +kernel
  · decide +kernel
  · decide +kernel
  · decide +kernel

/-- A frame whose number is not above the baseline does not move it. -/
theorem baseline_unmoved_iff_old :
    letI : Sodium := .transparent
    letI : JsonLib := .requests
    let s : EngineState := { EngineState.initial with
      readers := fun r => if r = 7 then some { maxSeenSeq := 5 } else none }
    ∀ r, ((after (permissive.handleFrameBytes .quiet (serialize (FrameHandler.forged 5)))
      s).readers.getState r).maxSeenSeq = (s.readers.getState r).maxSeenSeq := by
  let _ : Sodium := .transparent
  let _ : JsonLib := .requests
  obtain ⟨res, windows, h⟩ :
      Total (permissive.handler.handle .quiet (serialize (FrameHandler.forged 5))) .empty :=
    FrameHandler.handle_total Env.quiet_noFault _ _
  have hres := (FrameHandler.returns_handle h).1
  have hdeny : res.allow = false := by
    rw [hres]
    decide +kernel
  exact (baseline_unmoved_iff rfl hdeny h).mpr (.inr (.inr (by decide +kernel)))

/-! ## The number zero -/

/-- After the frame with the number 200 the one with the number 0 is granted: the rollback
check leaves it out, and the window of 256 numbers still reaches down to it. -/
theorem rollback_to_zero_granted :
    letI : Sodium := .transparent
    letI : JsonLib := .requests
    let s := run permissive.step .initial [.frame .quiet (serialize (knockAt 200))]
    parseFrame (serialize (knockAt 0)) permissive.frameHandlerCfg.maxCtLen = .ok (knockAt 0) ∧
    s.readers.isQuarantined 7 = false ∧ permissive.FarBelow (knockAt 0).header s.readers ∧
    ∃ t, Returns (permissive.handleFrameBytes .quiet (serialize (knockAt 0))) s
      { allow := true, reason := "ok" } t ∧ t.readers.isQuarantined 7 = false := by
  let _ : Sodium := .transparent
  let _ : JsonLib := .requests
  refine ⟨?_, ?_, ?_, _, returns_after_iff.mpr ?_, ?_⟩
  · decide +kernel
  · decide +kernel
  · unfold FarBelow
    decide +kernel
  · decide +kernel
  · decide +kernel

/-- The frame with the number 50 is caught. -/
theorem rollback_caught_iff_positive :
    letI : Sodium := .transparent
    letI : JsonLib := .requests
    let s := run permissive.step .initial [.frame .quiet (serialize (knockAt 200))]
    ∃ d t, Returns (permissive.handleFrameBytes .quiet (serialize (knockAt 50))) s d t ∧
      d.allow = false ∧ t.readers.isQuarantined 7 = true := by
  let _ : Sodium := .transparent
  let _ : JsonLib := .requests
  have hparse : parseFrame (serialize (knockAt 50)) permissive.frameHandlerCfg.maxCtLen =
      .ok (knockAt 50) := by decide +kernel
  have hquar : (run permissive.step .initial
      [.frame .quiet (serialize (knockAt 200))]).readers.isQuarantined 7 = false := by
    decide +kernel
  have hfar : permissive.FarBelow (knockAt 50).header (run permissive.step .initial
      [.frame .quiet (serialize (knockAt 200))]).readers := by
    unfold FarBelow
    decide +kernel
  obtain ⟨htotal, hiff⟩ := rollback_caught_iff rfl hparse hquar hfar
  obtain ⟨d, t, h⟩ := htotal Env.quiet_noFault
  exact ⟨d, t, h, (hiff d t h).mpr (.inl (by decide +kernel))⟩

end AccessSecurity.Decision.Engine
