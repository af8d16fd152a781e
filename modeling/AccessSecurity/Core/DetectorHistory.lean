import AccessSecurity.Core.AnomalyDetector
import AccessSecurity.Foundation.Since

/-!
# Histories of the anomaly detector

What the detector knows of a reader is a function of the calls about this reader
(`getState_run`). The streak of a reader that is not in quarantine is the number of its
failures since the last reset (`streak_exact`). The rollback check compares a sum of 64 bits,
so it is exact unless the sum wraps below the highest number observed (`rollback_exact_iff`).
-/

namespace AccessSecurity.Core

open Foundation

/-! ## Calls -/

inductive DetectorCall where
  | reportReplay (readerId : UInt32) (seq tsMs : UInt64)
  | reportSeq (readerId : UInt32) (seq tsMs : UInt64)
  | reportNonceMismatch (readerId : UInt32) (tsMs : UInt64)
  | reportTagFailure (readerId : UInt32) (tsMs : UInt64)
  | reportSuccess (readerId : UInt32) (seq : UInt64)
  | unquarantine (readerId : UInt32)
  deriving DecidableEq, Repr

/-- No reader is tracked. -/
def Readers.empty : Readers := fun _ => none

namespace DetectorCall

def readerId : DetectorCall → UInt32
  | reportReplay r _ _ => r
  | reportSeq r _ _ => r
  | reportNonceMismatch r _ => r
  | reportTagFailure r _ => r
  | reportSuccess r _ => r
  | unquarantine r => r

variable (config : DetectorConfig)

def step (m : Readers) : DetectorCall → Readers
  | reportReplay r seq tsMs => (m.report r (ReaderState.reportReplay seq tsMs)).2
  | reportSeq r seq tsMs => (m.report r (ReaderState.reportSeq config seq tsMs)).2
  | reportNonceMismatch r tsMs => (m.report r (ReaderState.reportNonceMismatch tsMs)).2
  | reportTagFailure r tsMs => (m.report r (ReaderState.reportTagFailure config tsMs)).2
  | reportSuccess r seq => (m.report r (ReaderState.reportSuccess seq)).2
  | unquarantine r => (m.unquarantine r).2

/-- What a call makes of the state of its own reader. -/
def effect (state : ReaderState) : DetectorCall → ReaderState
  | reportReplay _ seq tsMs => (state.reportReplay seq tsMs).2
  | reportSeq _ seq tsMs => (state.reportSeq config seq tsMs).2
  | reportNonceMismatch _ tsMs => (state.reportNonceMismatch tsMs).2
  | reportTagFailure _ tsMs => (state.reportTagFailure config tsMs).2
  | reportSuccess _ seq => (state.reportSuccess seq).2
  | unquarantine _ =>
    if state.quarantine.isNone then state
    else { state with quarantine := none, consecutiveTagFails := 0 }

/-- The call starts the count of failures again: a success, or a quarantine that is lifted. -/
def Resets (r : UInt32) (before : List DetectorCall) : DetectorCall → Prop
  | reportSuccess q _ => q = r
  | unquarantine q => q = r ∧ ((run (step config) Readers.empty before).unquarantine q).1 = true
  | _ => False

def isTagFailure (r : UInt32) : DetectorCall → Bool
  | reportTagFailure q _ => q = r
  | _ => false

end DetectorCall

open DetectorCall

namespace Readers

variable {config : DetectorConfig}

theorem unquarantine_fst (m : Readers) (r : UInt32) :
    (m.unquarantine r).1 = m.isQuarantined r := by
  unfold unquarantine isQuarantined
  cases m r with
  | none => rfl
  | some state => cases hquar : state.quarantine <;> simp [hquar]

theorem getState_unquarantine_self (m : Readers) (r : UInt32) :
    (m.unquarantine r).2.getState r =
      if (m.getState r).quarantine.isNone then m.getState r
      else { m.getState r with quarantine := none, consecutiveTagFails := 0 } := by
  unfold unquarantine
  split
  case h_1 hr => simp [getState, hr]
  case h_2 state hr =>
    split_ifs with hquar hquar' hquar'
    · rfl
    · simp [getState, hr, hquar] at hquar'
    · simp [getState, hr, hquar] at hquar'
    · simp [getState, hr]

theorem getState_step_self (m : Readers) (call : DetectorCall) :
    (call.step config m).getState call.readerId =
      call.effect config (m.getState call.readerId) := by
  cases call with
  | unquarantine r => exact getState_unquarantine_self m r
  | _ => exact getState_report_self ..

theorem getState_step_of_ne (m : Readers) {call : DetectorCall} {r : UInt32}
    (h : call.readerId ≠ r) : (call.step config m).getState r = m.getState r := by
  cases call with
  | unquarantine q =>
    have hq : (m.unquarantine q).2 r = m r := unquarantine_of_ne m h.symm
    simp [step, getState, hq]
  | _ => exact getState_report_of_ne _ _ h.symm

/-- The calls about other readers do not matter. -/
theorem getState_run (calls : List DetectorCall) (r : UInt32) :
    (run (DetectorCall.step config) .empty calls).getState r =
      (run (DetectorCall.step config) .empty (calls.filter (·.readerId = r))).getState r := by
  induction calls using List.reverseRecOn with
  | nil => rfl
  | append_singleton calls call ih =>
    rw [run_snoc, List.filter_append]
    by_cases hr : call.readerId = r
    · subst hr
      rw [List.filter_cons_of_pos (by simp), List.filter_nil, run_snoc, getState_step_self,
        getState_step_self, ih]
    · rw [List.filter_cons_of_neg (by simpa using hr), List.filter_nil, List.append_nil,
        getState_step_of_ne _ hr, ih]

end Readers

/-! ## The streak of failures -/

namespace ReaderState

variable {config : DetectorConfig} {state : ReaderState}

/-- A report of a number that leaves no quarantine behind leaves the streak alone. -/
theorem reportSeq_no_quarantine {seq tsMs : UInt64}
    (h : (state.reportSeq config seq tsMs).2.quarantine = none) : state.quarantine = none ∧
      (state.reportSeq config seq tsMs).2.consecutiveTagFails = state.consecutiveTagFails := by
  unfold reportSeq at h ⊢
  by_cases hroll : state.rollsBack config seq = true
  · rw [if_pos hroll] at h
    cases h
  · rw [if_neg hroll] at h ⊢
    exact ⟨by simpa using h, consecutiveTagFails_raise seq state⟩

theorem reportTagFailure_quarantine {tsMs : UInt64} (hquar : state.quarantine = none) :
    (state.reportTagFailure config tsMs).2.quarantine = none ↔
      ¬ config.tagFailStreakLimit ≤ state.consecutiveTagFails + 1 := by
  unfold reportTagFailure
  dsimp only
  split_ifs with hlimit
  · simp [doQuarantine, hlimit]
  · simp [hquar, hlimit]

/-- Below the limit the counter of 32 bits does not wrap. -/
theorem toNat_consecutiveTagFails_succ
    (h : state.consecutiveTagFails.toNat < config.tagFailStreakLimit.toNat) :
    (state.consecutiveTagFails + 1).toNat = state.consecutiveTagFails.toNat + 1 := by
  have hbound := config.tagFailStreakLimit.toNat_lt
  rw [UInt32.toNat_add]
  exact Nat.mod_eq_of_lt (by rw [UInt32.toNat_one]; omega)

theorem reportTagFailure_no_quarantine {tsMs : UInt64}
    (h : (state.reportTagFailure config tsMs).2.quarantine = none) : state.quarantine = none := by
  unfold reportTagFailure at h
  dsimp only at h
  split_ifs at h
  · cases h
  · exact h

end ReaderState

section

variable {config : DetectorConfig} {r : UInt32}

/-- The streak of a reader that is not in quarantine is `n`, and below the limit. -/
def Counts (config : DetectorConfig) (r : UInt32) (m : Readers) (n : ℕ) : Prop :=
  (m.getState r).quarantine = none →
    (m.getState r).consecutiveTagFails.toNat = n ∧ n < config.tagFailStreakLimit.toNat

theorem counts_reset (hpos : 0 < config.tagFailStreakLimit.toNat) {before : List DetectorCall}
    {call : DetectorCall} (h : call.Resets config r before) :
    Counts config r (call.step config (run (step config) Readers.empty before)) 0 := by
  intro _
  cases call with
  | reportSuccess q seq =>
    obtain rfl : q = r := h
    refine ⟨?_, hpos⟩
    simp [step, ReaderState.reportSuccess]
  | unquarantine q =>
    obtain ⟨rfl, hlifted⟩ := h
    rw [Readers.unquarantine_fst, Readers.isQuarantined_eq] at hlifted
    have hquar : ¬ ((run (step config) Readers.empty before).getState q).quarantine.isNone := by
      rw [Option.isNone_iff_eq_none]
      exact Option.isSome_iff_ne_none.mp hlifted
    refine ⟨?_, hpos⟩
    rw [step, Readers.getState_unquarantine_self, if_neg hquar]
    rfl
  | _ => exact h.elim

/-- A call that is no reset counts if it is a failure of the reader, as long as the reader is
not in quarantine: then the counter of 32 bits is below the limit and cannot wrap. -/
theorem counts_step {before : List DetectorCall} {call : DetectorCall} {n : ℕ}
    (hreset : ¬ call.Resets config r before)
    (h : Counts config r (run (step config) Readers.empty before) n) :
    Counts config r (call.step config (run (step config) Readers.empty before))
      (n + if call.isTagFailure r then 1 else 0) := by
  generalize hm : run (step config) Readers.empty before = m at *
  by_cases hr : call.readerId = r
  swap
  · have hother : call.isTagFailure r = false := by
      cases call <;> simp_all [isTagFailure, readerId]
    unfold Counts
    rwa [Readers.getState_step_of_ne m hr, hother, if_neg (by simp), Nat.add_zero]
  subst hr
  intro hquar
  rw [Readers.getState_step_self] at hquar ⊢
  cases call with
  | reportReplay q seq tsMs => cases hquar
  | reportNonceMismatch q tsMs => cases hquar
  | reportSuccess q seq => exact absurd rfl hreset
  | reportSeq q seq tsMs =>
    obtain ⟨hbefore, hsame⟩ := ReaderState.reportSeq_no_quarantine hquar
    obtain ⟨hcount, hlt⟩ := h hbefore
    exact ⟨(congrArg UInt32.toNat hsame).trans hcount, hlt⟩
  | reportTagFailure q tsMs =>
    have hbefore := ReaderState.reportTagFailure_no_quarantine hquar
    have hbelow := (ReaderState.reportTagFailure_quarantine hbefore).mp hquar
    obtain ⟨hcount, hlt⟩ := h hbefore
    have hnext := ReaderState.toNat_consecutiveTagFails_succ (hcount ▸ hlt)
    rw [UInt32.le_iff_toNat_le, hnext, hcount] at hbelow
    have hafter := ReaderState.consecutiveTagFails_reportTagFailure config tsMs (m.getState q)
    refine ⟨(congrArg UInt32.toNat hafter).trans (hnext.trans ?_), ?_⟩
    · simp [isTagFailure, readerId, ← hcount]
    · simp only [isTagFailure, readerId, decide_true, if_true]
      omega
  | unquarantine q =>
    have hidle : (m.getState q).quarantine = none := by
      rw [← Option.not_isSome_iff_eq_none, ← Readers.isQuarantined_eq, ← Readers.unquarantine_fst]
      exact fun hlifted => hreset ⟨rfl, hm ▸ hlifted⟩
    have hsame : effect config (m.getState q) (.unquarantine q) = m.getState q :=
      if_pos (by rw [hidle]; rfl)
    obtain ⟨hcount, hlt⟩ := h hidle
    exact ⟨(congrArg (·.consecutiveTagFails.toNat) hsame).trans hcount, hlt⟩

/-- The streak of the reader is `n`, which is below the limit, and the next failure ends in
quarantine exactly when it is the one that reaches the limit. -/
structure StreakIs (config : DetectorConfig) (m : Readers) (r : UInt32) (n : ℕ) : Prop where
  streak : (m.getState r).consecutiveTagFails.toNat = n
  below : n < config.tagFailStreakLimit.toNat
  reported : ∀ tsMs, (m.report r (ReaderState.reportTagFailure config tsMs)).1 =
    some .tagFailStreak ↔ n + 1 = config.tagFailStreakLimit.toNat
  strikes : ∀ tsMs, (step config m (.reportTagFailure r tsMs)).isQuarantined r = true ↔
    n + 1 = config.tagFailStreakLimit.toNat

theorem Counts.streakIs {m : Readers} {n : ℕ} (h : Counts config r m n)
    (hquar : m.isQuarantined r = false) : StreakIs config m r n := by
  have hnone : (m.getState r).quarantine = none := by
    rwa [Readers.isQuarantined_eq, Option.isSome_eq_false_iff, Option.isNone_iff_eq_none] at hquar
  obtain ⟨hcount, hlt⟩ := h hnone
  have hreaches : config.tagFailStreakLimit ≤ (m.getState r).consecutiveTagFails + 1 ↔
      n + 1 = config.tagFailStreakLimit.toNat := by
    rw [UInt32.le_iff_toNat_le, ReaderState.toNat_consecutiveTagFails_succ (hcount ▸ hlt), hcount]
    omega
  refine ⟨hcount, hlt, fun tsMs => ?_, fun tsMs => ?_⟩
  · rw [← hreaches, Readers.fst_report, ReaderState.reportTagFailure]
    dsimp only
    split_ifs with hstreak
    · simp [hstreak]
    · simp [hstreak]
  · rw [← hreaches, step, Readers.isQuarantined_eq, Readers.getState_report_self,
      Option.isSome_iff_ne_none, Ne, ReaderState.reportTagFailure_quarantine hnone, not_not]

/-- After every history the streak of a reader that is not in quarantine is the number of its
failures since its last success or lifted quarantine; the calls for others do not matter. -/
theorem streak_exact (hlimit : 1 ≤ config.tagFailStreakLimit) (calls : List DetectorCall)
    (r : UInt32) :
    (∃ before after, calls = before ++ after ∧ SinceLast (Resets config r) before after ∧
      ((run (step config) Readers.empty calls).isQuarantined r = false →
        StreakIs config (run (step config) Readers.empty calls) r
          (after.countP (isTagFailure r)))) ∧
    (run (step config) Readers.empty calls).getState r =
      (run (step config) Readers.empty (calls.filter (·.readerId = r))).getState r := by
  refine ⟨?_, Readers.getState_run calls r⟩
  have hpos : 0 < config.tagFailStreakLimit.toNat := UInt32.le_iff_toNat_le.mp hlimit
  have hsplit : ∃ before after, calls = before ++ after ∧
      SinceLast (Resets config r) before after := exists_sinceLast calls
  obtain ⟨before, after, rfl, hsince⟩ := hsplit
  refine ⟨before, after, rfl, hsince, fun hquar => ?_⟩
  have hinit : Counts config r Readers.empty 0 := fun _ => ⟨rfl, hpos⟩
  have hcounts : Counts config r _ (after.countP (isTagFailure r)) :=
    run_sinceLast hinit (fun _ _ h => counts_reset hpos h) (fun _ _ _ => counts_step) hsince
  exact hcounts.streakIs hquar

end

/-- A success, two failures, and one of another reader. -/
def sampleFailures : List DetectorCall :=
  [.reportSuccess 7 1, .reportTagFailure 7 2, .reportTagFailure 8 3, .reportTagFailure 7 4]

theorem streak_exact_sample : ∃ before after, sampleFailures = before ++ after ∧
    SinceLast (Resets {} 7) before after ∧
      StreakIs {} (run (step {}) Readers.empty sampleFailures) 7
        (after.countP (isTagFailure 7)) := by
  have hlimit : 1 ≤ ({} : DetectorConfig).tagFailStreakLimit := by decide
  obtain ⟨⟨before, after, hcalls, hsince, hstreak⟩, -⟩ := streak_exact hlimit sampleFailures 7
  exact ⟨before, after, hcalls, hsince, hstreak (by decide +kernel)⟩

/-! ## Rollbacks -/

namespace ReaderState

theorem rollsBack_iff {config : DetectorConfig} {seq : UInt64} {state : ReaderState} :
    state.rollsBack config seq = true ↔
      (seq.toNat + config.rollbackThreshold.toNat) % 2 ^ 64 < state.maxSeenSeq.toNat := by
  have hzero : (0 : UInt64).toNat = 0 := rfl
  simp only [rollsBack, Bool.and_eq_true, decide_eq_true_eq, UInt64.lt_iff_toNat_lt,
    UInt64.toNat_add, hzero]
  omega

theorem toNat_maxSeenSeq_raise (seq : UInt64) (state : ReaderState) :
    (state.raise seq).maxSeenSeq.toNat = max state.maxSeenSeq.toNat seq.toNat := by
  unfold raise
  split_ifs with h
  · rw [UInt64.lt_iff_toNat_lt] at h
    dsimp only
    omega
  · rw [UInt64.lt_iff_toNat_lt] at h
    omega

end ReaderState

/-- The number is further below the highest one than the threshold, in exact arithmetic. -/
def Readers.FarBelow (config : DetectorConfig) (m : Readers) (r : UInt32) (seq : UInt64) : Prop :=
  seq.toNat + config.rollbackThreshold.toNat < (m.getState r).maxSeenSeq.toNat

/-- Reporting the number quarantines the reader for a rollback exactly when it is far below;
otherwise the highest number is updated and nothing is reported. -/
structure DecidesRollback (config : DetectorConfig) (m : Readers) (r : UInt32) (seq tsMs : UInt64) :
    Prop where
  rollback : m.FarBelow config r seq ↔
    (m.report r (ReaderState.reportSeq config seq tsMs)).1 = some .seqRollback ∧
      ∃ detail, (step config m (.reportSeq r seq tsMs)).quarantineInfo r =
        some ⟨tsMs, .seqRollback, detail⟩
  otherwise : ¬ m.FarBelow config r seq →
    (m.report r (ReaderState.reportSeq config seq tsMs)).1 = none ∧
      ((step config m (.reportSeq r seq tsMs)).getState r).maxSeenSeq.toNat =
        max (m.getState r).maxSeenSeq.toNat seq.toNat ∧
      (step config m (.reportSeq r seq tsMs)).quarantineInfo r = m.quarantineInfo r

theorem reportSeq_reported {config : DetectorConfig} {m : Readers} {r : UInt32} {seq : UInt64}
    (tsMs : UInt64) :
    (m.report r (ReaderState.reportSeq config seq tsMs)).1 = some .seqRollback ↔
      (m.getState r).rollsBack config seq = true := by
  rw [Readers.fst_report, ReaderState.reportSeq]
  split_ifs with hroll
  · simp [hroll]
  · simp [hroll]

theorem decidesRollback_iff {config : DetectorConfig} {m : Readers} {r : UInt32}
    {seq tsMs : UInt64} : DecidesRollback config m r seq tsMs ↔
      ((m.getState r).rollsBack config seq = true ↔ m.FarBelow config r seq) := by
  constructor
  · intro h
    constructor
    · intro hroll
      by_contra hnot
      have hreported := (reportSeq_reported tsMs).mpr hroll
      rw [(h.otherwise hnot).1] at hreported
      cases hreported
    · intro hfar
      exact (reportSeq_reported tsMs).mp (h.rollback.mp hfar).1
  · intro h
    refine ⟨⟨fun hfar => ?_, fun hreported => h.mp ((reportSeq_reported tsMs).mp hreported.1)⟩,
      fun hnot => ?_⟩
    · have hroll := h.mpr hfar
      refine ⟨(reportSeq_reported tsMs).mpr hroll, ?_⟩
      rw [step, Readers.quarantineInfo_eq, Readers.getState_report_self, ReaderState.reportSeq,
        if_pos hroll]
      exact ⟨_, rfl⟩
    · have hroll := mt h.mp hnot
      rw [step, Readers.quarantineInfo_eq, Readers.quarantineInfo_eq,
        Readers.getState_report_self, Readers.fst_report, ReaderState.reportSeq, if_neg hroll]
      exact ⟨rfl, ReaderState.toNat_maxSeenSeq_raise _ _, ReaderState.quarantine_raise _ _⟩

/-- In every history the check decides as in exact arithmetic, exactly when the sum does not
wrap or wraps to a number that is not below the highest one. -/
theorem rollback_exact_iff (config : DetectorConfig) (calls : List DetectorCall) (r : UInt32)
    (seq tsMs : UInt64) :
    DecidesRollback config (run (step config) Readers.empty calls) r seq tsMs ↔
      seq.toNat + config.rollbackThreshold.toNat < 2 ^ 64 ∨
        ((run (step config) Readers.empty calls).getState r).maxSeenSeq.toNat ≤
          seq.toNat + config.rollbackThreshold.toNat - 2 ^ 64 := by
  generalize run (step config) Readers.empty calls = m
  have hseq := seq.toNat_lt
  have hthreshold := config.rollbackThreshold.toNat_lt
  have hmax := (m.getState r).maxSeenSeq.toNat_lt
  rw [decidesRollback_iff, ReaderState.rollsBack_iff, Readers.FarBelow]
  omega

/-- The number 2^64 - 5 is above everything seen, and counts as a rollback. -/
theorem wrapped_rollback :
    let m := run (step {}) Readers.empty [.reportSeq 7 0xFFFFFFFFFFFFFFF6 0]
    (m.getState 7).maxSeenSeq = 0xFFFFFFFFFFFFFFF6 ∧
      (m.report 7 (ReaderState.reportSeq {} 0xFFFFFFFFFFFFFFFB 1)).1 = some .seqRollback ∧
      ¬ DecidesRollback {} m 7 0xFFFFFFFFFFFFFFFB 1 := by
  refine ⟨by decide +kernel, by decide +kernel, ?_⟩
  rw [decidesRollback_iff, Readers.FarBelow]
  decide +kernel

end AccessSecurity.Core
