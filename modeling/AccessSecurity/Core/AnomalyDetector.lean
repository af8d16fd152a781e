import Mathlib.Algebra.Ring.Nat
import Mathlib.Logic.Function.Basic
import AccessSecurity.Basic

/-!
# Protocol anomaly detector

`protocol_anomaly_detector.cpp`: per reader the highest sequence number observed, the
current streak of authentication failures, and the quarantine record. Every operation
works on the entry of one reader (`report`), so what the others do not see is one lemma,
`report_of_ne`.
-/

namespace AccessSecurity.Core

inductive AnomalyType where
  | seqReuse
  | seqRollback
  | nonceMismatch
  | tagFailStreak
  deriving DecidableEq, Repr

def anomalyTypeToString : AnomalyType → String
  | .seqReuse => "seq_reuse"
  | .seqRollback => "seq_rollback"
  | .nonceMismatch => "nonce_mismatch"
  | .tagFailStreak => "tag_fail_streak"

structure DetectorConfig where
  enabled : Bool := false
  rollbackThreshold : UInt64 := 100
  tagFailStreakLimit : UInt32 := 5
  deriving DecidableEq, Repr

structure QuarantineInfo where
  tsUnixMs : UInt64
  reason : AnomalyType
  detail : String
  deriving DecidableEq, Repr

structure ReaderState where
  maxSeenSeq : UInt64 := 0
  consecutiveTagFails : UInt32 := 0
  quarantine : Option QuarantineInfo := none
  deriving DecidableEq, Repr

/-- The tracked readers; a reader is added when something is reported about it. -/
abbrev Readers := UInt32 → Option ReaderState

namespace Readers

/-- The state of a reader, a new one when it is not tracked yet. -/
def getState (m : Readers) (readerId : UInt32) : ReaderState := (m readerId).getD {}

/-- An operation on the state of one reader. -/
def report {α : Type} (m : Readers) (readerId : UInt32) (op : ReaderState → α × ReaderState) :
    α × Readers :=
  let (a, state) := op (m.getState readerId)
  (a, Function.update m readerId (some state))

def isQuarantined (m : Readers) (readerId : UInt32) : Bool :=
  match m readerId with
  | none => false
  | some state => state.quarantine.isSome

def quarantineInfo (m : Readers) (readerId : UInt32) : Option QuarantineInfo :=
  match m readerId with
  | none => none
  | some state => state.quarantine

def unquarantine (m : Readers) (readerId : UInt32) : Bool × Readers :=
  match m readerId with
  | none => (false, m)
  | some state =>
    if state.quarantine.isNone then (false, m)
    else (true, Function.update m readerId
      (some { state with quarantine := none, consecutiveTagFails := 0 }))

end Readers

namespace ReaderState

def doQuarantine (state : ReaderState) (reason : AnomalyType) (tsMs : UInt64) (detail : String) :
    ReaderState :=
  { state with quarantine := some { tsUnixMs := tsMs, reason, detail } }

def reportReplay (seq tsMs : UInt64) (state : ReaderState) : AnomalyType × ReaderState :=
  (.seqReuse, state.doQuarantine .seqReuse tsMs s!"seq={seq.toNat}")

/-- The sum `seq + rollbackThreshold` wraps. -/
def rollsBack (config : DetectorConfig) (seq : UInt64) (state : ReaderState) : Bool :=
  0 < state.maxSeenSeq && seq + config.rollbackThreshold < state.maxSeenSeq

/-- The state after a sequence number that is not a rollback. -/
def raise (seq : UInt64) (state : ReaderState) : ReaderState :=
  if state.maxSeenSeq < seq then { state with maxSeenSeq := seq } else state

def reportSeq (config : DetectorConfig) (seq tsMs : UInt64) (state : ReaderState) :
    Option AnomalyType × ReaderState :=
  if state.rollsBack config seq then
    (some .seqRollback, state.doQuarantine .seqRollback tsMs
      s!"seq={seq.toNat} maxSeen={state.maxSeenSeq.toNat}")
  else (none, state.raise seq)

def reportNonceMismatch (tsMs : UInt64) (state : ReaderState) : AnomalyType × ReaderState :=
  (.nonceMismatch, state.doQuarantine .nonceMismatch tsMs "")

def reportTagFailure (config : DetectorConfig) (tsMs : UInt64) (state : ReaderState) :
    Option AnomalyType × ReaderState :=
  let state := { state with consecutiveTagFails := state.consecutiveTagFails + 1 }
  if config.tagFailStreakLimit ≤ state.consecutiveTagFails then
    (some .tagFailStreak, state.doQuarantine .tagFailStreak tsMs
      s!"streak={state.consecutiveTagFails.toNat}")
  else (none, state)

def reportSuccess (seq : UInt64) (state : ReaderState) : Unit × ReaderState :=
  ((), { state with consecutiveTagFails := 0 }.raise seq)

end ReaderState

/-- `sodium_memcmp` of the first `len` bytes. -/
def nonceEqual (received expected : ByteArr 24) (len : Nat) : Bool :=
  received.toList.take len == expected.toList.take len

/-! ## Sequence numbers in order -/

namespace ReaderState

/-- A number that is not below the highest one observed is no rollback, unless the sum
with the threshold wraps. -/
theorem not_rollsBack {config : DetectorConfig} {seq : UInt64} {state : ReaderState}
    (hwrap : seq.toNat + config.rollbackThreshold.toNat < 2 ^ 64) (hle : state.maxSeenSeq ≤ seq) :
    state.rollsBack config seq = false := by
  have hsum : (seq + config.rollbackThreshold).toNat =
      seq.toNat + config.rollbackThreshold.toNat := by
    rw [UInt64.toNat_add, Nat.mod_eq_of_lt hwrap]
  rw [UInt64.le_iff_toNat_le] at hle
  have hnot : ¬ seq + config.rollbackThreshold < state.maxSeenSeq := by
    rw [UInt64.lt_iff_toNat_lt, hsum]
    omega
  simp [rollsBack, hnot]

@[simp] theorem quarantine_raise (seq : UInt64) (state : ReaderState) :
    (state.raise seq).quarantine = state.quarantine := by
  unfold raise
  split_ifs <;> rfl

@[simp] theorem consecutiveTagFails_raise (seq : UInt64) (state : ReaderState) :
    (state.raise seq).consecutiveTagFails = state.consecutiveTagFails := by
  unfold raise
  split_ifs <;> rfl

theorem le_maxSeenSeq_raise (seq : UInt64) (state : ReaderState) :
    seq ≤ (state.raise seq).maxSeenSeq := by
  unfold raise
  split_ifs with h
  · exact UInt64.le_refl _
  · exact UInt64.not_lt.mp h

theorem raise_of_le {seq : UInt64} {state : ReaderState} (h : seq ≤ state.maxSeenSeq) :
    state.raise seq = state :=
  if_neg (UInt64.not_lt.mpr h)

theorem maxSeenSeq_raise_eq_iff {seq : UInt64} {state : ReaderState} :
    (state.raise seq).maxSeenSeq = state.maxSeenSeq ↔ seq ≤ state.maxSeenSeq := by
  constructor
  · intro h
    rw [← h]
    exact le_maxSeenSeq_raise seq state
  · intro h
    rw [raise_of_le h]

theorem raise_eq_self_iff {seq : UInt64} {state : ReaderState} :
    state.raise seq = state ↔ seq ≤ state.maxSeenSeq := by
  refine ⟨fun h => maxSeenSeq_raise_eq_iff.mp ?_, raise_of_le⟩
  rw [h]

theorem raise_reset_eq_self_iff {seq : UInt64} {state : ReaderState} :
    { state.raise seq with consecutiveTagFails := 0 } = state ↔
      seq ≤ state.maxSeenSeq ∧ state.consecutiveTagFails = 0 := by
  constructor
  · intro h
    have hseq := congrArg ReaderState.maxSeenSeq h
    have hfails := congrArg ReaderState.consecutiveTagFails h
    exact ⟨maxSeenSeq_raise_eq_iff.mp hseq, hfails.symm⟩
  · rintro ⟨hle, hfails⟩
    rw [raise_of_le hle, ← hfails]

theorem maxSeenSeq_reportTagFailure (config : DetectorConfig) (tsMs : UInt64)
    (state : ReaderState) :
    (state.reportTagFailure config tsMs).2.maxSeenSeq = state.maxSeenSeq := by
  unfold reportTagFailure
  dsimp only
  split_ifs <;> rfl

theorem consecutiveTagFails_reportTagFailure (config : DetectorConfig) (tsMs : UInt64)
    (state : ReaderState) : (state.reportTagFailure config tsMs).2.consecutiveTagFails =
      state.consecutiveTagFails + 1 := by
  unfold reportTagFailure
  dsimp only
  split_ifs <;> rfl

/-- Observing a number again is a rollback exactly when the sum with the threshold wraps
and the number was a new maximum. -/
theorem rollsBack_raise {config : DetectorConfig} {seq : UInt64} {state : ReaderState}
    (h : state.rollsBack config seq = false) : (state.raise seq).rollsBack config seq = true ↔
      state.maxSeenSeq < seq ∧ 2 ^ 64 ≤ seq.toNat + config.rollbackThreshold.toNat := by
  by_cases hnew : state.maxSeenSeq < seq
  · have hsum : (seq + config.rollbackThreshold).toNat =
        (seq.toNat + config.rollbackThreshold.toNat) % 2 ^ 64 := UInt64.toNat_add _ _
    have hseq := seq.toNat_lt
    have hthreshold := config.rollbackThreshold.toNat_lt
    rw [UInt64.lt_iff_toNat_lt] at hnew
    simp only [raise, rollsBack, UInt64.lt_iff_toNat_lt, hnew, if_true, hsum, true_and,
      Bool.and_eq_true, decide_eq_true_eq]
    have hzero : (0 : UInt64).toNat = 0 := rfl
    omega
  · rw [raise_of_le (UInt64.not_lt.mp hnew), h]
    simp [hnew]

theorem maxSeenSeq_raise_le {seq bound : UInt64} {state : ReaderState} (hseq : seq ≤ bound)
    (hle : state.maxSeenSeq ≤ bound) : (state.raise seq).maxSeenSeq ≤ bound := by
  unfold raise
  split_ifs
  · exact hseq
  · exact hle

end ReaderState

/-! ## One reader at a time -/

namespace Readers

@[simp] theorem getState_report_self {α : Type} (m : Readers) (r : UInt32)
    (op : ReaderState → α × ReaderState) :
    (m.report r op).2.getState r = (op (m.getState r)).2 := by
  simp [report, getState]

@[simp] theorem fst_report {α : Type} (m : Readers) (r : UInt32)
    (op : ReaderState → α × ReaderState) : (m.report r op).1 = (op (m.getState r)).1 := rfl

/-- Reporting something about a reader leaves the others as they are. -/
theorem report_of_ne {α : Type} (m : Readers) {r q : UInt32} (op : ReaderState → α × ReaderState)
    (h : q ≠ r) : (m.report r op).2 q = m q := by
  simp [report, h]

theorem getState_report_of_ne {α : Type} (m : Readers) {r q : UInt32}
    (op : ReaderState → α × ReaderState) (h : q ≠ r) :
    (m.report r op).2.getState q = m.getState q := by
  simp [getState, report_of_ne m op h]

theorem quarantineInfo_eq (m : Readers) (r : UInt32) :
    m.quarantineInfo r = (m.getState r).quarantine := by
  unfold quarantineInfo getState
  cases m r <;> rfl

theorem isQuarantined_eq (m : Readers) (r : UInt32) :
    m.isQuarantined r = (m.getState r).quarantine.isSome := by
  unfold isQuarantined getState
  cases m r <;> rfl

theorem isQuarantined_iff {m : Readers} {r : UInt32} :
    m.isQuarantined r = true ↔ ∃ info, m.quarantineInfo r = some info := by
  rw [isQuarantined_eq, quarantineInfo_eq, Option.isSome_iff_exists]

/-- Lifting a quarantine leaves the other readers as they are. -/
theorem unquarantine_of_ne (m : Readers) {r q : UInt32} (h : q ≠ r) :
    (m.unquarantine r).2 q = m q := by
  unfold unquarantine
  split
  · rfl
  · split_ifs
    · rfl
    · simp [h]

end Readers

end AccessSecurity.Core
