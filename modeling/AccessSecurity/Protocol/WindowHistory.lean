import Mathlib.Data.Finset.Card
import AccessSecurity.Protocol.ReplayWindow

/-!
# Histories of the replay window

`Faithful` ties the three copies of what a window remembers to the numbers that were recorded,
for every window size, zero included (`remembers_run`). So a window refuses a number only if it
was recorded or is too old for the largest one that was (`refuses_nothing_fresh`).
-/

namespace AccessSecurity.Protocol.ReplayWindow

open Foundation

/-- The numbers that the calls record, in order. -/
def recorded (w : ReplayWindow) : List Call → List UInt64
  | [] => []
  | call :: calls =>
    (if w.records call then [call.seq] else []) ++ recorded (w.step call) calls

theorem recorded_snoc (w : ReplayWindow) (calls : List Call) (call : Call) :
    w.recorded (calls ++ [call]) =
      w.recorded calls ++ if (run step w calls).records call then [call.seq] else [] := by
  induction calls generalizing w with
  | nil => exact List.append_nil _
  | cons c calls ih =>
    rw [List.cons_append, recorded, ih, recorded, List.append_assoc]
    rfl

/-! ## Representation invariant -/

/-- The queue lists the set of remembered numbers without repetition, they are among the
recorded ones, and the maximum is that of all recorded numbers. -/
structure Faithful (window : UInt64) (history : List UInt64) (w : ReplayWindow) : Prop where
  window_eq : w.window = window
  nodup : w.order.Nodup
  seen_eq : w.seen = w.order.toFinset
  mem_history : ∀ s ∈ w.order, s ∈ history
  le_maxSeen : ∀ s ∈ history, s ≤ w.maxSeen
  maxSeen_mem : (history = [] ∧ w.maxSeen = 0) ∨ w.maxSeen ∈ history

variable {window : UInt64} {history : List UInt64} {w : ReplayWindow}

theorem faithful_new (window : UInt64) : Faithful window [] (new window) where
  window_eq := rfl
  nodup := List.nodup_nil
  seen_eq := rfl
  mem_history := by simp [new]
  le_maxSeen := by simp
  maxSeen_mem := .inl ⟨rfl, rfl⟩

theorem Faithful.record (h : Faithful window history w) {seq : UInt64}
    (hfresh : w.contains seq = false) : Faithful window (history ++ [seq]) (w.record seq) := by
  have hnew : seq ∉ w.order := by
    have hunseen := (contains_eq_false.mp hfresh).2
    rwa [h.seen_eq, List.mem_toFinset] at hunseen
  refine ⟨h.window_eq, ?_, ?_, ?_, ?_, ?_⟩
  · have := h.nodup
    grind [ReplayWindow.record]
  · rw [ReplayWindow.record, h.seen_eq]
    ext s
    simp only [Finset.mem_insert, List.mem_toFinset, List.mem_append, List.mem_singleton]
    exact or_comm
  · have := h.mem_history
    grind [ReplayWindow.record]
  · intro s hs
    have hmax := toNat_maxSeen_record w seq
    rw [UInt64.le_iff_toNat_le, hmax]
    rcases List.mem_append.mp hs with hs | hs
    · have hle := UInt64.le_iff_toNat_le.mp (h.le_maxSeen s hs)
      omega
    · obtain rfl := List.mem_singleton.mp hs
      omega
  · right
    unfold ReplayWindow.record
    dsimp only
    split_ifs with hlt
    · simp
    · rcases h.maxSeen_mem with ⟨rfl, hzero⟩ | hmem
      · rw [hzero, UInt64.not_lt, UInt64.le_zero_iff] at hlt
        simp [hzero, hlt]
      · exact List.mem_append_left _ hmem

/-- Dropping the oldest number keeps the copies in step. -/
theorem Faithful.evict (h : Faithful window history w) :
    Faithful window history w.evictOldestIfFull := by
  unfold evictOldestIfFull
  split_ifs
  · cases hord : w.order with
    | nil => exact h
    | cons oldest order =>
      have hnodup := h.nodup
      have hmem := h.mem_history
      rw [hord] at hnodup hmem
      refine ⟨h.window_eq, hnodup.of_cons, ?_, fun s hs => hmem s (.tail _ hs), h.le_maxSeen,
        h.maxSeen_mem⟩
      rw [h.seen_eq, hord]
      ext s
      simp
      grind
  · exact h

theorem length_evictOldestIfFull_le (h : w.order.length ≤ w.window.toNat + 1) :
    w.evictOldestIfFull.order.length ≤ w.window.toNat := by
  unfold evictOldestIfFull
  split_ifs with hfull
  · cases hord : w.order with
    | nil => simp [hord]
    | cons oldest order => simpa [hord] using h
  · omega

/-! ## Runs -/

theorem faithful_step (h : Faithful window history w) (call : Call) :
    Faithful window (history ++ if w.records call then [call.seq] else []) (w.step call) := by
  rw [step_eq, records_eq]
  cases hseen : w.contains call.seq with
  | true => simpa [remember_of_contains hseen] using h
  | false =>
    rw [remember_of_not_contains hseen]
    exact (h.record hseen).evict

theorem faithful_run (window : UInt64) (calls : List Call) :
    Faithful window ((new window).recorded calls) (run step (new window) calls) := by
  induction calls using List.reverseRecOn with
  | nil => exact faithful_new window
  | append_singleton calls call ih =>
    rw [run_snoc, recorded_snoc]
    exact faithful_step ih call

/-- However the numbers arrive, no more of them are kept than the window has room for. -/
theorem length_order_run_le (window : UInt64) (calls : List Call) :
    (run step (new window) calls).order.length ≤ window.toNat := by
  induction calls using List.reverseRecOn with
  | nil => exact Nat.zero_le _
  | append_singleton calls call ih =>
    have hwindow := (faithful_run window calls).window_eq
    rw [run_snoc, step_eq]
    generalize run step (new window) calls = w at *
    cases hseen : w.contains call.seq with
    | true => rwa [remember_of_contains hseen]
    | false =>
      rw [remember_of_not_contains hseen]
      subst hwindow
      exact length_evictOldestIfFull_le (by simpa [ReplayWindow.record] using ih)

/-- What the window keeps of the recorded numbers: each of at most `window` of them once, in
the queue and in the set, and the largest one. -/
structure Remembers (window : UInt64) (history : List UInt64) (w : ReplayWindow) : Prop where
  nodup : w.order.Nodup
  mem_order_iff : ∀ s, s ∈ w.order ↔ s ∈ w.seen
  length_le : w.order.length ≤ window.toNat
  card_le : w.seen.card ≤ window.toNat
  mem_history : ∀ s ∈ w.order, s ∈ history
  le_maxSeen : ∀ s ∈ history, s ≤ w.maxSeen
  maxSeen_mem : w.maxSeen ∈ history ∨ history = [] ∧ w.maxSeen = 0

/-- The invariant holds after every sequence of calls, for every window size. -/
theorem remembers_run (window : UInt64) (calls : List Call) :
    Remembers window ((new window).recorded calls) (run step (new window) calls) := by
  have h := faithful_run window calls
  have hlength := length_order_run_le window calls
  have hcard := List.toFinset_card_of_nodup h.nodup
  constructor
  · exact h.nodup
  · intro s
    rw [h.seen_eq, List.mem_toFinset]
  · exact hlength
  · rw [h.seen_eq]
    omega
  · exact h.mem_history
  · exact h.le_maxSeen
  · exact h.maxSeen_mem.symm

/-- A number is refused only if it was recorded before, or if it is at or below the window of
the largest number recorded. -/
theorem refuses_nothing_fresh (window : UInt64) (calls : List Call) (s : UInt64)
    (h : ((run step (new window) calls).accept s).1 = false) :
    s ∈ (new window).recorded calls ∨
      ∃ m ∈ (new window).recorded calls, (∀ q ∈ (new window).recorded calls, q ≤ m) ∧ 0 < m ∧
        window ≤ m ∧ s ≤ m - window := by
  have hfaithful := faithful_run window calls
  generalize run step (new window) calls = w at *
  rw [accept_eq, Bool.not_eq_false', contains_iff] at h
  rcases h with ⟨hpos, hold⟩ | hseen
  · right
    rw [hfaithful.window_eq] at hold
    have hwindow : window ≤ w.maxSeen := UInt64.le_iff_toNat_le.mpr (by omega)
    refine ⟨w.maxSeen, ?_, hfaithful.le_maxSeen, UInt64.lt_iff_toNat_lt.mpr hpos, hwindow, ?_⟩
    · rcases hfaithful.maxSeen_mem with ⟨-, hzero⟩ | hmem
      · rw [hzero] at hpos
        exact absurd hpos (by decide)
      · exact hmem
    · rw [UInt64.le_iff_toNat_le, UInt64.toNat_sub_of_le _ _ hwindow]
      omega
  · left
    rw [hfaithful.seen_eq, List.mem_toFinset] at hseen
    exact hfaithful.mem_history s hseen

theorem refuses_nothing_fresh_old : 1 ∈ (new 2).recorded [.accept 10, .remember 11] ∨
    ∃ m ∈ (new 2).recorded [.accept 10, .remember 11],
      (∀ q ∈ (new 2).recorded [.accept 10, .remember 11], q ≤ m) ∧ 0 < m ∧ 2 ≤ m ∧ 1 ≤ m - 2 :=
  refuses_nothing_fresh 2 [.accept 10, .remember 11] 1 (by decide)

end AccessSecurity.Protocol.ReplayWindow
