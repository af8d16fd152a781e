import Mathlib.Data.Finset.Basic
import Mathlib.Data.Finset.Dedup
import Mathlib.Data.List.MinMax
import AccessSecurity.Foundation.Run

/-!
# Replay window

`replay_window.cpp`. A window forgets in two ways: numbers at or below
`maxSeen - window` are too old, and the set of remembered numbers is kept at
`window` entries by dropping the one that arrived first. `Wf` is the
representation invariant. The two mechanisms fit together only as long as each
dropped number is already too old: `replay_safe_iff` shows that this is exactly
when no number is accepted twice, and `accepted_twice` is a run of four calls where
it fails.
-/

namespace AccessSecurity.Protocol

open Foundation

structure ReplayWindow where
  window : UInt64
  maxSeen : UInt64 := 0
  seen : Finset UInt64 := ∅
  order : List UInt64 := []
  deriving DecidableEq

namespace ReplayWindow

def new (window : UInt64) : ReplayWindow := { window }

def isTooOld (w : ReplayWindow) (seq : UInt64) : Bool :=
  if w.maxSeen = 0 then false
  else if w.maxSeen < w.window then false
  else decide (seq ≤ w.maxSeen - w.window)

def contains (w : ReplayWindow) (seq : UInt64) : Bool := w.isTooOld seq || decide (seq ∈ w.seen)

def evictOldestIfFull (w : ReplayWindow) : ReplayWindow :=
  if w.window.toNat < w.order.length then
    match w.order with
    | [] => w
    | oldest :: order => { w with seen := w.seen.erase oldest, order }
  else w

def remember (w : ReplayWindow) (seq : UInt64) : ReplayWindow :=
  if w.contains seq then w
  else
    let w := if w.maxSeen < seq then { w with maxSeen := seq } else w
    let w := { w with seen := insert seq w.seen, order := w.order ++ [seq] }
    w.evictOldestIfFull

def accept (w : ReplayWindow) (seq : UInt64) : Bool × ReplayWindow :=
  if w.contains seq then (false, w) else (true, w.remember seq)

/-! ## Membership -/

theorem isTooOld_iff {w : ReplayWindow} {seq : UInt64} : w.isTooOld seq = true ↔
    0 < w.maxSeen.toNat ∧ seq.toNat + w.window.toNat ≤ w.maxSeen.toNat := by
  have hzero : w.maxSeen = 0 ↔ w.maxSeen.toNat = 0 := by rw [← UInt64.toNat_inj]; rfl
  unfold isTooOld
  split_ifs with h0 hw
  · simp [hzero.mp h0]
  · rw [UInt64.lt_iff_toNat_lt] at hw
    simp
    omega
  · rw [UInt64.lt_iff_toNat_lt] at hw
    have hsub : (w.maxSeen - w.window).toNat = w.maxSeen.toNat - w.window.toNat :=
      UInt64.toNat_sub_of_le _ _ (by rw [UInt64.le_iff_toNat_le]; omega)
    rw [hzero] at h0
    rw [decide_eq_true_eq, UInt64.le_iff_toNat_le, hsub]
    omega

theorem contains_iff {w : ReplayWindow} {seq : UInt64} : w.contains seq = true ↔
    (0 < w.maxSeen.toNat ∧ seq.toNat + w.window.toNat ≤ w.maxSeen.toNat) ∨ seq ∈ w.seen := by
  simp [contains, isTooOld_iff]

theorem contains_eq_false {w : ReplayWindow} {seq : UInt64} : w.contains seq = false ↔
    ¬ (0 < w.maxSeen.toNat ∧ seq.toNat + w.window.toNat ≤ w.maxSeen.toNat) ∧ seq ∉ w.seen := by
  rw [← not_or, ← contains_iff, Bool.not_eq_true]

@[simp] theorem contains_new (window seq : UInt64) : (new window).contains seq = false := by
  simp [contains_eq_false, new]

theorem remember_of_contains {w : ReplayWindow} {seq : UInt64} (h : w.contains seq = true) :
    w.remember seq = w := by
  simp [remember, h]

theorem accept_eq (w : ReplayWindow) (seq : UInt64) :
    w.accept seq = (!w.contains seq, w.remember seq) := by
  cases h : w.contains seq with
  | false => simp [accept, h]
  | true => simp [accept, h, remember_of_contains h]

/-- The window after a fresh number has been recorded and before the eviction. -/
def record (w : ReplayWindow) (seq : UInt64) : ReplayWindow where
  window := w.window
  maxSeen := if w.maxSeen < seq then seq else w.maxSeen
  seen := insert seq w.seen
  order := w.order ++ [seq]

theorem remember_of_not_contains {w : ReplayWindow} {seq : UInt64} (h : w.contains seq = false) :
    w.remember seq = (w.record seq).evictOldestIfFull := by
  unfold remember record
  rw [if_neg (by simp [h])]
  split_ifs <;> rfl

theorem toNat_maxSeen_record (w : ReplayWindow) (seq : UInt64) :
    (w.record seq).maxSeen.toNat = max w.maxSeen.toNat seq.toNat := by
  unfold record
  dsimp only
  split_ifs with h
  · rw [UInt64.lt_iff_toNat_lt] at h
    omega
  · rw [UInt64.lt_iff_toNat_lt] at h
    omega

/-! ## Representation invariant -/

/-- The queue lists the set of remembered numbers without repetition, the set holds at
most `window` numbers, and none of them is above the maximum. -/
structure Wf (w : ReplayWindow) : Prop where
  size_pos : 0 < w.window.toNat
  nodup : w.order.Nodup
  seen_eq : w.seen = w.order.toFinset
  length_le : w.order.length ≤ w.window.toNat
  le_maxSeen : ∀ s ∈ w.order, s.toNat ≤ w.maxSeen.toNat

theorem wf_new {window : UInt64} (h : 0 < window.toNat) : (new window).Wf where
  size_pos := h
  nodup := List.nodup_nil
  seen_eq := rfl
  length_le := Nat.zero_le _
  le_maxSeen := by simp [new]

theorem Wf.mem_seen {w : ReplayWindow} (hw : w.Wf) {s : UInt64} : s ∈ w.seen ↔ s ∈ w.order := by
  rw [hw.seen_eq, List.mem_toFinset]

theorem Wf.fresh {w : ReplayWindow} (hw : w.Wf) {seq : UInt64} (h : w.contains seq = false) :
    seq ∉ w.order :=
  fun hs => (contains_eq_false.mp h).2 (hw.mem_seen.mpr hs)

/-- A fresh number is recorded, and when there is no room the oldest one is dropped. -/
theorem Wf.remember_cases {w : ReplayWindow} (hw : w.Wf) {seq : UInt64}
    (h : w.contains seq = false) :
    (w.order.length < w.window.toNat ∧ w.remember seq = w.record seq) ∨
    (w.order.length = w.window.toNat ∧ ∃ oldest order, w.order = oldest :: order ∧
      w.remember seq = { w.record seq with
        seen := (insert seq w.seen).erase oldest
        order := order ++ [seq] }) := by
  rw [remember_of_not_contains h]
  rcases hw.length_le.lt_or_eq with hroom | hfull
  · left
    have : ¬ w.window.toNat < w.order.length + 1 := by omega
    exact ⟨hroom, by simp [evictOldestIfFull, record, this]⟩
  · right
    refine ⟨hfull, ?_⟩
    cases hord : w.order with
    | nil =>
      have := hw.size_pos
      simp [hord] at hfull
      omega
    | cons oldest order =>
      have : w.window.toNat < order.length + 1 + 1 := by simp [hord] at hfull; omega
      exact ⟨oldest, order, rfl, by simp [evictOldestIfFull, record, hord, this]⟩

@[simp] theorem Wf.remember_window {w : ReplayWindow} (hw : w.Wf) (seq : UInt64) :
    (w.remember seq).window = w.window := by
  cases h : w.contains seq with
  | true => rw [remember_of_contains h]
  | false =>
    obtain ⟨-, heq⟩ | ⟨-, oldest, order, -, heq⟩ := hw.remember_cases h
    · rw [heq]; rfl
    · rw [heq]; rfl

theorem Wf.maxSeen_remember {w : ReplayWindow} (hw : w.Wf) {seq : UInt64}
    (h : w.contains seq = false) :
    (w.remember seq).maxSeen.toNat = max w.maxSeen.toNat seq.toNat := by
  rw [← toNat_maxSeen_record]
  obtain ⟨-, heq⟩ | ⟨-, oldest, order, -, heq⟩ := hw.remember_cases h
  · rw [heq]
  · rw [heq]

theorem Wf.remember {w : ReplayWindow} (hw : w.Wf) (seq : UInt64) : (w.remember seq).Wf := by
  cases h : w.contains seq with
  | true => rwa [remember_of_contains h]
  | false =>
    have hfresh := hw.fresh h
    have hmax := hw.maxSeen_remember h
    have hle := hw.le_maxSeen
    have hsize := hw.size_pos
    obtain ⟨hroom, heq⟩ | ⟨hfull, oldest, order, hord, heq⟩ := hw.remember_cases h
    · refine ⟨by simpa [hw] using hsize, ?_, ?_, ?_, ?_⟩
      · have := hw.nodup
        rw [heq, record]
        grind
      · rw [heq, record, hw.seen_eq]
        ext s
        simp only [Finset.mem_insert, List.mem_toFinset, List.mem_append, List.mem_singleton]
        exact or_comm
      · rw [heq, record]
        grind
      · rw [hmax, heq, record]
        grind
    · have hnodup := hw.nodup
      rw [hord] at hnodup hfresh hle hfull
      refine ⟨by simpa [hw] using hsize, ?_, ?_, ?_, ?_⟩
      · rw [heq]
        grind
      · rw [heq, hw.seen_eq, hord]
        ext s
        simp
        grind
      · rw [heq, record]
        grind
      · rw [hmax, heq]
        grind

/-- What a window keeps when it remembers a fresh number. -/
theorem Wf.mem_remember {w : ReplayWindow} (hw : w.Wf) {seq : UInt64}
    (h : w.contains seq = false) {s : UInt64} (hs : s ∈ (w.remember seq).order) :
    s = seq ∨ s ∈ w.order := by
  obtain ⟨-, heq⟩ | ⟨-, oldest, order, hord, heq⟩ := hw.remember_cases h
  · rw [heq, record] at hs
    grind
  · rw [heq] at hs
    grind

theorem Wf.contains_remember_self {w : ReplayWindow} (hw : w.Wf) (seq : UInt64) :
    (w.remember seq).contains seq = true := by
  cases h : w.contains seq with
  | true => rwa [remember_of_contains h]
  | false =>
    have hfresh := hw.fresh h
    refine contains_iff.mpr (.inr ((hw.remember seq).mem_seen.mpr ?_))
    obtain ⟨-, heq⟩ | ⟨-, oldest, order, hord, heq⟩ := hw.remember_cases h
    · simp [heq, record]
    · simp [heq]

/-- Remembering a number lets no higher number become contained. -/
theorem Wf.not_contains_remember {w : ReplayWindow} (hw : w.Wf) {seq q : UInt64}
    (h : w.contains q = false) (hlt : seq < q) : (w.remember seq).contains q = false := by
  cases hseq : w.contains seq with
  | true => rwa [remember_of_contains hseq]
  | false =>
    obtain ⟨hrecent, hunseen⟩ := contains_eq_false.mp h
    rw [contains_eq_false, hw.maxSeen_remember hseq, hw.remember_window]
    constructor
    · rw [UInt64.lt_iff_toNat_lt] at hlt
      omega
    · intro hmem
      rcases hw.mem_remember hseq ((hw.remember seq).mem_seen.mp hmem) with rfl | hold
      · exact absurd hlt (UInt64.lt_irrefl _)
      · exact hunseen (hw.mem_seen.mpr hold)

/-- Remembering `seq` drops `s`, which is not too old then. -/
def Drops (w : ReplayWindow) (s seq : UInt64) : Prop :=
  w.contains seq = false ∧ w.order.length = w.window.toNat ∧ w.order.head? = some s ∧
    max w.maxSeen.toNat seq.toNat < s.toNat + w.window.toNat

/-- A contained number stays contained unless it is dropped. -/
theorem Wf.contains_remember_iff {w : ReplayWindow} (hw : w.Wf) {s seq : UInt64}
    (hs : w.contains s = true) : (w.remember seq).contains s = true ↔ ¬ w.Drops s seq := by
  cases hfresh : w.contains seq with
  | true => simp [remember_of_contains hfresh, hs, Drops, hfresh]
  | false =>
    have hmax := hw.maxSeen_remember hfresh
    have hpos := hw.size_pos
    rw [contains_iff, hmax, hw.remember_window]
    obtain ⟨hroom, heq⟩ | ⟨hfull, oldest, order, hord, heq⟩ := hw.remember_cases hfresh
    · have hkept : ¬ w.Drops s seq := fun hdrop => by have := hdrop.2.1; omega
      refine iff_of_true ?_ hkept
      rcases contains_iff.mp hs with hold | hseen
      · left
        omega
      · right
        simp [heq, record, hseen]
    · by_cases holdest : s = oldest
      · subst holdest
        have hunseen : s ∉ (w.remember seq).seen := by simp [heq]
        rw [hord] at hfull
        simp only [hunseen, or_false, Drops, hfresh, hord, hfull, List.head?_cons, true_and]
        omega
      · have hkept : ¬ w.Drops s seq := fun hdrop => by
          have := hdrop.2.2.1
          simp [hord, eq_comm] at this
          exact holdest this
        refine iff_of_true ?_ hkept
        rcases contains_iff.mp hs with hold | hseen
        · left
          omega
        · right
          simp [heq, hseen, holdest]

/-! ## Increasing numbers -/

/-- Numbers in ascending order take up room below the next one. -/
theorem add_length_le_of_ascending {s q : UInt64} {order : List UInt64}
    (hasc : (s :: order).Pairwise (· < ·)) (hlt : ∀ x ∈ s :: order, x < q) :
    s.toNat + (order.length + 1) ≤ q.toNat := by
  induction order generalizing s with
  | nil =>
    have := UInt64.lt_iff_toNat_lt.mp (hlt s (.head _))
    simp only [List.length_nil]
    omega
  | cons a order ih =>
    obtain ⟨hs, hrest⟩ := List.pairwise_cons.mp hasc
    have hle := ih hrest fun x hx => hlt x (.tail _ hx)
    have := UInt64.lt_iff_toNat_lt.mp (hs a (.head _))
    simp only [List.length_cons] at hle ⊢
    omega

/-- While the numbers increase, the one that is dropped is too old. -/
theorem not_drops_of_ascending {w : ReplayWindow} {seq : UInt64}
    (hasc : w.order.Pairwise (· < ·)) (hlt : ∀ x ∈ w.order, x < seq) (s : UInt64) :
    ¬ w.Drops s seq := by
  rintro ⟨-, hfull, hhead, hrecent⟩
  obtain ⟨order, hord⟩ := List.head?_eq_some_iff.mp hhead
  rw [hord] at hasc hlt hfull
  have := add_length_le_of_ascending hasc hlt
  rw [List.length_cons] at hfull
  omega

theorem Wf.ascending_remember {w : ReplayWindow} (hw : w.Wf) {seq : UInt64}
    (hasc : w.order.Pairwise (· < ·)) (hlt : ∀ x ∈ w.order, x < seq) :
    (w.remember seq).order.Pairwise (· < ·) := by
  have hgrown : (w.order ++ [seq]).Pairwise (· < ·) :=
    List.pairwise_append.mpr ⟨hasc, List.pairwise_singleton _ _, by simpa using hlt⟩
  cases h : w.contains seq with
  | true => rwa [remember_of_contains h]
  | false =>
    obtain ⟨-, heq⟩ | ⟨-, oldest, order, hord, heq⟩ := hw.remember_cases h
    · rw [heq]
      exact hgrown
    · rw [heq]
      rw [hord] at hgrown
      exact hgrown.of_cons

/-! ## No number is accepted twice -/

/-- A call on the window, with its argument. -/
inductive Call where
  | accept (seq : UInt64)
  | remember (seq : UInt64)
  deriving DecidableEq, Repr

def Call.seq : Call → UInt64
  | accept s => s
  | remember s => s

def step (w : ReplayWindow) : Call → ReplayWindow
  | .accept s => (w.accept s).2
  | .remember s => w.remember s

/-- The call records its number: `accept` answers true, `remember` finds it fresh. -/
def records (w : ReplayWindow) : Call → Bool
  | .accept s => (w.accept s).1
  | .remember s => !w.contains s

/-- Once a call has recorded a number, that number is contained in and refused by the
window after every later call. -/
def ReplaySafe (w : ReplayWindow) (calls : List Call) : Prop :=
  ∀ before call after, before ++ call :: after <+: calls → (run step w before).records call →
    (run step w (before ++ call :: after)).contains call.seq = true ∧
      ((run step w (before ++ call :: after)).accept call.seq).1 = false

/-- The call drops nothing that its window would then no longer refuse: it is refused
itself, or there is room, or the oldest number is already below the window. -/
def DropsOnlyTooOld (w : ReplayWindow) (call : Call) : Prop :=
  w.contains call.seq = false → w.order.length = w.window.toNat →
    ∀ oldest ∈ w.order.head?,
      oldest.toNat + w.window.toNat ≤ max w.maxSeen.toNat call.seq.toNat

theorem step_eq (w : ReplayWindow) (call : Call) : w.step call = w.remember call.seq := by
  cases call with
  | accept s => simp [step, accept_eq, Call.seq]
  | remember s => rfl

theorem records_eq (w : ReplayWindow) (call : Call) :
    w.records call = !w.contains call.seq := by
  cases call with
  | accept s => simp [records, accept_eq, Call.seq]
  | remember s => rfl

theorem wf_run {w : ReplayWindow} (hw : w.Wf) (calls : List Call) : (run step w calls).Wf :=
  run_preserves (Q := fun _ => True) (fun w call _ hw => by rw [step_eq]; exact hw.remember _)
    (by simp) hw

/-- A number that is contained stays contained unless it is the one dropped. -/
theorem Wf.contains_step {w : ReplayWindow} (hw : w.Wf) {call : Call}
    (hdrop : w.DropsOnlyTooOld call) {s : UInt64} (hs : w.contains s = true) :
    (w.step call).contains s = true := by
  rw [step_eq, hw.contains_remember_iff hs]
  rintro ⟨hfresh, hfull, hhead, hrecent⟩
  have := hdrop hfresh hfull s hhead
  omega

/-- A step that drops a number above the window lets it in again. -/
theorem Wf.not_contains_step {w : ReplayWindow} (hw : w.Wf) {call : Call}
    (hdrop : ¬ w.DropsOnlyTooOld call) :
    ∃ s ∈ w.order, (w.step call).contains s = false := by
  simp only [DropsOnlyTooOld, not_forall] at hdrop
  obtain ⟨hfresh, hfull, oldest, hhead, hrecent⟩ := hdrop
  have hmem : oldest ∈ w.order := List.mem_of_mem_head? hhead
  have hold : w.contains oldest = true := contains_iff.mpr (.inr (hw.mem_seen.mpr hmem))
  refine ⟨oldest, hmem, ?_⟩
  rw [step_eq, ← Bool.not_eq_true, hw.contains_remember_iff hold, not_not]
  exact ⟨hfresh, hfull, hhead, by omega⟩

/-- Every number a window keeps was recorded by some call. -/
theorem recorded_of_mem_order {window : UInt64} (hw : 0 < window.toNat) {calls : List Call}
    {s : UInt64} (hs : s ∈ (run step (new window) calls).order) :
    ∃ before call after, before ++ call :: after = calls ∧ call.seq = s ∧
      (run step (new window) before).records call := by
  induction calls using List.reverseRecOn with
  | nil => simp [new] at hs
  | append_singleton calls call ih =>
    have hwf := wf_run (wf_new hw) calls
    rw [run_snoc, step_eq] at hs
    cases h : (run step (new window) calls).contains call.seq with
    | true =>
      rw [remember_of_contains h] at hs
      obtain ⟨before, c, after, rfl, hc⟩ := ih hs
      exact ⟨before, c, after ++ [call], by simp, hc⟩
    | false =>
      rcases hwf.mem_remember h hs with rfl | hs
      · exact ⟨calls, call, [], rfl, rfl, by simp [records_eq, h]⟩
      · obtain ⟨before, c, after, rfl, hc⟩ := ih hs
        exact ⟨before, c, after ++ [call], by simp, hc⟩

/-- No number is accepted twice exactly in the runs in which every number that leaves
the queue is already too old when it leaves. -/
theorem replay_safe_iff (window : UInt64) (hw : 1 ≤ window.toNat) (calls : List Call) :
    (new window).ReplaySafe calls ↔ Along step DropsOnlyTooOld (new window) calls := by
  constructor
  · intro hsafe
    refine along_of_prefix fun before call hpre => ?_
    by_contra hdrop
    obtain ⟨s, hs, hlost⟩ := (wf_run (wf_new hw) before).not_contains_step hdrop
    obtain ⟨first, c, mid, rfl, rfl, hrec⟩ := recorded_of_mem_order hw hs
    have := (hsafe first c (mid ++ [call]) (by simpa using hpre) hrec).1
    rw [← List.cons_append, ← List.append_assoc, run_snoc, hlost] at this
    exact absurd this (by simp)
  · intro halong before call after hpre hrec
    obtain ⟨rest, rfl⟩ := hpre
    obtain ⟨-, -, halong⟩ := (along_append _ _ _).mp ((along_append _ _ _).mp halong).1
    have hwf : (run step (new window) before).Wf := wf_run (wf_new hw) before
    have hkept : (run step (new window) (before ++ call :: after)).contains call.seq = true := by
      rw [run_append, run_cons]
      refine (run_invariant (I := fun w => w.Wf ∧ w.contains call.seq = true)
        (fun w c hw hdrop => ⟨?_, hw.1.contains_step hdrop hw.2⟩) ⟨?_, ?_⟩ halong).2
      · rw [step_eq]; exact hw.1.remember _
      · rw [step_eq]; exact hwf.remember _
      · rw [step_eq]; exact hwf.contains_remember_self _
    exact ⟨hkept, by simp [accept_eq, hkept]⟩

theorem replay_safe_iff_in_order : (new 2).ReplaySafe [.accept 1, .accept 2, .accept 3] ↔
    Along step DropsOnlyTooOld (new 2) [.accept 1, .accept 2, .accept 3] :=
  replay_safe_iff 2 (by decide) _

/-- The number 10 leaves a window of size two while the bound is still 9. -/
theorem accepted_twice :
    ¬ (new 2).ReplaySafe [.accept 10, .accept 9, .accept 11] ∧
    (run step (new 2) [.accept 10, .accept 9, .accept 11]).accept 10 =
      (true, (run step (new 2) [.accept 10, .accept 9, .accept 11]).remember 10) := by
  constructor
  · intro hsafe
    have := (hsafe [] (.accept 10) [.accept 9, .accept 11] (by simp) (by decide)).1
    exact absurd this (by decide)
  · decide

end ReplayWindow

end AccessSecurity.Protocol
