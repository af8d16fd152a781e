import Mathlib.Algebra.BigOperators.Fin
import Mathlib.Algebra.Order.BigOperators.Group.Finset
import Mathlib.Data.Fintype.BigOperators
import Mathlib.Data.Set.Finite.Lemmas

/-!
# Locks taken in order

Threads take locks for the time of a scope (`Skeleton`); a lock can be taken as often at a time
as it has slots. When every lock has a rank, and a scope only takes locks of a higher rank than
those that are held, there is no deadlock: as long as a thread has something to do, some thread
can do it (`Ordered.progress`), and every run can be continued until all threads are done
(`Ordered.completes`).
-/

namespace AccessSecurity.Foundation

/-- What a thread does with locks. -/
inductive Act (L : Type*) where
  | acquire (l : L)
  | release (l : L)
  deriving DecidableEq, Repr

/-! ## Scopes -/

/-- How a program takes locks; a lock is held for a scope, however it is left. -/
inductive Skeleton (L : Type*) where
  | skip
  | seq (a b : Skeleton L)
  | choice (a b : Skeleton L)
  | loop (a : Skeleton L)
  | hold (l : L) (a : Skeleton L)

variable {L : Type*}

namespace Skeleton

/-- What a run of the program can do; an exception leaves out the rest of a sequence. -/
inductive Traces : Skeleton L → List (Act L) → Prop where
  | skip : Traces .skip []
  | seq {a b t u} (ha : Traces a t) (hb : Traces b u) : Traces (.seq a b) (t ++ u)
  | throws {a b t} (ha : Traces a t) : Traces (.seq a b) t
  | left {a b t} (ha : Traces a t) : Traces (.choice a b) t
  | right {a b t} (hb : Traces b t) : Traces (.choice a b) t
  | done {a} : Traces (.loop a) []
  | again {a t u} (ha : Traces a t) (hu : Traces (.loop a) u) : Traces (.loop a) (t ++ u)
  | hold {l a t} (ha : Traces a t) : Traces (.hold l a) (.acquire l :: (t ++ [.release l]))

/-- Only locks of a higher rank than `n` and than those of the scopes around are taken. -/
def Ascends (rank : L → Nat) : Nat → Skeleton L → Prop
  | _, .skip => True
  | n, .seq a b => a.Ascends rank n ∧ b.Ascends rank n
  | n, .choice a b => a.Ascends rank n ∧ b.Ascends rank n
  | n, .loop a => a.Ascends rank n
  | n, .hold l a => n < rank l ∧ a.Ascends rank (rank l)

instance decidableAscends (rank : L → Nat) :
    (n : Nat) → (a : Skeleton L) → Decidable (a.Ascends rank n)
  | _, .skip => .isTrue trivial
  | n, .seq a b =>
    have := decidableAscends rank n a
    have := decidableAscends rank n b
    inferInstanceAs (Decidable (a.Ascends rank n ∧ b.Ascends rank n))
  | n, .choice a b =>
    have := decidableAscends rank n a
    have := decidableAscends rank n b
    inferInstanceAs (Decidable (a.Ascends rank n ∧ b.Ascends rank n))
  | n, .loop a => decidableAscends rank n a
  | n, .hold l a =>
    have := decidableAscends rank (rank l) a
    inferInstanceAs (Decidable (n < rank l ∧ a.Ascends rank (rank l)))

end Skeleton

/-! ## Threads -/

/-- The rest of a thread that holds these locks, the last one first, takes locks in ascending
order and releases them in the reverse order. -/
def Follows (rank : L → Nat) : List L → List (Act L) → Prop
  | held, [] => held = []
  | held, .acquire l :: acts => (∀ k ∈ held, rank k < rank l) ∧ Follows rank (l :: held) acts
  | [], .release _ :: _ => False
  | k :: held, .release l :: acts => k = l ∧ Follows rank held acts

theorem Skeleton.Traces.follows {rank : L → Nat} {a : Skeleton L} {t : List (Act L)}
    (h : a.Traces t) {n : Nat} (hascends : a.Ascends rank n) {held : List L}
    (hheld : ∀ k ∈ held, rank k ≤ n) {acts : List (Act L)} (hacts : Follows rank held acts) :
    Follows rank held (t ++ acts) := by
  induction h generalizing n held acts with
  | skip => exact hacts
  | seq ha hb iha ihb =>
    rw [List.append_assoc]
    exact iha hascends.1 hheld (ihb hascends.2 hheld hacts)
  | throws ha ih => exact ih hascends.1 hheld hacts
  | left ha ih => exact ih hascends.1 hheld hacts
  | right hb ih => exact ih hascends.2 hheld hacts
  | done => exact hacts
  | again ha hu iha ihu =>
    rw [List.append_assoc]
    exact iha hascends hheld (ihu hascends hheld hacts)
  | @hold l a t ha ih =>
    rw [List.cons_append, List.append_assoc]
    refine ⟨fun k hk => (hheld k hk).trans_lt hascends.1, ih hascends.2 ?_ ⟨rfl, hacts⟩⟩
    intro k hk
    rcases List.mem_cons.mp hk with rfl | hk
    · exact le_rfl
    · exact (hheld k hk).trans hascends.1.le

/-- A thread that holds a lock is not done. -/
theorem Follows.ne_nil {rank : L → Nat} {held : List L} {acts : List (Act L)} {k : L}
    (h : Follows rank held acts) (hk : k ∈ held) : acts ≠ [] := by
  rintro rfl
  obtain rfl : held = [] := h
  cases hk

theorem Follows.acquire_lt {rank : L → Nat} {held : List L} {l : L} {acts : List (Act L)}
    (h : Follows rank held (.acquire l :: acts)) {k : L} (hk : k ∈ held) : rank k < rank l := by
  cases held <;> exact h.1 k hk

theorem Follows.acquired {rank : L → Nat} {held : List L} {l : L} {acts : List (Act L)}
    (h : Follows rank held (.acquire l :: acts)) : Follows rank (l :: held) acts := by
  cases held <;> exact h.2

theorem Follows.released {rank : L → Nat} {held : List L} {l : L} {acts : List (Act L)}
    (h : Follows rank held (.release l :: acts)) :
    ∃ rest, held = l :: rest ∧ Follows rank rest acts := by
  cases held with
  | nil => exact h.elim
  | cons k held =>
    obtain ⟨rfl, hacts⟩ := h
    exact ⟨held, rfl, hacts⟩

/-! ## Systems -/

/-- What the threads have still to do, and how many slots of each lock are free. -/
structure System (ι L : Type*) where
  todo : ι → List (Act L)
  free : L → Nat

namespace System

variable {ι : Type*} [DecidableEq ι] [DecidableEq L]

/-- The thread does what it has to do next, unless it has to wait for a lock. -/
def step (s : System ι L) (i : ι) : Option (System ι L) :=
  match s.todo i with
  | [] => none
  | .acquire l :: acts =>
    if s.free l = 0 then none
    else some ⟨Function.update s.todo i acts, Function.update s.free l (s.free l - 1)⟩
  | .release l :: acts =>
    some ⟨Function.update s.todo i acts, Function.update s.free l (s.free l + 1)⟩

/-- The threads take steps in this order. -/
def steps (s : System ι L) (is : List ι) : Option (System ι L) := is.foldlM step s

/-- What a step does. -/
theorem step_cases {s t : System ι L} {i : ι} (h : s.step i = some t) :
    (∃ l acts, s.todo i = .acquire l :: acts ∧ 0 < s.free l ∧
      t = ⟨Function.update s.todo i acts, Function.update s.free l (s.free l - 1)⟩) ∨
    (∃ l acts, s.todo i = .release l :: acts ∧
      t = ⟨Function.update s.todo i acts, Function.update s.free l (s.free l + 1)⟩) := by
  unfold step at h
  split at h
  · cases h
  · split_ifs at h with hfree
    exact .inl ⟨_, _, ‹_›, Nat.pos_of_ne_zero hfree, (Option.some.inj h).symm⟩
  · exact .inr ⟨_, _, ‹_›, (Option.some.inj h).symm⟩

/-- A thread that cannot go on waits for a lock without a free slot. -/
theorem waits_of_stuck {s : System ι L} {i : ι} (hi : s.todo i ≠ []) (hstuck : s.step i = none) :
    ∃ l acts, s.todo i = .acquire l :: acts ∧ s.free l = 0 := by
  unfold System.step at hstuck
  split at hstuck
  · contradiction
  · split_ifs at hstuck with hfree
    exact ⟨_, _, ‹_›, hfree⟩
  · cases hstuck

variable [Fintype ι]

/-- The slots that are not free are those that the threads hold. -/
structure Ordered (rank capacity : L → Nat) (held : ι → List L) (s : System ι L) : Prop where
  follows : ∀ i, Follows rank (held i) (s.todo i)
  slots : ∀ l, s.free l + ∑ i, (held i).count l = capacity l

omit [DecidableEq ι] in
/-- Before the threads have started, no lock is held. -/
theorem ordered_start {rank capacity : L → Nat} {todo : ι → List (Act L)}
    {skeleton : ι → Skeleton L} (htraces : ∀ i, (skeleton i).Traces (todo i))
    (hascends : ∀ i, (skeleton i).Ascends rank 0) :
    Ordered rank capacity (fun _ => []) ⟨todo, capacity⟩ where
  follows i := by
    have hdone : Follows rank ([] : List L) [] := rfl
    have hfollows := (htraces i).follows (hascends i) (List.forall_mem_nil _) hdone
    rwa [List.append_nil] at hfollows
  slots l := by simp

theorem sum_count_update (held : ι → List L) (i : ι) (now : List L) (l : L) :
    ∑ j, (Function.update held i now j).count l + (held i).count l =
      ∑ j, (held j).count l + now.count l := by
  have hupdate : (fun j => (Function.update held i now j).count l) =
      Function.update (fun j => (held j).count l) i (now.count l) :=
    funext fun j => Function.apply_update (fun _ h => h.count l) held i now j
  rw [hupdate, Finset.sum_update_of_mem (Finset.mem_univ i),
    ← Finset.add_sum_erase _ _ (Finset.mem_univ i), Finset.sdiff_singleton_eq_erase]
  omega

variable {rank capacity : L → Nat} {held : ι → List L} {s t : System ι L}

theorem Ordered.step (h : s.Ordered rank capacity held) {i : ι} (hstep : s.step i = some t) :
    ∃ held', t.Ordered rank capacity held' := by
  rcases step_cases hstep with ⟨l, acts, htodo, hfree, rfl⟩ | ⟨l, acts, htodo, rfl⟩
  · have hfollows := h.follows i
    rw [htodo] at hfollows
    refine ⟨Function.update held i (l :: held i), fun j => ?_, fun k => ?_⟩
    · by_cases hj : j = i
      · subst hj
        simpa using hfollows.acquired
      · simpa [hj] using h.follows j
    · have hslots := h.slots k
      have hsum := sum_count_update held i (l :: held i) k
      by_cases hk : k = l
      · subst hk
        simp only [List.count_cons_self, Function.update_self] at hsum ⊢
        omega
      · rw [List.count_cons_of_ne (Ne.symm hk)] at hsum
        simp only [Function.update_of_ne hk]
        omega
  · have hfollows := h.follows i
    rw [htodo] at hfollows
    obtain ⟨rest, hheld, hrest⟩ := hfollows.released
    refine ⟨Function.update held i rest, fun j => ?_, fun k => ?_⟩
    · by_cases hj : j = i
      · subst hj
        simpa using hrest
      · simpa [hj] using h.follows j
    · have hslots := h.slots k
      have hsum := sum_count_update held i rest k
      rw [hheld] at hsum
      by_cases hk : k = l
      · subst hk
        simp only [List.count_cons_self, Function.update_self] at hsum ⊢
        omega
      · rw [List.count_cons_of_ne (Ne.symm hk)] at hsum
        simp only [Function.update_of_ne hk]
        omega

theorem Ordered.steps (h : s.Ordered rank capacity held) {is : List ι}
    (hsteps : s.steps is = some t) : ∃ held', t.Ordered rank capacity held' := by
  induction is generalizing s held with
  | nil =>
    obtain rfl := Option.some.inj hsteps
    exact ⟨held, h⟩
  | cons i is ih =>
    obtain ⟨u, hu, ht⟩ := Option.bind_eq_some_iff.mp hsteps
    obtain ⟨held', hordered⟩ := h.step hu
    exact ih hordered ht

/-- There is no deadlock. -/
theorem Ordered.progress [Finite L] (h : s.Ordered rank capacity held)
    (hcapacity : ∀ l, 0 < capacity l) {i : ι} (hi : s.todo i ≠ []) :
    ∃ j, (s.step j).isSome = true := by
  by_contra hnone
  have hstuck : ∀ j, s.step j = none := by simpa using hnone
  let awaited : Set L := {l | ∃ j acts, s.todo j = .acquire l :: acts ∧ s.free l = 0}
  have hnonempty : awaited.Nonempty := by
    obtain ⟨l, acts, htodo, hfree⟩ := waits_of_stuck hi (hstuck i)
    exact ⟨l, i, acts, htodo, hfree⟩
  -- A thread that holds the awaited lock of the highest rank waits for one of a higher rank.
  obtain ⟨l, ⟨j, acts, htodo, hfree⟩, hhighest⟩ :=
    awaited.exists_max_image rank awaited.toFinite hnonempty
  have hslots := h.slots l
  have htaken := hcapacity l
  obtain ⟨k, -, hk⟩ := Finset.exists_ne_zero_of_sum_ne_zero
    (show ∑ i, (held i).count l ≠ 0 by omega)
  have hheld : l ∈ held k := List.count_pos_iff.mp (Nat.pos_of_ne_zero hk)
  obtain ⟨l', acts', htodo', hfree'⟩ := waits_of_stuck ((h.follows k).ne_nil hheld) (hstuck k)
  have hfollows := h.follows k
  rw [htodo'] at hfollows
  have hhigher := hfollows.acquire_lt hheld
  have hbound := hhighest l' ⟨k, acts', htodo', hfree'⟩
  omega

/-- How much the threads have still to do. -/
def remaining (s : System ι L) : Nat := ∑ i, (s.todo i).length

theorem remaining_step {i : ι} (h : s.step i = some t) : t.remaining + 1 = s.remaining := by
  have hupdate : ∀ acts, s.todo i = acts → ∀ act rest, acts = act :: rest →
      ∑ j, (Function.update s.todo i rest j).length + 1 = ∑ j, (s.todo j).length := by
    rintro acts hacts act rest rfl
    have hlength : (fun j => (Function.update s.todo i rest j).length) =
        Function.update (fun j => (s.todo j).length) i rest.length :=
      funext fun j => Function.apply_update (fun _ a => a.length) s.todo i rest j
    rw [hlength, Finset.sum_update_of_mem (Finset.mem_univ i),
      ← Finset.add_sum_erase _ _ (Finset.mem_univ i), Finset.sdiff_singleton_eq_erase, hacts,
      List.length_cons]
    omega
  rcases step_cases h with ⟨l, acts, htodo, -, rfl⟩ | ⟨l, acts, htodo, rfl⟩
  · exact hupdate _ htodo _ acts rfl
  · exact hupdate _ htodo _ acts rfl

/-- Every run can be continued until all threads are done. -/
theorem Ordered.completes [Finite L] (h : s.Ordered rank capacity held)
    (hcapacity : ∀ l, 0 < capacity l) : ∃ is t, s.steps is = some t ∧ ∀ i, t.todo i = [] := by
  induction hn : s.remaining generalizing s held with
  | zero =>
    refine ⟨[], s, rfl, fun i => List.length_eq_zero_iff.mp ?_⟩
    exact (Finset.sum_eq_zero_iff.mp hn) i (Finset.mem_univ i)
  | succ n ih =>
    obtain ⟨i, -, hi⟩ := Finset.exists_ne_zero_of_sum_ne_zero
      (show ∑ i, (s.todo i).length ≠ 0 by rw [remaining] at hn; omega)
    obtain ⟨j, hj⟩ := h.progress hcapacity (List.length_pos_iff.mp (Nat.pos_of_ne_zero hi))
    obtain ⟨u, hu⟩ := Option.isSome_iff_exists.mp hj
    obtain ⟨held', hordered⟩ := h.step hu
    have hless := remaining_step hu
    obtain ⟨is, t, his, hdone⟩ := ih hordered (by omega)
    refine ⟨j :: is, t, ?_, hdone⟩
    rw [System.steps, List.foldlM_cons, hu]
    exact his

/-- A run is not longer than what there is to do. -/
theorem length_steps {is : List ι} (h : s.steps is = some t) :
    is.length + t.remaining = s.remaining := by
  induction is generalizing s with
  | nil =>
    obtain rfl := Option.some.inj h
    simp
  | cons i is ih =>
    obtain ⟨u, hu, ht⟩ := Option.bind_eq_some_iff.mp h
    have hrest := ih ht
    have hfirst := remaining_step hu
    rw [List.length_cons]
    omega

end System

end AccessSecurity.Foundation
