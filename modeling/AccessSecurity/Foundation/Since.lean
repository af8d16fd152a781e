import AccessSecurity.Foundation.Run

/-!
# What has happened since

`Since sets clears is` says that some input of the history `is` has set a fact and no
later one has cleared it. A property of a machine's state that inputs set and clear in
this way holds after exactly these histories (`run_since_iff`). `SinceLast resets before after`
splits a history at the last input that resets a counter; `run_sinceLast` relates the state to
the number of inputs that have counted since.
-/

namespace AccessSecurity.Foundation

variable {σ ι : Type*} {sets : List ι → ι → Prop} {clears : ι → Prop}

/-- Whether an input sets the fact may depend on the inputs before it. -/
def Since (sets : List ι → ι → Prop) (clears : ι → Prop) (is : List ι) : Prop :=
  ∃ before i after, is = before ++ i :: after ∧ sets before i ∧ ∀ j ∈ after, ¬ clears j

@[simp] theorem not_since_nil : ¬ Since sets clears [] := by
  rintro ⟨before, i, after, his, -⟩
  simp at his

theorem since_snoc {is : List ι} {i : ι} :
    Since sets clears (is ++ [i]) ↔ sets is i ∨ (Since sets clears is ∧ ¬ clears i) := by
  constructor
  · rintro ⟨before, j, after, his, hsets, hafter⟩
    cases after using List.reverseRecOn with
    | nil =>
      obtain ⟨rfl, hlast⟩ := List.append_inj' his rfl
      obtain rfl : i = j := by simpa using hlast
      exact .inl hsets
    | append_singleton after last =>
      rw [← List.cons_append, ← List.append_assoc] at his
      obtain ⟨rfl, hlast⟩ := List.append_inj' his rfl
      obtain rfl : i = last := by simpa using hlast
      refine .inr ⟨⟨before, j, after, rfl, hsets, fun k hk => ?_⟩, hafter i (by simp)⟩
      exact hafter k (by simp [hk])
  · rintro (hsets | ⟨⟨before, j, after, rfl, hsets, hafter⟩, hclears⟩)
    · exact ⟨is, i, [], by simp, hsets, by simp⟩
    · refine ⟨before, j, after ++ [i], by simp, hsets, fun k hk => ?_⟩
      rcases List.mem_append.mp hk with hk | hk
      · exact hafter k hk
      · obtain rfl : k = i := by simpa using hk
        exact hclears

theorem since_mono {sets' : List ι → ι → Prop} {clears' : ι → Prop} {is : List ι}
    (hsets : ∀ before i, sets before i → sets' before i) (hclears : ∀ i, clears' i → clears i)
    (h : Since sets clears is) : Since sets' clears' is := by
  obtain ⟨before, i, after, his, hi, hafter⟩ := h
  exact ⟨before, i, after, his, hsets _ _ hi, fun j hj hclear => hafter j hj (hclears j hclear)⟩

theorem since_exists {κ : Type*} {sets : κ → List ι → ι → Prop} {is : List ι} :
    Since (fun before i => ∃ k, sets k before i) clears is ↔ ∃ k, Since (sets k) clears is := by
  constructor
  · rintro ⟨before, i, after, his, ⟨k, hk⟩, hafter⟩
    exact ⟨k, before, i, after, his, hk, hafter⟩
  · rintro ⟨k, h⟩
    exact since_mono (fun _ _ hi => ⟨k, hi⟩) (fun _ hi => hi) h

/-- Where setting one fact clears the others, only the last input that sets one matters. -/
theorem since_meet {sets' : List ι → ι → Prop} {is : List ι}
    (hsets : ∀ before i, sets before i → clears i) (hsets' : ∀ before i, sets' before i → clears i)
    (h : Since sets clears is) (h' : Since sets' clears is) :
    ∃ before i, sets before i ∧ sets' before i := by
  induction is using List.reverseRecOn with
  | nil => exact absurd h not_since_nil
  | append_singleton is i ih =>
    rcases since_snoc.mp h with hi | ⟨h, hi⟩
    · rcases since_snoc.mp h' with hi' | ⟨-, hi'⟩
      · exact ⟨is, i, hi, hi'⟩
      · exact absurd (hsets is i hi) hi'
    · rcases since_snoc.mp h' with hi' | ⟨h', -⟩
      · exact absurd (hsets' is i hi') hi
      · exact ih h h'

/-- What is cleared and not set again does not hold. -/
theorem not_since_append {is js : List ι} (hsets : ∀ before, ∀ j ∈ js, ¬ sets before j)
    (hclears : ∃ j ∈ js, clears j) : ¬ Since sets clears (is ++ js) := by
  induction js using List.reverseRecOn with
  | nil =>
    obtain ⟨j, hj, -⟩ := hclears
    simp at hj
  | append_singleton js k ih =>
    rw [← List.append_assoc, since_snoc]
    rintro (hk | ⟨hsince, hk⟩)
    · exact hsets _ k (by simp) hk
    · obtain ⟨j, hj, hclear⟩ := hclears
      rcases List.mem_append.mp hj with hj | hj
      · exact ih (fun before i hi => hsets before i (by simp [hi])) ⟨j, hj, hclear⟩ hsince
      · obtain rfl : j = k := by simpa using hj
        exact hk hclear

/-- A state property that each input sets, clears or leaves alone. -/
theorem run_since_iff {step : σ → ι → σ} {s : σ} {P : σ → Prop} (hinit : ¬ P s) (is : List ι)
    (hstep : ∀ before, ∀ i ∈ is, P (step (run step s before) i) ↔
      sets before i ∨ (P (run step s before) ∧ ¬ clears i)) :
    P (run step s is) ↔ Since sets clears is := by
  induction is using List.reverseRecOn with
  | nil => simpa using hinit
  | append_singleton is i ih =>
    have hbefore := ih fun before j hj => hstep before j (by simp [hj])
    rw [run_snoc, hstep is i (by simp), since_snoc, hbefore]

/-! ## Counting since the last reset -/

/-- The inputs `before` end with the last one that resets, or are none, and none of the inputs
`after` does. -/
structure SinceLast (resets : List ι → ι → Prop) (before after : List ι) : Prop where
  last_resets : ∀ init last, before = init ++ [last] → resets init last
  not_resets : ∀ mid i rest, after = mid ++ i :: rest → ¬ resets (before ++ mid) i

variable {resets : List ι → ι → Prop}

theorem sinceLast_nil : SinceLast resets [] [] := by
  constructor
  · intro init last h
    simp at h
  · intro mid i rest h
    simp at h

theorem sinceLast_reset {is : List ι} {i : ι} (h : resets is i) :
    SinceLast resets (is ++ [i]) [] := by
  constructor
  · intro init last heq
    obtain ⟨rfl, hlast⟩ := List.append_inj' heq rfl
    obtain rfl : i = last := by simpa using hlast
    exact h
  · intro mid j rest heq
    simp at heq

theorem sinceLast_snoc {before after : List ι} {i : ι} : SinceLast resets before (after ++ [i]) ↔
    SinceLast resets before after ∧ ¬ resets (before ++ after) i := by
  constructor
  · intro h
    refine ⟨⟨h.last_resets, ?_⟩, h.not_resets after i [] rfl⟩
    rintro mid j rest rfl
    exact h.not_resets mid j (rest ++ [i]) (by simp)
  · rintro ⟨h, hi⟩
    refine ⟨h.last_resets, fun mid j rest heq => ?_⟩
    cases rest using List.reverseRecOn with
    | nil =>
      obtain ⟨rfl, hlast⟩ := List.append_inj' heq rfl
      obtain rfl : i = j := by simpa using hlast
      exact hi
    | append_singleton rest last =>
      rw [← List.cons_append, ← List.append_assoc] at heq
      obtain ⟨rfl, -⟩ := List.append_inj' heq rfl
      exact h.not_resets mid j rest rfl

theorem exists_sinceLast (is : List ι) :
    ∃ before after, is = before ++ after ∧ SinceLast resets before after := by
  induction is using List.reverseRecOn with
  | nil => exact ⟨[], [], rfl, sinceLast_nil⟩
  | append_singleton is i ih =>
    obtain ⟨before, after, rfl, h⟩ := ih
    by_cases hreset : resets (before ++ after) i
    · exact ⟨before ++ after ++ [i], [], by simp, sinceLast_reset hreset⟩
    · exact ⟨before, after ++ [i], by simp, sinceLast_snoc.mpr ⟨h, hreset⟩⟩

/-- A relation between the state and a counter, which some inputs reset and others count. -/
theorem run_sinceLast {step : σ → ι → σ} {s : σ} {R : σ → ℕ → Prop} {counts : ι → Bool}
    (hinit : R s 0) (hreset : ∀ before i, resets before i → R (step (run step s before) i) 0)
    (hstep : ∀ before i n, ¬ resets before i → R (run step s before) n →
      R (step (run step s before) i) (n + if counts i then 1 else 0))
    {before after : List ι} (h : SinceLast resets before after) :
    R (run step s (before ++ after)) (after.countP counts) := by
  induction after using List.reverseRecOn with
  | nil =>
    rw [List.append_nil]
    cases before using List.reverseRecOn with
    | nil => exact hinit
    | append_singleton init last =>
      rw [run_snoc]
      exact hreset init last (h.last_resets init last rfl)
  | append_singleton after i ih =>
    obtain ⟨h, hi⟩ := sinceLast_snoc.mp h
    rw [← List.append_assoc, run_snoc, List.countP_append, List.countP_singleton]
    exact hstep _ i _ hi (ih h)

end AccessSecurity.Foundation
