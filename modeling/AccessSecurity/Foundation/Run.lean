import Mathlib.Data.List.Basic
import Mathlib.Data.List.Infix

/-!
# Runs of a deterministic machine

A machine is a step function on states; a run feeds it a list of inputs. `Along`
says that every step of a run meets a condition on the state before it and its
input, and `trace` is what a run puts out. An invariant is proved for one step and
then holds after every run; a conditional invariant holds after every run whose
steps all meet the condition.
-/

namespace AccessSecurity.Foundation

variable {σ ι : Type*} (step : σ → ι → σ)

/-- The state reached from `s` by the inputs `is`. -/
def run (s : σ) (is : List ι) : σ := is.foldl step s

@[simp] theorem run_nil (s : σ) : run step s [] = s := rfl

@[simp] theorem run_cons (s : σ) (i : ι) (is : List ι) :
    run step s (i :: is) = run step (step s i) is := rfl

theorem run_append (s : σ) (is js : List ι) :
    run step s (is ++ js) = run step (run step s is) js := by
  simp [run]

theorem run_snoc (s : σ) (is : List ι) (i : ι) :
    run step s (is ++ [i]) = step (run step s is) i := by
  simp [run]

/-- What a run puts out, where `out` is what a step puts out from the state before it. -/
def trace {o : Type*} (out : σ → ι → List o) : σ → List ι → List o
  | _, [] => []
  | s, i :: is => out s i ++ trace out (step s i) is

theorem trace_append {o : Type*} (out : σ → ι → List o) (s : σ) (is js : List ι) :
    trace step out s (is ++ js) = trace step out s is ++ trace step out (run step s is) js := by
  induction is generalizing s with
  | nil => rfl
  | cons i is ih => simp [trace, ih]

theorem trace_snoc {o : Type*} (out : σ → ι → List o) (s : σ) (is : List ι) (i : ι) :
    trace step out s (is ++ [i]) = trace step out s is ++ out (run step s is) i := by
  simp [trace_append, trace]

/-- Every step of the run from `s` meets `P`. -/
def Along (P : σ → ι → Prop) : σ → List ι → Prop
  | _, [] => True
  | s, i :: is => P s i ∧ Along P (step s i) is

variable {step} {P : σ → ι → Prop}

theorem mem_trace {o : Type*} {out : σ → ι → List o} {s : σ} {is : List ι} {a : o} :
    a ∈ trace step out s is ↔
      ∃ before i after, is = before ++ i :: after ∧ a ∈ out (run step s before) i := by
  induction is using List.reverseRecOn with
  | nil => simp [trace]
  | append_singleton is i ih =>
    rw [trace_snoc, List.mem_append, ih]
    constructor
    · rintro (⟨before, j, after, rfl, ha⟩ | ha)
      · exact ⟨before, j, after ++ [i], by simp, ha⟩
      · exact ⟨is, i, [], rfl, ha⟩
    · rintro ⟨before, j, after, heq, ha⟩
      rcases List.eq_nil_or_concat after with rfl | ⟨after, k, rfl⟩
      · obtain ⟨rfl, hlast⟩ := List.append_inj' heq rfl
        obtain rfl := List.singleton_inj.mp hlast
        exact .inr ha
      · rw [List.concat_eq_append, ← List.cons_append, ← List.append_assoc] at heq
        obtain ⟨rfl, -⟩ := List.append_inj' heq rfl
        exact .inl ⟨before, j, after, rfl, ha⟩

@[simp] theorem along_nil (s : σ) : Along step P s [] := trivial

@[simp] theorem along_cons (s : σ) (i : ι) (is : List ι) :
    Along step P s (i :: is) ↔ P s i ∧ Along step P (step s i) is := Iff.rfl

theorem along_append (s : σ) (is js : List ι) :
    Along step P s (is ++ js) ↔ Along step P s is ∧ Along step P (run step s is) js := by
  induction is generalizing s with
  | nil => simp
  | cons i is ih => simp [ih, and_assoc]

theorem along_mono {Q : σ → ι → Prop} (hPQ : ∀ s i, P s i → Q s i) {s : σ} {is : List ι}
    (h : Along step P s is) : Along step Q s is := by
  induction is generalizing s with
  | nil => trivial
  | cons i is ih => exact ⟨hPQ s i h.1, ih h.2⟩

theorem along_and {Q : σ → ι → Prop} {s : σ} {is : List ι} (hP : Along step P s is)
    (hQ : Along step Q s is) : Along step (fun s i => P s i ∧ Q s i) s is := by
  induction is generalizing s with
  | nil => trivial
  | cons i is ih => exact ⟨⟨hP.1, hQ.1⟩, ih hP.2 hQ.2⟩

/-- A condition holds along a run when it holds at the end of each of its prefixes. -/
theorem along_of_prefix {s : σ} {is : List ι}
    (h : ∀ pre i, pre ++ [i] <+: is → P (run step s pre) i) : Along step P s is := by
  induction is generalizing s with
  | nil => trivial
  | cons i is ih =>
    refine ⟨h [] i (by simp), ih fun pre j hpre => ?_⟩
    exact h (i :: pre) j (by simpa using hpre)

instance decidableAlong [∀ s i, Decidable (P s i)] :
    (s : σ) → (is : List ι) → Decidable (Along step P s is)
  | _, [] => .isTrue trivial
  | s, i :: is =>
    have := decidableAlong (step s i) is
    inferInstanceAs (Decidable (P s i ∧ Along step P (step s i) is))

/-- What one step preserves under a condition, a run whose steps meet it preserves. -/
theorem run_invariant {I : σ → Prop} (hstep : ∀ s i, I s → P s i → I (step s i))
    {s : σ} {is : List ι} (hs : I s) (hP : Along step P s is) : I (run step s is) := by
  induction is generalizing s with
  | nil => exact hs
  | cons i is ih => exact ih (hstep s i hs hP.1) hP.2

/-- An invariant of the steps whose inputs satisfy `Q` is one of the runs of such inputs. -/
theorem run_preserves {I : σ → Prop} {Q : ι → Prop}
    (hstep : ∀ s i, Q i → I s → I (step s i))
    {s : σ} {is : List ι} (hQ : ∀ i ∈ is, Q i) (hs : I s) : I (run step s is) := by
  induction is generalizing s with
  | nil => exact hs
  | cons i is ih =>
    exact ih (fun j hj => hQ j (.tail _ hj)) (hstep s i (hQ i (.head _)) hs)

end AccessSecurity.Foundation
