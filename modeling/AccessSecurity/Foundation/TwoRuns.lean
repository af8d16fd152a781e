import AccessSecurity.Foundation.Program
import AccessSecurity.Foundation.Run

/-!
# Two runs side by side

`Agree R x y` says that `x` and `y`, run from states related by `R`, return the same value or
throw the same exception, and stop in states related by `R`. There is one rule for each
operation. With one program on both sides and `R` the agreement on a part of the state, it
says that the program's outcome depends on this part alone.

`projection_determined` is the corresponding fact about whole runs: when some inputs leave a
view of the state alone, and the effect and output of the others depend on the view alone,
then the outputs and the final view are determined by the latter inputs.
-/

namespace AccessSecurity.Foundation

variable {ε σ τ σ' τ' α β : Type}

def Agree (R : σ → τ → Prop) (x : EStateM ε σ α) (y : EStateM ε τ α) : Prop :=
  ∀ s t, R s t → result x s = result y t ∧ R (after x s) (after y t)

variable {R : σ → τ → Prop}

theorem Agree.returns {x : EStateM ε σ α} {y : EStateM ε τ α} (h : Agree R x y) {s u : σ} {t : τ}
    {a : α} (hst : R s t) (hx : Returns x s a u) : ∃ v, Returns y t a v ∧ R u v := by
  obtain ⟨hresult, hafter⟩ := h s t hst
  obtain rfl := hx.after_eq
  rw [returns_after_iff.mp hx] at hresult
  exact ⟨after y t, returns_after_iff.mpr hresult.symm, hafter⟩

theorem agree_pure (a : α) : Agree R (pure a : EStateM ε σ α) (pure a) :=
  fun _ _ h => ⟨rfl, h⟩

theorem agree_throw (e : ε) : Agree R (throw e : EStateM ε σ α) (throw e) :=
  fun _ _ h => ⟨rfl, h⟩

theorem agree_lift (r : Except ε α) : Agree R (lift r : EStateM ε σ α) (lift r) := by
  cases r with
  | ok a => exact agree_pure a
  | error e => exact agree_throw e

theorem agree_modify {f : σ → σ} {g : τ → τ} (h : ∀ s t, R s t → R (f s) (g t)) :
    Agree R (modify f : EStateM ε σ PUnit) (modify g) :=
  fun s t hst => ⟨rfl, h s t hst⟩

/-- The programs may depend on the states they read, and these are related. -/
theorem agree_get_bind {f : σ → EStateM ε σ α} {g : τ → EStateM ε τ α}
    (h : ∀ s t, R s t → Agree R (f s) (g t)) : Agree R (get >>= f) (get >>= g) :=
  fun s t hst => h s t hst s t hst

/-- The rest runs on a value that the first part can return. -/
theorem agree_bind_returns {x : EStateM ε σ α} {y : EStateM ε τ α} {f : α → EStateM ε σ β}
    {g : α → EStateM ε τ β} (hx : Agree R x y)
    (hf : ∀ a s u, Returns x s a u → Agree R (f a) (g a)) : Agree R (x >>= f) (y >>= g) := by
  intro s t hst
  obtain ⟨hresult, hafter⟩ := hx s t hst
  simp only [result, after, bind, EStateM.bind] at *
  cases hs : x s with
  | ok a u =>
    cases ht : y t with
    | ok b v =>
      rw [hs, ht] at hresult hafter
      obtain rfl : a = b := by simpa using hresult
      exact hf a s u hs u v hafter
    | error e v =>
      rw [hs, ht] at hresult
      simp at hresult
  | error e u =>
    cases ht : y t with
    | ok b v =>
      rw [hs, ht] at hresult
      simp at hresult
    | error e' v =>
      rw [hs, ht] at hresult hafter
      obtain rfl : e = e' := by simpa using hresult
      exact ⟨rfl, hafter⟩

theorem agree_bind {x : EStateM ε σ α} {y : EStateM ε τ α} {f : α → EStateM ε σ β}
    {g : α → EStateM ε τ β} (hx : Agree R x y) (hf : ∀ a, Agree R (f a) (g a)) :
    Agree R (x >>= f) (y >>= g) :=
  agree_bind_returns hx fun a _ _ _ => hf a

/-- Programs that agree on a part of the states agree on the whole of them. -/
theorem agree_zoom {Q : σ' → τ' → Prop} {view : σ → σ'} {put : σ' → σ → σ} {view' : τ → τ'}
    {put' : τ' → τ → τ} (hview : ∀ s t, R s t → Q (view s) (view' t))
    (hput : ∀ u v s t, R s t → Q u v → R (put u s) (put' v t)) {x : EStateM ε σ' α}
    {y : EStateM ε τ' α} (h : Agree Q x y) : Agree R (zoom view put x) (zoom view' put' y) := by
  intro s t hst
  obtain ⟨hresult, hafter⟩ := h _ _ (hview s t hst)
  rw [after_zoom, after_zoom]
  refine ⟨?_, hput _ _ _ _ hst hafter⟩
  unfold result zoom at *
  cases hs : x (view s) <;> cases ht : y (view' t) <;> simp_all

/-- A step that cannot return anything of interest agrees with any other one. -/
theorem agree_of_total {x : EStateM ε σ Unit} {y : EStateM ε τ Unit} (hx : ∀ s, Total x s)
    (hy : ∀ t, Total y t) : Agree (fun _ _ => True) x y := by
  intro s t _
  obtain ⟨_, u, hu⟩ := hx s
  obtain ⟨_, v, hv⟩ := hy t
  refine ⟨?_, trivial⟩
  rw [returns_after_iff.mp (hu.after_eq ▸ hu), returns_after_iff.mp (hv.after_eq ▸ hv)]

/-! ## Runs in lockstep -/

variable {ι ν o : Type} {step : σ → ι → σ} {step' : τ → ι → τ}

/-- What one step on both sides preserves, two runs on the same inputs preserve. -/
theorem run_related (hstep : ∀ s t i, R s t → R (step s i) (step' t i)) {s : σ} {t : τ}
    (h : R s t) (is : List ι) : R (run step s is) (run step' t is) := by
  induction is generalizing s t with
  | nil => exact h
  | cons i is ih => exact ih (hstep s t i h)

/-! ## Runs seen through a view -/

/-- The outputs of a run at the inputs that are selected. -/
def outputs (step : σ → ι → σ) (out : σ → ι → o) (selected : ι → Bool) : σ → List ι → List o
  | _, [] => []
  | s, i :: is =>
    if selected i then out s i :: outputs step out selected (step s i) is
    else outputs step out selected (step s i) is

section

variable {out : σ → ι → o} {selected : ι → Bool} {view : σ → ν} {Q : ι → Prop}
  (hother : ∀ s i, Q i → selected i = false → view (step s i) = view s)
  (hself : ∀ s t i, Q i → selected i = true → view s = view t →
    out s i = out t i ∧ view (step s i) = view (step t i))

include hother hself in
/-- Leaving out the inputs that are not selected changes neither the outputs nor the view. -/
theorem outputs_filter {is : List ι} (hQ : ∀ i ∈ is, Q i) {s t : σ} (hview : view s = view t) :
    outputs step out selected s is = outputs step out selected t (is.filter selected) ∧
      view (run step s is) = view (run step t (is.filter selected)) := by
  induction is generalizing s t with
  | nil => exact ⟨rfl, hview⟩
  | cons i is ih =>
    have hi := hQ i (.head _)
    have hrest := fun j hj => hQ j (List.mem_cons_of_mem i hj)
    cases hsel : selected i with
    | false =>
      have hstep := (hother s i hi hsel).trans hview
      simpa [outputs, hsel] using ih hrest hstep
    | true =>
      obtain ⟨hout, hstep⟩ := hself s t i hi hsel hview
      obtain ⟨hrun, hend⟩ := ih hrest hstep
      simpa [outputs, hsel, hout, hrun] using hend

include hother hself in
/-- Runs with the same selected inputs have the same outputs there and end in the same view. -/
theorem projection_determined {is js : List ι} (his : ∀ i ∈ is, Q i) (hjs : ∀ j ∈ js, Q j)
    (hfilter : is.filter selected = js.filter selected) {s t : σ} (hview : view s = view t) :
    outputs step out selected s is = outputs step out selected t js ∧
      view (run step s is) = view (run step t js) := by
  obtain ⟨hout, hend⟩ := outputs_filter hother hself his hview
  obtain ⟨hout', hend'⟩ := outputs_filter hother hself hjs (rfl : view t = view t)
  rw [hout, hend, hfilter, hout', hend']
  exact ⟨rfl, rfl⟩

end

end AccessSecurity.Foundation
