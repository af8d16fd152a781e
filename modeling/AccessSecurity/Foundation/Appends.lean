import AccessSecurity.Foundation.Program

/-!
# Programs that append to a list

A part of the state is an append-only list, such as a log. `Silent view x` says that `x`
leaves what `view` selects alone, and `Appends view Q x` that `x` appends to the list a
part that `Q` relates to the value returned, and nothing when it throws. A program that
throws after it has appended is thereby excluded: what follows an append must return.
`Emits view es x` is only about the runs that return: each has appended `es`.
-/

namespace AccessSecurity.Foundation

variable {ε σ τ ω α β : Type}

/-- The program leaves what `view` selects as it is, whether it returns or throws. -/
def Silent (view : σ → τ) (x : EStateM ε σ α) : Prop := ∀ v, Keeps (fun s => view s = v) x

theorem Silent.after_eq {view : σ → τ} {x : EStateM ε σ α} (hx : Silent view x) (s : σ) :
    view (after x s) = view s := hx (view s) s rfl

theorem Silent.view_eq {view : σ → τ} {x : EStateM ε σ α} (hx : Silent view x) {s t : σ} {a : α}
    (h : Returns x s a t) : view t = view s := by
  rw [← h.after_eq, hx.after_eq]

structure Appends (view : σ → List ω) (Q : α → List ω → Prop) (x : EStateM ε σ α) : Prop where
  returns : ∀ {s a t}, Returns x s a t → ∃ es, Q a es ∧ view t = view s ++ es
  throws : ∀ {s}, ¬ Total x s → view (after x s) = view s

section

variable {view : σ → List ω} {Q : α → List ω → Prop} {R : β → List ω → Prop}
  {x : EStateM ε σ α} {f : α → EStateM ε σ β}

theorem appends_modify {g : σ → σ} {es : List ω} (h : ∀ s, view (g s) = view s ++ es) :
    Appends view (fun _ ds => ds = es) (modify g : EStateM ε σ PUnit) := by
  constructor
  · intro s a t hret
    rw [returns_modify.mp hret]
    exact ⟨es, rfl, h s⟩
  · intro s hthrow
    exact absurd (total_modify g s) hthrow

theorem appends_of_silent (hx : Silent view x) (hQ : ∀ s a t, Returns x s a t → Q a []) :
    Appends view Q x := by
  constructor
  · intro s a t hret
    exact ⟨[], hQ s a t hret, by simp [hx.view_eq hret]⟩
  · intro s _
    exact hx.after_eq s

/-- Before the append a program may throw. -/
theorem appends_bind (hx : Silent view x)
    (hf : ∀ a s t, Returns x s a t → Appends view R (f a)) : Appends view R (x >>= f) := by
  constructor
  · intro s b u hret
    obtain ⟨a, t, ha, hb⟩ := returns_bind.mp hret
    obtain ⟨es, hR, hes⟩ := (hf a s t ha).returns hb
    exact ⟨es, hR, by rw [hes, hx.view_eq ha]⟩
  · intro s hthrow
    by_cases htotal : Total x s
    · obtain ⟨a, t, ha⟩ := htotal
      rw [after_bind_returns ha, ← hx.view_eq ha]
      refine (hf a s t ha).throws fun ⟨b, u, hb⟩ => hthrow ?_
      exact ⟨b, u, returns_bind.mpr ⟨a, t, ha, hb⟩⟩
    · rw [after_bind_throws f htotal, hx.after_eq]

/-- After the append it may not. -/
theorem appends_then (hx : Appends view Q x) (hf : ∀ a, Silent view (f a))
    (htotal : ∀ a t, Total (f a) t)
    (hR : ∀ a es t b u, Q a es → Returns (f a) t b u → R b es) : Appends view R (x >>= f) := by
  constructor
  · intro s b u hret
    obtain ⟨a, t, ha, hb⟩ := returns_bind.mp hret
    obtain ⟨es, hQ, hes⟩ := hx.returns ha
    exact ⟨es, hR a es t b u hQ hb, by rw [(hf a).view_eq hb, hes]⟩
  · intro s hthrow
    have hfirst : ¬ Total x s := fun h => hthrow (total_bind h fun a t _ => htotal a t)
    rw [after_bind_throws f hfirst]
    exact hx.throws hfirst

/-- What a run of the program from `s` has appended when it stops. -/
def appended (view : σ → List ω) (x : EStateM ε σ α) (s : σ) : List ω :=
  (view (after x s)).drop (view s).length

/-- A run that returns has appended a part that fits the value, one that throws nothing. -/
theorem Appends.appended_cases (hx : Appends view Q x) (s : σ) :
    appended view x s = [] ∨ ∃ a t, Returns x s a t ∧ Q a (appended view x s) := by
  unfold appended
  by_cases htotal : Total x s
  · obtain ⟨a, t, ha⟩ := htotal
    obtain ⟨es, hQ, hes⟩ := hx.returns ha
    right
    rw [ha.after_eq, hes, List.drop_left]
    exact ⟨a, t, ha, hQ⟩
  · left
    rw [hx.throws htotal, List.drop_length]

/-- Each run that returns has appended these; a run that throws may have. -/
def Emits (view : σ → List ω) (es : List ω) (x : EStateM ε σ α) : Prop :=
  ∀ ⦃s a t⦄, Returns x s a t → view t = view s ++ es

variable {es : List ω}

theorem emits_modify {g : σ → σ} (h : ∀ s, view (g s) = view s ++ es) :
    Emits view es (modify g : EStateM ε σ PUnit) := by
  intro s a t hret
  rw [returns_modify.mp hret]
  exact h s

theorem emits_bind (hx : Silent view x) (hf : ∀ a, Emits view es (f a)) :
    Emits view es (x >>= f) := by
  intro s b u hret
  obtain ⟨a, t, ha, hb⟩ := returns_bind.mp hret
  rw [hf a hb, hx.view_eq ha]

theorem emits_then (hx : Emits view es x) (hf : ∀ a, Silent view (f a)) :
    Emits view es (x >>= f) := by
  intro s b u hret
  obtain ⟨a, t, ha, hb⟩ := returns_bind.mp hret
  rw [(hf a).view_eq hb, hx ha]

end

end AccessSecurity.Foundation
