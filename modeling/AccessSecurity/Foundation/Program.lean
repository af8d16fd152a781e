import Mathlib.Logic.Basic

/-!
# Programs that return or throw

A program over a state either returns a value or throws, and keeps the changes it made
to the state in both cases (`EStateM` without rollback). `Returns x s a t` says that `x`
run from `s` returns `a` in state `t`. The rules below take a program apart one
operation at a time, in both directions; `zoom` runs a program on a part of a larger
state. `Keeps P x` says that `x` preserves `P` whether it returns or throws.
-/

namespace AccessSecurity.Foundation

variable {ε σ τ α β : Type}

def Returns (x : EStateM ε σ α) (s : σ) (a : α) (t : σ) : Prop := x s = .ok a t

/-- A program is a function: what it returns is determined by the state. -/
theorem Returns.unique {x : EStateM ε σ α} {s t u : σ} {a b : α} (h : Returns x s a t)
    (h' : Returns x s b u) : a = b ∧ t = u := by
  have := h.symm.trans h'
  simpa using this

@[simp] theorem returns_pure {s t : σ} {a b : α} :
    Returns (pure a : EStateM ε σ α) s b t ↔ b = a ∧ t = s := by
  simp [Returns, pure, EStateM.pure, eq_comm]

@[simp] theorem returns_bind {x : EStateM ε σ α} {f : α → EStateM ε σ β} {s t : σ} {b : β} :
    Returns (x >>= f) s b t ↔ ∃ a u, Returns x s a u ∧ Returns (f a) u b t := by
  simp only [Returns, bind, EStateM.bind]
  cases x s with
  | ok a u =>
    constructor
    · intro h
      exact ⟨a, u, rfl, h⟩
    · rintro ⟨_, _, heq, h⟩
      cases heq
      exact h
  | error e u => simp

@[simp] theorem returns_map {x : EStateM ε σ α} {f : α → β} {s t : σ} {b : β} :
    Returns (f <$> x) s b t ↔ ∃ a, Returns x s a t ∧ b = f a := by
  rw [map_eq_pure_bind, returns_bind]
  constructor
  · rintro ⟨a, u, hx, hb⟩
    obtain ⟨rfl, rfl⟩ := returns_pure.mp hb
    exact ⟨a, hx, rfl⟩
  · rintro ⟨a, hx, rfl⟩
    exact ⟨a, t, hx, returns_pure.mpr ⟨rfl, rfl⟩⟩

@[simp] theorem returns_get {s t a : σ} :
    Returns (get : EStateM ε σ σ) s a t ↔ a = s ∧ t = s := by
  change (EStateM.Result.ok s s : EStateM.Result ε σ σ) = .ok a t ↔ _
  simp [eq_comm]

@[simp] theorem returns_modify {f : σ → σ} {s t : σ} {a : PUnit} :
    Returns (modify f : EStateM ε σ PUnit) s a t ↔ t = f s := by
  change (EStateM.Result.ok ⟨⟩ (f s) : EStateM.Result ε σ PUnit) = .ok a t ↔ _
  simp [eq_comm]

@[simp] theorem not_returns_throw {e : ε} {s t : σ} {a : α} :
    ¬ Returns (throw e : EStateM ε σ α) s a t := by
  change ¬ (EStateM.Result.error e s : EStateM.Result ε σ α) = .ok a t
  simp

theorem except_bind_ok {x : Except ε α} {f : α → Except ε β} {b : β} :
    (x >>= f) = .ok b ↔ ∃ a, x = .ok a ∧ f a = .ok b := by
  cases x with
  | error e => simp [bind, Except.bind]
  | ok a => simp [bind, Except.bind]

theorem except_map_ok {x : Except ε α} {f : α → β} {b : β} :
    f <$> x = .ok b ↔ ∃ a, x = .ok a ∧ f a = b := by
  cases x <;> simp [Functor.map, Except.map]

theorem except_pure_ok {a b : α} : (pure a : Except ε α) = .ok b ↔ b = a := by
  simp [pure, Except.pure, eq_comm]

/-- A computation that may fail, inside a program. -/
def lift (r : Except ε α) : EStateM ε σ α :=
  match r with
  | .ok a => pure a
  | .error e => throw e

@[simp] theorem returns_lift {r : Except ε α} {s t : σ} {a : α} :
    Returns (lift r : EStateM ε σ α) s a t ↔ r = .ok a ∧ t = s := by
  cases r with
  | ok b => simp [lift, eq_comm]
  | error e => simp [lift]

/-- Run a program on the part of the state that `view` selects and `put` replaces. -/
def zoom (view : σ → τ) (put : τ → σ → σ) (x : EStateM ε τ α) : EStateM ε σ α := fun s =>
  match x (view s) with
  | .ok a t => .ok a (put t s)
  | .error e t => .error e (put t s)

@[simp] theorem returns_zoom {view : σ → τ} {put : τ → σ → σ} {x : EStateM ε τ α} {s t : σ}
    {a : α} : Returns (zoom view put x) s a t ↔ ∃ u, Returns x (view s) a u ∧ t = put u s := by
  simp only [Returns, zoom]
  cases x (view s) with
  | ok b u =>
    constructor
    · intro h
      cases h
      exact ⟨u, rfl, rfl⟩
    · rintro ⟨_, heq, rfl⟩
      cases heq
      rfl
  | error e u => simp

/-- A part of the state that is selected and replaced as a whole. -/
theorem zoom_bind {view : σ → τ} {put : τ → σ → σ} (hview : ∀ t s, view (put t s) = t)
    (hput : ∀ t u s, put u (put t s) = put u s) (x : EStateM ε τ α) (f : α → EStateM ε τ β) :
    zoom view put (x >>= f) = zoom view put x >>= fun a => zoom view put (f a) := by
  funext s
  simp only [zoom, bind, EStateM.bind]
  cases x (view s) with
  | ok a t =>
    simp only [hview]
    cases f a t with
    | ok b u => simp [hput]
    | error e u => simp [hput]
  | error e t => rfl

/-- Turn an exception into a value. -/
def recover (f : ε → α) (x : EStateM ε σ α) : EStateM ε σ α := fun s =>
  match x s with
  | .ok a t => .ok a t
  | .error e t => .ok (f e) t

/-- The second part runs when the first one reports success; a reported error is returned. -/
def ifOk {κ : Type} (x : EStateM ε σ (Except κ Unit)) (y : EStateM ε σ (Except κ α)) :
    EStateM ε σ (Except κ α) := do
  match ← x with
  | .ok () => y
  | .error e => return .error e

theorem returns_ifOk {κ : Type} {x : EStateM ε σ (Except κ Unit)} {y : EStateM ε σ (Except κ α)}
    {s t : σ} {r : Except κ α} : Returns (ifOk x y) s r t ↔
      (∃ u, Returns x s (.ok ()) u ∧ Returns y u r t) ∨
        ∃ e, Returns x s (.error e) t ∧ r = .error e := by
  unfold ifOk
  rw [returns_bind]
  constructor
  · rintro ⟨verdict, u, hx, hrest⟩
    cases verdict with
    | ok _ => exact .inl ⟨u, hx, hrest⟩
    | error e =>
      obtain ⟨rfl, rfl⟩ := returns_pure.mp hrest
      exact .inr ⟨e, hx, rfl⟩
  · rintro (⟨u, hx, hy⟩ | ⟨e, hx, rfl⟩)
    · exact ⟨_, u, hx, hy⟩
    · exact ⟨_, t, hx, returns_pure.mpr ⟨rfl, rfl⟩⟩

/-! ## Programs that do not throw -/

/-- Run from `s`, the program returns. -/
def Total (x : EStateM ε σ α) (s : σ) : Prop := ∃ a t, Returns x s a t

theorem total_pure (a : α) (s : σ) : Total (pure a : EStateM ε σ α) s :=
  ⟨a, s, returns_pure.mpr ⟨rfl, rfl⟩⟩

theorem total_modify (f : σ → σ) (s : σ) : Total (modify f : EStateM ε σ PUnit) s :=
  ⟨⟨⟩, f s, returns_modify.mpr rfl⟩

theorem total_get (s : σ) : Total (get : EStateM ε σ σ) s :=
  ⟨s, s, returns_get.mpr ⟨rfl, rfl⟩⟩

theorem total_lift {r : Except ε α} {a : α} (h : r = .ok a) (s : σ) :
    Total (lift r : EStateM ε σ α) s :=
  ⟨a, s, returns_lift.mpr ⟨h, rfl⟩⟩

theorem total_bind {x : EStateM ε σ α} {f : α → EStateM ε σ β} {s : σ} (hx : Total x s)
    (hf : ∀ a t, Returns x s a t → Total (f a) t) : Total (x >>= f) s := by
  obtain ⟨a, t, h⟩ := hx
  obtain ⟨b, u, h'⟩ := hf a t h
  exact ⟨b, u, returns_bind.mpr ⟨a, t, h, h'⟩⟩

theorem total_zoom {view : σ → τ} {put : τ → σ → σ} {x : EStateM ε τ α} {s : σ}
    (h : Total x (view s)) : Total (zoom view put x) s := by
  obtain ⟨a, t, h⟩ := h
  exact ⟨a, put t s, returns_zoom.mpr ⟨t, h, rfl⟩⟩

/-- Where the program returns, recovering from exceptions changes nothing. -/
theorem returns_recover {f : ε → α} {x : EStateM ε σ α} {s : σ} (hx : Total x s) {t : σ} {a : α} :
    Returns (recover f x) s a t ↔ Returns x s a t := by
  obtain ⟨b, u, h⟩ := hx
  unfold Returns at *
  simp [recover, h]

/-! ## Programs that throw -/

/-- Run from `s`, the program throws `e` and leaves the state `t`. -/
def Throws (x : EStateM ε σ α) (s : σ) (e : ε) (t : σ) : Prop := x s = .error e t

@[simp] theorem not_throws_get {s t : σ} {e : ε} : ¬ Throws (get : EStateM ε σ σ) s e t := by
  change ¬ (EStateM.Result.ok s s : EStateM.Result ε σ σ) = .error e t
  simp

@[simp] theorem throws_throw {e e' : ε} {s t : σ} :
    Throws (throw e : EStateM ε σ α) s e' t ↔ e' = e ∧ t = s := by
  change (EStateM.Result.error e s : EStateM.Result ε σ α) = .error e' t ↔ _
  simp [eq_comm]

theorem throws_lift {r : Except ε α} {s t : σ} {e : ε} :
    Throws (lift r : EStateM ε σ α) s e t ↔ r = .error e ∧ t = s := by
  cases r with
  | ok a =>
    change (EStateM.Result.ok a s : EStateM.Result ε σ α) = .error e t ↔ _
    simp
  | error e' => simp [lift, eq_comm]

theorem throws_bind {x : EStateM ε σ α} {f : α → EStateM ε σ β} {s t : σ} {e : ε} :
    Throws (x >>= f) s e t ↔ Throws x s e t ∨ ∃ a u, Returns x s a u ∧ Throws (f a) u e t := by
  simp only [Throws, Returns, bind, EStateM.bind]
  cases x s with
  | ok a u =>
    constructor
    · intro h
      exact .inr ⟨a, u, rfl, h⟩
    · rintro (h | ⟨_, _, heq, h⟩)
      · cases h
      · cases heq
        exact h
  | error e' u => simp

theorem Throws.recover {x : EStateM ε σ α} {s t : σ} {e : ε} (h : Throws x s e t) (f : ε → α) :
    Returns (recover f x) s (f e) t := by
  unfold Throws at h
  simp [Returns, Foundation.recover, h]

/-- A value that the program returns is not replaced. -/
theorem Returns.recover {x : EStateM ε σ α} {s t : σ} {a : α} (h : Returns x s a t) (f : ε → α) :
    Returns (recover f x) s a t :=
  (returns_recover ⟨a, t, h⟩).mpr h

/-! ## What a program preserves -/

/-- The state a program stops in, by returning or by throwing. -/
def after (x : EStateM ε σ α) (s : σ) : σ :=
  match x s with
  | .ok _ t => t
  | .error _ t => t

theorem Returns.after_eq {x : EStateM ε σ α} {s t : σ} {a : α} (h : Returns x s a t) :
    after x s = t := by
  unfold Returns at h
  simp [after, h]

theorem Throws.after_eq {x : EStateM ε σ α} {s t : σ} {e : ε} (h : Throws x s e t) :
    after x s = t := by
  unfold Throws at h
  simp [after, h]

/-- What a program returns or throws, without the state. -/
def result (x : EStateM ε σ α) (s : σ) : Except ε α :=
  match x s with
  | .ok a _ => .ok a
  | .error e _ => .error e

theorem returns_after_iff {x : EStateM ε σ α} {s : σ} {a : α} :
    Returns x s a (after x s) ↔ result x s = .ok a := by
  unfold Returns result after
  cases x s <;> simp

theorem Returns.result_eq {x : EStateM ε σ α} {s t : σ} {a : α} (h : Returns x s a t) :
    result x s = .ok a := by
  rw [result, show x s = .ok a t from h]

@[simp] theorem after_pure (a : α) (s : σ) : after (pure a : EStateM ε σ α) s = s := rfl

@[simp] theorem result_pure (a : α) (s : σ) : result (pure a : EStateM ε σ α) s = .ok a := rfl

theorem result_lift (r : Except ε α) (s : σ) : result (lift r) s = r := by
  cases r <;> rfl

@[simp] theorem after_recover (f : ε → α) (x : EStateM ε σ α) (s : σ) :
    after (recover f x) s = after x s := by
  unfold after recover
  cases x s <;> rfl

/-- An exception becomes the value; nothing else changes. -/
theorem result_recover (f : ε → α) (x : EStateM ε σ α) (s : σ) :
    result (recover f x) s = .ok (match result x s with | .ok a => a | .error e => f e) := by
  unfold result recover
  cases x s <;> rfl

@[simp] theorem after_bind_pure (x : EStateM ε σ α) (f : α → β) (s : σ) :
    after (x >>= fun a => pure (f a)) s = after x s := by
  simp only [after, bind, EStateM.bind]
  cases x s <;> rfl

theorem after_bind_returns {x : EStateM ε σ α} {f : α → EStateM ε σ β} {s t : σ} {a : α}
    (h : Returns x s a t) : after (x >>= f) s = after (f a) t := by
  unfold Returns at h
  simp [after, bind, EStateM.bind, h]

/-- Where the first part throws, the rest does not run. -/
theorem after_bind_throws {x : EStateM ε σ α} (f : α → EStateM ε σ β) {s : σ}
    (h : ¬ Total x s) : after (x >>= f) s = after x s := by
  simp only [after, bind, EStateM.bind]
  cases hrun : x s with
  | ok a t => exact absurd ⟨a, t, hrun⟩ h
  | error e t => rfl

theorem after_zoom (view : σ → τ) (put : τ → σ → σ) (x : EStateM ε τ α) (s : σ) :
    after (zoom view put x) s = put (after x (view s)) s := by
  unfold after zoom
  cases x (view s) <;> rfl

theorem after_bind {x : EStateM ε σ α} {f : α → EStateM ε σ β} (s : σ) :
    after (x >>= f) s = after x s ∨
      ∃ a t, Returns x s a t ∧ after (x >>= f) s = after (f a) t := by
  simp only [after, Returns, bind, EStateM.bind]
  cases x s with
  | ok a t => exact .inr ⟨a, t, rfl, rfl⟩
  | error e t => exact .inl rfl

theorem after_bind_eq (x : EStateM ε σ α) (f : α → EStateM ε σ β) (s : σ) :
    after (x >>= f) s =
      match result x s with
      | .ok a => after (f a) (after x s)
      | .error _ => after x s := by
  simp only [after, result, bind, EStateM.bind]
  cases x s <;> rfl

theorem result_bind_eq (x : EStateM ε σ α) (f : α → EStateM ε σ β) (s : σ) :
    result (x >>= f) s =
      match result x s with
      | .ok a => result (f a) (after x s)
      | .error e => .error e := by
  simp only [after, result, bind, EStateM.bind]
  cases x s <;> rfl

/-- A program stops in a state with `P` if its first part does, and if from what that part
returns the rest does. -/
theorem after_bind_of {P : σ → Prop} {x : EStateM ε σ α} {f : α → EStateM ε σ β} {s : σ}
    (hx : P (after x s)) (hf : ∀ a t, Returns x s a t → P (after (f a) t)) :
    P (after (x >>= f) s) := by
  obtain h | ⟨a, t, hret, h⟩ := after_bind (x := x) (f := f) s
  · rwa [h]
  · rw [h]
    exact hf a t hret

/-- Run from a state with `P`, the program stops in one. -/
def Keeps (P : σ → Prop) (x : EStateM ε σ α) : Prop := ∀ s, P s → P (after x s)

variable {P : σ → Prop}

theorem keeps_pure (a : α) : Keeps P (pure a : EStateM ε σ α) := by
  intro s hs
  exact hs

theorem keeps_throw (e : ε) : Keeps P (throw e : EStateM ε σ α) := by
  intro s hs
  exact hs

theorem keeps_lift (r : Except ε α) : Keeps P (lift r : EStateM ε σ α) := by
  cases r with
  | ok a => exact keeps_pure a
  | error e => exact keeps_throw e

theorem keeps_get : Keeps P (get : EStateM ε σ σ) := by
  intro s hs
  exact hs

theorem keeps_modify {f : σ → σ} (h : ∀ s, P s → P (f s)) :
    Keeps P (modify f : EStateM ε σ PUnit) := by
  intro s hs
  exact h s hs

/-- The rest runs on a value that the first part can return. -/
theorem keeps_bind_returns {x : EStateM ε σ α} {f : α → EStateM ε σ β} (hx : Keeps P x)
    (hf : ∀ a s t, Returns x s a t → Keeps P (f a)) : Keeps P (x >>= f) := by
  intro s hs
  refine after_bind_of (hx s hs) fun a t hret => ?_
  apply hf a s t hret
  exact hret.after_eq ▸ hx s hs

theorem keeps_bind {x : EStateM ε σ α} {f : α → EStateM ε σ β} (hx : Keeps P x)
    (hf : ∀ a, Keeps P (f a)) : Keeps P (x >>= f) :=
  keeps_bind_returns hx fun a _ _ _ => hf a

/-- The program may depend on the state it reads, and that state has `P`. -/
theorem keeps_get_bind {f : σ → EStateM ε σ α} (hf : ∀ s, P s → Keeps P (f s)) :
    Keeps P (get >>= f) := by
  intro s hs
  exact hf s hs s hs

theorem keeps_zoom_of {view : σ → τ} {put : τ → σ → σ} {Q : τ → Prop}
    (hview : ∀ s, P s → Q (view s)) (hput : ∀ u s, P s → Q u → P (put u s)) {x : EStateM ε τ α}
    (hx : Keeps Q x) : Keeps P (zoom view put x) := by
  intro s hs
  have hQ := hx (view s) (hview s hs)
  unfold after at hQ
  unfold after zoom
  cases hrun : x (view s) with
  | ok a u => exact hput u s hs (by simpa [hrun] using hQ)
  | error e u => exact hput u s hs (by simpa [hrun] using hQ)

/-- What the program works on does not matter for `P`. -/
theorem keeps_zoom {view : σ → τ} {put : τ → σ → σ} (h : ∀ u s, P s → P (put u s))
    (x : EStateM ε τ α) : Keeps P (zoom view put x) :=
  keeps_zoom_of (Q := fun _ => True) (fun _ _ => trivial) (fun u s hs _ => h u s hs)
    fun _ _ => trivial

theorem keeps_recover (f : ε → α) {x : EStateM ε σ α} (hx : Keeps P x) :
    Keeps P (recover f x) := by
  intro s hs
  rw [after_recover]
  exact hx s hs

/-- What is said of the value, if there is one, can be tested. -/
instance decidableOk (r : Except ε α) (p : α → Prop) [DecidablePred p] :
    Decidable (∀ a, r = .ok a → p a) :=
  match r with
  | .error _ => .isTrue nofun
  | .ok a => decidable_of_iff (p a) ⟨fun h _ hb => Except.ok.inj hb ▸ h, fun h => h a rfl⟩

end AccessSecurity.Foundation
