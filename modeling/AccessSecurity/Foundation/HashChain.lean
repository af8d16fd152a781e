import Mathlib.Data.List.Basic
import Mathlib.Data.List.Infix

/-!
# Hash chains

An entry stores the hash of its predecessor, a body, and its own hash. `Linked`
says that the stored hashes are the ones a digest function gives, starting from a
given hash. A chain is determined by its last hash (`linked_unique`) as long as the
digest does not collide on the entries of the two chains compared and never
returns the starting hash.
-/

namespace AccessSecurity.Foundation.HashChain

/-- One link: the predecessor's hash, the body, and the entry's own hash. -/
structure Entry (H α : Type*) where
  prev : H
  body : α
  hash : H

variable {H α : Type*} (digest : H → α → H)

/-- Each entry records the hash before it and the digest of that hash with its body. -/
def Linked : H → List (Entry H α) → Prop
  | _, [] => True
  | p, e :: es => e.prev = p ∧ e.hash = digest p e.body ∧ Linked e.hash es

/-- The hash a chain that starts at `p` ends with. -/
def endHash (p : H) (es : List (Entry H α)) : H := (es.getLast?.map Entry.hash).getD p

/-- The entry that appends `a` to a chain ending with `p`. -/
def link (p : H) (a : α) : Entry H α := ⟨p, a, digest p a⟩

@[simp] theorem endHash_nil (p : H) : endHash p ([] : List (Entry H α)) = p := rfl

@[simp] theorem endHash_snoc (p : H) (es : List (Entry H α)) (e : Entry H α) :
    endHash p (es ++ [e]) = e.hash := by
  simp [endHash]

theorem endHash_cons (p : H) (e : Entry H α) (es : List (Entry H α)) :
    endHash p (e :: es) = endHash e.hash es := by
  cases es using List.reverseRecOn with
  | nil => rfl
  | append_singleton es d => rw [← List.cons_append, endHash_snoc, endHash_snoc]

theorem endHash_append (p : H) (es ds : List (Entry H α)) :
    endHash p (es ++ ds) = endHash (endHash p es) ds := by
  induction es generalizing p with
  | nil => rfl
  | cons e es ih => rw [List.cons_append, endHash_cons, ih, endHash_cons]

variable {digest}

theorem linked_append {p : H} {es ds : List (Entry H α)} :
    Linked digest p (es ++ ds) ↔ Linked digest p es ∧ Linked digest (endHash p es) ds := by
  induction es generalizing p with
  | nil => simp [Linked]
  | cons e es ih => simp [Linked, ih, endHash_cons, and_assoc]

theorem linked_snoc {p : H} {es : List (Entry H α)} {e : Entry H α} :
    Linked digest p (es ++ [e]) ↔
      Linked digest p es ∧ e.prev = endHash p es ∧ e.hash = digest (endHash p es) e.body := by
  simp [linked_append, Linked]

theorem Linked.take {p : H} {es : List (Entry H α)} (h : Linked digest p es) (k : Nat) :
    Linked digest p (es.take k) := by
  rw [← List.take_append_drop k es] at h
  exact (linked_append.mp h).1

/-! ## Chains of given bodies -/

variable (digest)

/-- The chain with the given bodies that starts at `p`. -/
def chainOf : H → List α → List (Entry H α)
  | _, [] => []
  | p, a :: as => link digest p a :: chainOf (digest p a) as

variable {digest}

theorem linked_chainOf (p : H) (as : List α) : Linked digest p (chainOf digest p as) := by
  induction as generalizing p with
  | nil => trivial
  | cons a as ih => exact ⟨rfl, rfl, ih _⟩

@[simp] theorem map_body_chainOf (p : H) (as : List α) :
    (chainOf digest p as).map Entry.body = as := by
  induction as generalizing p with
  | nil => rfl
  | cons a as ih => simp [chainOf, link, ih]

@[simp] theorem length_chainOf (p : H) (as : List α) :
    (chainOf digest p as).length = as.length := by
  rw [← List.length_map Entry.body, map_body_chainOf]

theorem chainOf_append (p : H) (as bs : List α) : chainOf digest p (as ++ bs) =
    chainOf digest p as ++ chainOf digest (endHash p (chainOf digest p as)) bs := by
  induction as generalizing p with
  | nil => rfl
  | cons a as ih => simp [chainOf, ih, endHash_cons, link]

theorem chainOf_snoc (p : H) (as : List α) (a : α) : chainOf digest p (as ++ [a]) =
    chainOf digest p as ++ [link digest (endHash p (chainOf digest p as)) a] :=
  chainOf_append p as [a]

theorem body_mem_of_mem_chainOf {p : H} {as : List α} {e : Entry H α}
    (h : e ∈ chainOf digest p as) : e.body ∈ as := by
  have hbody := List.mem_map_of_mem (f := Entry.body) h
  rwa [map_body_chainOf] at hbody

theorem take_chainOf (p : H) (as : List α) (n : Nat) :
    (chainOf digest p as).take n = chainOf digest p (as.take n) := by
  induction as generalizing p n with
  | nil => simp [chainOf]
  | cons a as ih =>
    cases n with
    | zero => rfl
    | succ n => simp [chainOf, ih]

/-- A linked chain is the one of its bodies. -/
theorem Linked.eq_chainOf {p : H} {es : List (Entry H α)} (h : Linked digest p es) :
    es = chainOf digest p (es.map Entry.body) := by
  induction es generalizing p with
  | nil => rfl
  | cons e es ih =>
    obtain ⟨hprev, hhash, hrest⟩ := h
    rw [List.map_cons, chainOf, ← hhash, ← ih hrest, link, ← hhash, ← hprev]

theorem endHash_map_body {β : Type*} (f : α → β) (p : H) (es : List (Entry H α)) :
    endHash p (es.map fun e => (⟨e.prev, f e.body, e.hash⟩ : Entry H β)) = endHash p es := by
  simp only [endHash, List.getLast?_map, Option.map_map]
  rfl

/-- Changing the bodies of a linked chain leaves it linked when no digest changes. -/
theorem linked_map_body {β : Type*} {f : α → β} {digest' : H → β → H} {p : H}
    {es : List (Entry H α)} (h : Linked digest p es) :
    Linked digest' p (es.map fun e => ⟨e.prev, f e.body, e.hash⟩) ↔
      ∀ e ∈ es, digest' e.prev (f e.body) = digest e.prev e.body := by
  induction es generalizing p with
  | nil => simp [Linked]
  | cons e es ih =>
    obtain ⟨rfl, hhash, hrest⟩ := h
    rw [List.map_cons, List.forall_mem_cons, ← ih hrest, ← hhash]
    exact ⟨fun ⟨_, hdigest, htail⟩ => ⟨hdigest.symm, htail⟩,
      fun ⟨hdigest, htail⟩ => ⟨rfl, hdigest.symm, htail⟩⟩

/-! ## Uniqueness -/

/-- Two linked entries with one hash are equal when the digest does not collide on them. -/
private theorem entry_eq {p q : H} {d e : Entry H α}
    (hdp : d.prev = p) (hdh : d.hash = digest p d.body)
    (heq : e.prev = q) (heh : e.hash = digest q e.body)
    (inj : digest d.prev d.body = digest e.prev e.body → d.prev = e.prev ∧ d.body = e.body)
    (h : d.hash = e.hash) : d = e := by
  subst hdp heq
  obtain ⟨hprev, hbody⟩ := inj (by rw [← hdh, ← heh, h])
  cases d
  cases e
  simp_all

/-- A chain is determined by its last hash. The induction runs backwards: equal last
hashes give equal last entries, hence equal hashes one entry earlier; one chain cannot
be a proper suffix of the other because no digest equals the starting hash. -/
theorem linked_unique {p : H} {es ds : List (Entry H α)}
    (hes : Linked digest p es) (hds : Linked digest p ds)
    (inj : ∀ e ∈ es, ∀ d ∈ ds, digest e.prev e.body = digest d.prev d.body →
      e.prev = d.prev ∧ e.body = d.body)
    (fresh : ∀ e, e ∈ es ∨ e ∈ ds → digest e.prev e.body ≠ p)
    (h : endHash p es = endHash p ds) : es = ds := by
  have hash_ne : ∀ {cs : List (Entry H α)} {c : Entry H α},
      Linked digest p (cs ++ [c]) → digest c.prev c.body ≠ p → c.hash ≠ p := by
    intro cs c hc hne
    obtain ⟨-, hprev, hhash⟩ := linked_snoc.mp hc
    rwa [hhash, ← hprev]
  induction es using List.reverseRecOn generalizing ds with
  | nil =>
    cases ds using List.reverseRecOn with
    | nil => rfl
    | append_singleton ds d =>
      exact absurd (by simpa using h.symm) (hash_ne hds (fresh d (by simp)))
  | append_singleton es e ih =>
    cases ds using List.reverseRecOn with
    | nil => exact absurd (by simpa using h) (hash_ne hes (fresh e (by simp)))
    | append_singleton ds d =>
      obtain ⟨hes', hep, heh⟩ := linked_snoc.mp hes
      obtain ⟨hds', hdp, hdh⟩ := linked_snoc.mp hds
      have hed : e = d := entry_eq hep heh hdp hdh
        (inj e (by simp) d (by simp)) (by simpa using h)
      have hend : endHash p es = endHash p ds := by rw [← hep, ← hdp, hed]
      have hrest : es = ds := ih hes' hds'
        (fun x hx y hy => inj x (by simp [hx]) y (by simp [hy]))
        (fun x hx => fresh x (hx.imp (by simp +contextual) (by simp +contextual))) hend
      rw [hed, hrest]

end AccessSecurity.Foundation.HashChain
