import Mathlib.Data.Option.Basic

/-!
# Transactions of one connection

A connection has at most one transaction. While it is open, every statement belongs to it,
whoever issues it; the database as it was is kept, and it is what a `rollback` returns to and
what is durable until a `commit`. A part of the database that no statement of the transaction
has changed is not affected by how the transaction ends (`Untouched`).
-/

namespace AccessSecurity.Foundation

/-- What statements see, and the database before the open transaction. -/
structure Connection (D : Type*) where
  db : D
  saved : Option D := none

namespace Connection

variable {D P : Type*} {c c' : Connection D}

/-- What is left when the connection is closed. -/
def durable (c : Connection D) : D := c.saved.getD c.db

def exec (c : Connection D) (f : D → D) : Connection D := { c with db := f c.db }

/-- There is no transaction within a transaction. -/
def begin (c : Connection D) : Option (Connection D) :=
  match c.saved with
  | none => some ⟨c.db, some c.db⟩
  | some _ => none

def commit (c : Connection D) : Option (Connection D) := c.saved.map fun _ => ⟨c.db, none⟩

def rollback (c : Connection D) : Option (Connection D) := c.saved.map fun d => ⟨d, none⟩

theorem begin_eq_some : c.begin = some c' ↔ c.saved = none ∧ c' = ⟨c.db, some c.db⟩ := by
  unfold begin
  cases c.saved with
  | none => simp [eq_comm]
  | some d => simp

theorem commit_eq_some : c.commit = some c' ↔ c.saved.isSome = true ∧ c' = ⟨c.db, none⟩ := by
  unfold commit
  cases c.saved with
  | none => simp
  | some d => simp [eq_comm]

theorem rollback_eq_some : c.rollback = some c' ↔ ∃ d, c.saved = some d ∧ c' = ⟨d, none⟩ := by
  unfold rollback
  cases c.saved with
  | none => simp
  | some d => simp [eq_comm]

theorem durable_of_closed (h : c.saved = none) : c.durable = c.db := by
  simp [durable, h]

theorem durable_begin (h : c.begin = some c') : c'.durable = c.durable := by
  obtain ⟨hsaved, rfl⟩ := begin_eq_some.mp h
  simp [durable, hsaved]

theorem durable_commit (h : c.commit = some c') : c'.durable = c.db := by
  obtain ⟨-, rfl⟩ := commit_eq_some.mp h
  rfl

theorem durable_rollback (h : c.rollback = some c') : c'.durable = c.durable := by
  obtain ⟨d, hsaved, rfl⟩ := rollback_eq_some.mp h
  simp [durable, hsaved]

theorem durable_exec_of_open {d : D} (h : c.saved = some d) (f : D → D) :
    (c.exec f).durable = c.durable := by
  simp [durable, exec, h]

/-- A part of the database that the statement does not change stays what it was. -/
theorem view_durable_exec {view : D → P} {f : D → D} (h : ∀ d, view (f d) = view d) :
    view (c.exec f).durable = view c.durable := by
  unfold durable exec
  cases c.saved with
  | none => exact h _
  | some d => rfl

/-- The open transaction, if there is one, has not changed what `view` selects. -/
def Untouched (view : D → P) (c : Connection D) : Prop := view c.durable = view c.db

variable {view : D → P}

theorem untouched_of_closed (h : c.saved = none) : Untouched view c := by
  unfold Untouched
  rw [durable_of_closed h]

theorem Untouched.rollback (h : Untouched view c) (hrollback : c.rollback = some c') :
    view c'.db = view c.db := by
  obtain ⟨d, hsaved, rfl⟩ := rollback_eq_some.mp hrollback
  simpa [Untouched, durable, hsaved] using h

theorem Untouched.exec (h : Untouched view c) {f : D → D} (hf : ∀ d, view (f d) = view d) :
    Untouched view (c.exec f) := by
  unfold Untouched
  rw [view_durable_exec hf, h]
  exact (hf _).symm

end Connection

end AccessSecurity.Foundation
