import AccessSecurity.Foundation.Listing
import AccessSecurity.Storage.ReaderTables
import AccessSecurity.Storage.RoleTables
import Mathlib.Data.List.Lex
import Mathlib.Data.Prod.Lex

/-!
# Listings of the tables

The queries of `SqliteAccessStore` that list rows. Every column was written from an unsigned
number, or from a text up to its first zero byte (`Written`), so that what is listed is exactly
what is in the tables. Numbers are sorted by their signed columns, texts by their bytes.
-/

namespace AccessSecurity.Storage

open Foundation

structure ReaderDoorRow where
  readerId : UInt32 := 0
  doorId : UInt32 := 0
  deriving DecidableEq, Repr

structure DoorRoleRow where
  doorId : UInt32 := 0
  role : Bytes
  deriving DecidableEq, Repr

structure CardRow where
  cardHmac : Bytes
  role : Bytes
  deriving DecidableEq, Repr

/-! ## Orders -/

/-- The bytes of a text, as `memcmp` compares them. -/
def textOrder : Bytes ↪ List Nat where
  toFun text := text.map UInt8.toNat
  inj' := List.map_injective_iff.mpr fun _ _ => UInt8.toNat_inj.mp

def columnOrder : Int64 ↪ Int where
  toFun := Int64.toInt
  inj' _ _ := Int64.toInt_inj.mp

/-- The order of the column that holds the number. -/
def idOrder (id : UInt32) : Int := id.toInt32.toInt

theorem columnOrder_bindInt (id : UInt32) : columnOrder (bindInt id) = idOrder id :=
  Int32.toInt_toInt64 _

def pairOrder : Int64 × Int64 ↪ Int ×ₗ Int where
  toFun row := toLex (columnOrder row.1, columnOrder row.2)
  inj' _ _ h := by
    obtain ⟨hfst, hsnd⟩ := Prod.mk.inj (toLex.injective h)
    exact Prod.ext (columnOrder.injective hfst) (columnOrder.injective hsnd)

def roleOrder : Int64 × Bytes ↪ Int ×ₗ List Nat where
  toFun row := toLex (columnOrder row.1, textOrder row.2)
  inj' _ _ h := by
    obtain ⟨hfst, hsnd⟩ := Prod.mk.inj (toLex.injective h)
    exact Prod.ext (columnOrder.injective hfst) (textOrder.injective hsnd)

theorem pairOrder_bindInt (reader door : UInt32) :
    pairOrder (bindInt reader, bindInt door) = toLex (idOrder reader, idOrder door) := by
  rw [← columnOrder_bindInt, ← columnOrder_bindInt]
  rfl

theorem roleOrder_bindInt (door : UInt32) (role : Bytes) :
    roleOrder (bindInt door, role) = toLex (idOrder door, textOrder role) := by
  rw [← columnOrder_bindInt]
  rfl

/-! ## Queries -/

namespace SqliteAccessStore

/-- With a reader the rows are sorted by the door; they agree on the reader. -/
def listReaderDoors (readerId : UInt32) (db : AccessDb) : List ReaderDoorRow :=
  let rows := if readerId = 0 then db.readerDoors
    else db.readerDoors.filter (·.1 = bindInt readerId)
  (sortSet pairOrder rows).map fun row =>
    { readerId := (columnInt row.1).toUInt32
      doorId := (columnInt row.2).toUInt32 }

def listDoorRoles (doorId : UInt32) (db : AccessDb) : List DoorRoleRow :=
  let rows := if doorId = 0 then db.doorRoles else db.doorRoles.filter (·.1 = bindInt doorId)
  (sortSet roleOrder rows).map fun row =>
    { doorId := (columnInt row.1).toUInt32
      role := cString row.2 }

/-- `LIMIT ? OFFSET ?` with 64-bit numbers: a negative limit is none, a negative offset zero. -/
def limitOffset64 {α : Type} (limit offset : UInt64) (rows : List α) : List α :=
  let rest := rows.drop offset.toInt64.toNatClampNeg
  if limit.toInt64 < 0 then rest else rest.take limit.toInt64.toNatClampNeg

def listCards (limit offset : UInt64) (db : AccessDb) : List CardRow :=
  (limitOffset64 limit offset (sortList (fun row => textOrder row.1) db.cards.entries)).map
    fun row =>
      { cardHmac := cString row.1
        role := cString row.2 }

end SqliteAccessStore

/-! ## What is in the columns -/

/-- Numbers come from unsigned ones, and texts have no zero byte. -/
structure Written (db : AccessDb) : Prop where
  readerDoors : ∀ row ∈ db.readerDoors, ∃ reader door, row = (bindInt reader, bindInt door)
  doorRoles : ∀ row ∈ db.doorRoles, ∃ door role, row = (bindInt door, cString role)
  cards : ∀ row ∈ db.cards.entries, ∃ card role, row = ⟨cString card, cString role⟩

theorem written_empty : Written .empty where
  readerDoors := by simp [AccessDb.empty]
  doorRoles := by simp [AccessDb.empty]
  cards := by simp [AccessDb.empty]

theorem Written.step {db : AccessDb} (h : Written db) (op : StoreOp) : Written (op.step db) := by
  have hkerase : ∀ card, ∀ row ∈ (db.cards.entries.kerase card),
      ∃ card role, row = ⟨cString card, cString role⟩ := fun card row hrow =>
    h.cards row ((List.kerase_sublist card _).subset hrow)
  cases op with
  | upsertCardHmac card role =>
    refine ⟨h.readerDoors, h.doorRoles, fun row hrow => ?_⟩
    simp only [StoreOp.step, StoreOp.exec, SqliteAccessStore.upsertCardHmac, AList.entries_insert,
      List.mem_cons] at hrow
    rcases hrow with rfl | hrow
    · exact ⟨card, role, rfl⟩
    · exact hkerase _ row hrow
  | deleteCardHmac card => exact ⟨h.readerDoors, h.doorRoles, hkerase card⟩
  | allowRole door role =>
    refine ⟨h.readerDoors, fun row hrow => ?_, h.cards⟩
    rcases Finset.mem_insert.mp hrow with rfl | hrow
    · exact ⟨door, role, rfl⟩
    · exact h.doorRoles row hrow
  | revokeRole door role =>
    exact ⟨h.readerDoors, fun row hrow => h.doorRoles row (Finset.mem_of_mem_erase hrow), h.cards⟩
  | upsertReader reader keyVersion => exact ⟨h.readerDoors, h.doorRoles, h.cards⟩
  | deleteReader reader =>
    exact ⟨fun row hrow => h.readerDoors row (Finset.mem_filter.mp hrow).1, h.doorRoles, h.cards⟩
  | allowDoorForReader reader door =>
    simp only [StoreOp.step, StoreOp.exec, SqliteAccessStore.allowDoorForReader]
    split_ifs with hregistered
    · refine ⟨fun row hrow => ?_, h.doorRoles, h.cards⟩
      rcases Finset.mem_insert.mp hrow with rfl | hrow
      · exact ⟨reader, door, rfl⟩
      · exact h.readerDoors row hrow
    · exact h
  | revokeDoorForReader reader door =>
    exact ⟨fun row hrow => h.readerDoors row (Finset.mem_of_mem_erase hrow), h.doorRoles, h.cards⟩

theorem written_run (ops : List StoreOp) : Written (run StoreOp.step .empty ops) :=
  run_preserves (I := Written) (Q := fun _ => True) (fun _ op _ h => h.step op)
    (fun _ _ => trivial) written_empty

/-! ## What is listed -/

namespace SqliteAccessStore

variable {db : AccessDb} (h : Written db)

include h

theorem lists_listReaderDoors : Lists (fun row => toLex (idOrder row.readerId, idOrder row.doorId))
    (fun row => (bindInt row.readerId, bindInt row.doorId) ∈ db.readerDoors)
    (listReaderDoors 0 db) := by
  have hsorted := lists_sortSet pairOrder db.readerDoors
  refine (hsorted.map ?_).congr ?_
  · intro row hrow
    obtain ⟨reader, door, rfl⟩ := h.readerDoors row ((hsorted.mem_iff row).mp hrow)
    simp [pairOrder_bindInt]
  · rintro ⟨reader, door⟩
    constructor
    · rintro ⟨row, hrow, hshown⟩
      obtain ⟨reader', door', rfl⟩ := h.readerDoors row hrow
      simp only [columnInt_bindInt, UInt32.toUInt32_toInt32, ReaderDoorRow.mk.injEq] at hshown
      obtain ⟨rfl, rfl⟩ := hshown
      exact hrow
    · exact fun hrow => ⟨_, hrow, by simp⟩

theorem lists_listDoorRoles : Lists (fun row => toLex (idOrder row.doorId, textOrder row.role))
    (fun row => (bindInt row.doorId, row.role) ∈ db.doorRoles) (listDoorRoles 0 db) := by
  have hsorted := lists_sortSet roleOrder db.doorRoles
  refine (hsorted.map ?_).congr ?_
  · intro row hrow
    obtain ⟨door, role, rfl⟩ := h.doorRoles row ((hsorted.mem_iff row).mp hrow)
    simp [roleOrder_bindInt, cString_cString]
  · rintro ⟨door, role⟩
    constructor
    · rintro ⟨row, hrow, hshown⟩
      obtain ⟨door', role', rfl⟩ := h.doorRoles row hrow
      simp only [columnInt_bindInt, UInt32.toUInt32_toInt32, cString_cString,
        DoorRoleRow.mk.injEq] at hshown
      obtain ⟨rfl, rfl⟩ := hshown
      exact hrow
    · intro hrow
      obtain ⟨door', role', heq⟩ := h.doorRoles _ hrow
      obtain ⟨-, rfl⟩ := Prod.mk.inj heq
      exact ⟨_, hrow, by simp [cString_cString]⟩

/-- All cards, without a limit. -/
theorem lists_cards : Lists (fun row => textOrder row.cardHmac)
    (fun row => db.cards.lookup row.cardHmac = some row.role)
    ((sortList (fun row => textOrder row.1) db.cards.entries).map fun row =>
      { cardHmac := cString row.1
        role := cString row.2 : CardRow }) := by
  have hkeys : (db.cards.entries.map fun row => textOrder row.1).Nodup := by
    have hnodup : (db.cards.entries.map Sigma.fst).Nodup := db.cards.nodupKeys
    rw [← Function.comp_def textOrder Sigma.fst, ← List.map_map]
    exact hnodup.map textOrder.injective
  have hsorted := lists_sortList hkeys
  refine (hsorted.map ?_).congr ?_
  · intro row hrow
    obtain ⟨card, role, rfl⟩ := h.cards row ((hsorted.mem_iff row).mp hrow)
    simp [cString_cString]
  · rintro ⟨card, role⟩
    constructor
    · rintro ⟨row, hrow, hshown⟩
      obtain ⟨card', role', rfl⟩ := h.cards row hrow
      simp only [cString_cString, CardRow.mk.injEq] at hshown
      obtain ⟨rfl, rfl⟩ := hshown
      exact AList.mem_lookup_iff.mpr hrow
    · intro hlookup
      have hrow := AList.mem_lookup_iff.mp hlookup
      obtain ⟨card', role', heq⟩ := h.cards _ hrow
      obtain ⟨rfl, hrole⟩ := Sigma.mk.inj heq
      obtain rfl := eq_of_heq hrole
      exact ⟨_, hrow, by simp [cString_cString]⟩

omit h in
/-- The rows of `listReaders` come in the order of their identifiers. -/
theorem lists_listReaders (hkeys : ∀ key ∈ db.readers, ∃ reader, key = bindInt reader) :
    Lists (fun row => idOrder row.readerId) (· ∈ listReaders db) (listReaders db) := by
  have hdistinct : (db.readers.entries.map fun row => columnOrder row.1).Nodup := by
    have hnodup : (db.readers.entries.map Sigma.fst).Nodup := db.readers.nodupKeys
    rw [← Function.comp_def columnOrder Sigma.fst, ← List.map_map]
    exact hnodup.map columnOrder.injective
  have hsorted := lists_sortList hdistinct
  have hlist : listReaders db = (sortList (fun row => columnOrder row.1) db.readers.entries).map
      fun row =>
        { readerId := (columnInt row.1).toUInt32
          currentKeyVersion := (columnInt row.2).toUInt32 : ReaderRow } := by
    unfold listReaders sortList
    simp only [Int64.le_iff_toInt_le]
    rfl
  rw [hlist]
  refine (hsorted.map ?_).congr ?_
  · rintro ⟨key, column⟩ hrow
    have hmem := List.mem_keys_of_mem ((hsorted.mem_iff _).mp hrow)
    obtain ⟨reader, rfl⟩ := hkeys key (AList.mem_keys.mpr hmem)
    simp [columnOrder_bindInt]
  · intro row
    simp only [List.mem_map, hsorted.mem_iff]

end SqliteAccessStore

end AccessSecurity.Storage
