import Mathlib.Data.Finset.Basic
import Mathlib.Data.List.AList
import AccessSecurity.Storage.AuditLog

/-!
# Access store

`sqlite_access_store.cpp` over its four tables. Each method is one SQL statement: it takes
effect as a whole or, when it throws, not at all. Identifiers and key versions are unsigned
in the program and signed in the tables. The foreign key of `reader_doors` is part of the
tables: no row of it is left when its reader is deleted.
-/

namespace AccessSecurity.Storage

/-- The tables; a primary key is a key of the map, or the whole row of the set. -/
structure AccessDb where
  cards : AList fun _ : Bytes => Bytes
  doorRoles : Finset (Int64 × Bytes)
  readers : AList fun _ : Int64 => Int64
  readerDoors : Finset (Int64 × Int64)
  references : ∀ row ∈ readerDoors, row.1 ∈ readers

/-- The tables that `initSchema` creates. -/
def AccessDb.empty : AccessDb where
  cards := ∅
  doorRoles := ∅
  readers := ∅
  readerDoors := ∅
  references := by simp

/-- `sqlite3_bind_int(.., static_cast<int>(value))` -/
def bindInt (value : UInt32) : Int64 := value.toInt32.toInt64

/-- `sqlite3_column_int` -/
def columnInt (column : Int64) : Int32 := column.toInt32

@[simp] theorem columnInt_bindInt (value : UInt32) : columnInt (bindInt value) = value.toInt32 := by
  simp [columnInt, bindInt]

@[simp] theorem bindInt_inj {v w : UInt32} : bindInt v = bindInt w ↔ v = w := by
  constructor
  · intro h
    simpa using congrArg (fun column => (columnInt column).toUInt32) h
  · rintro rfl
    rfl

theorem ne_zero_of_one_le {keyVersion : UInt32} (h : 1 ≤ keyVersion) : keyVersion ≠ 0 := by
  rintro rfl
  exact absurd h (by decide)

structure ReaderRow where
  readerId : UInt32 := 0
  currentKeyVersion : UInt32 := 0
  deriving DecidableEq, Repr

namespace SqliteAccessStore

/-! ## Cards -/

def upsertCardHmac (cardHmacHex role : Bytes) (db : AccessDb) : AccessDb :=
  { db with cards := db.cards.insert (cString cardHmacHex) (cString role) }

def roleForCardHmac (cardHmacHex : Bytes) (db : AccessDb) : Option Bytes :=
  (db.cards.lookup cardHmacHex).map cString

def deleteCardHmac (cardHmac : Bytes) (db : AccessDb) : AccessDb :=
  { db with cards := db.cards.erase cardHmac }

/-! ## Doors and roles -/

def allowRole (doorId : UInt32) (role : Bytes) (db : AccessDb) : AccessDb :=
  { db with doorRoles := insert (bindInt doorId, cString role) db.doorRoles }

def isAllowed (doorId : UInt32) (role : Bytes) (db : AccessDb) : Bool :=
  decide ((bindInt doorId, role) ∈ db.doorRoles)

def revokeRole (doorId : UInt32) (role : Bytes) (db : AccessDb) : AccessDb :=
  { db with doorRoles := db.doorRoles.erase (bindInt doorId, role) }

/-! ## Readers -/

def upsertReader (readerId currentKeyVersion : UInt32) (db : AccessDb) : AccessDb :=
  { db with
    readers := db.readers.insert (bindInt readerId) (bindInt currentKeyVersion)
    references := fun row hrow => (AList.mem_insert _).mpr (.inr (db.references row hrow)) }

/-- Zero when the reader is not found, or when its column is not positive. -/
def currentKeyVersionForReader (readerId : UInt32) (db : AccessDb) : UInt32 :=
  match db.readers.lookup (bindInt readerId) with
  | some column =>
    let v := columnInt column
    if v ≤ 0 then 0 else v.toUInt32
  | none => 0

/-- `ORDER BY reader_id` is by the signed column. -/
def listReaders (db : AccessDb) : List ReaderRow :=
  (db.readers.entries.mergeSort fun row row' => decide (row.1 ≤ row'.1)).map fun row =>
    { readerId := (columnInt row.1).toUInt32
      currentKeyVersion := (columnInt row.2).toUInt32 }

def deleteReader (readerId : UInt32) (db : AccessDb) : AccessDb :=
  { db with
    readers := db.readers.erase (bindInt readerId)
    readerDoors := db.readerDoors.filter fun row => row.1 ≠ bindInt readerId
    references := by
      intro row hrow
      obtain ⟨hrow, hne⟩ := Finset.mem_filter.mp hrow
      exact AList.mem_erase.mpr ⟨hne, db.references row hrow⟩ }

/-- `INSERT OR IGNORE` does not ignore the foreign key. -/
def allowDoorForReader (readerId doorId : UInt32) (db : AccessDb) : Except Exn AccessDb :=
  if h : bindInt readerId ∈ db.readers then
    .ok { db with
      readerDoors := insert (bindInt readerId, bindInt doorId) db.readerDoors
      references := by
        intro row hrow
        rcases Finset.mem_insert.mp hrow with rfl | hrow
        · exact h
        · exact db.references row hrow }
  else .error ⟨"allowDoorForReader failed"⟩

def isReaderAllowedDoor (readerId doorId : UInt32) (db : AccessDb) : Bool :=
  decide ((bindInt readerId, bindInt doorId) ∈ db.readerDoors)

def revokeDoorForReader (readerId doorId : UInt32) (db : AccessDb) : AccessDb :=
  { db with
    readerDoors := db.readerDoors.erase (bindInt readerId, bindInt doorId)
    references := fun row hrow => db.references row (Finset.mem_of_mem_erase hrow) }

end SqliteAccessStore

/-! ## Operations -/

/-- What the admin services change in the store. -/
inductive StoreOp where
  | upsertCardHmac (cardHmacHex role : Bytes)
  | deleteCardHmac (cardHmac : Bytes)
  | allowRole (doorId : UInt32) (role : Bytes)
  | revokeRole (doorId : UInt32) (role : Bytes)
  | upsertReader (readerId currentKeyVersion : UInt32)
  | deleteReader (readerId : UInt32)
  | allowDoorForReader (readerId doorId : UInt32)
  | revokeDoorForReader (readerId doorId : UInt32)
  deriving DecidableEq, Repr

def StoreOp.exec (db : AccessDb) : StoreOp → Except Exn AccessDb
  | .upsertCardHmac cardHmacHex role => .ok (SqliteAccessStore.upsertCardHmac cardHmacHex role db)
  | .deleteCardHmac cardHmac => .ok (SqliteAccessStore.deleteCardHmac cardHmac db)
  | .allowRole doorId role => .ok (SqliteAccessStore.allowRole doorId role db)
  | .revokeRole doorId role => .ok (SqliteAccessStore.revokeRole doorId role db)
  | .upsertReader readerId keyVersion => .ok (SqliteAccessStore.upsertReader readerId keyVersion db)
  | .deleteReader readerId => .ok (SqliteAccessStore.deleteReader readerId db)
  | .allowDoorForReader readerId doorId => SqliteAccessStore.allowDoorForReader readerId doorId db
  | .revokeDoorForReader readerId doorId =>
    .ok (SqliteAccessStore.revokeDoorForReader readerId doorId db)

/-- The tables after an operation, also when it throws. -/
def StoreOp.step (db : AccessDb) (op : StoreOp) : AccessDb :=
  match op.exec db with
  | .ok db' => db'
  | .error _ => db

/-- The answers that the engine gets from the tables. -/
def AccessDb.answers (db : AccessDb) : AccessStore where
  roleForCardHmac cardHmacHex := SqliteAccessStore.roleForCardHmac cardHmacHex db
  isAllowed doorId role := SqliteAccessStore.isAllowed doorId role db
  currentKeyVersionForReader readerId := SqliteAccessStore.currentKeyVersionForReader readerId db
  isReaderAllowedDoor readerId doorId := SqliteAccessStore.isReaderAllowedDoor readerId doorId db

end AccessSecurity.Storage
