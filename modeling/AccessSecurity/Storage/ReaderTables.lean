import Mathlib.Data.Set.Insert
import AccessSecurity.Foundation.Since
import AccessSecurity.Storage.AccessStore

/-!
# Reader tables

What the tables of readers and their doors are for, as a map with a set of bindings
(`ReaderMap`), and that the store's tables represent it after any sequence of operations
(`represents_run`). The answers of the store are those of the map except for key versions
from 2^31 on: these are negative in the table, and one of the two functions that read them
turns a negative version into zero (`readers_answer_iff`).
-/

namespace AccessSecurity.Storage

open Foundation SqliteAccessStore

/-! ## Reference model -/

/-- The version of each registered reader, and the doors bound to registered readers. -/
structure ReaderMap where
  version : UInt32 → Option UInt32
  doors : Set (UInt32 × UInt32)
  registered : ∀ binding ∈ doors, version binding.1 ≠ none

namespace ReaderMap

def empty : ReaderMap where
  version _ := none
  doors := ∅
  registered := by simp

def upsertReader (m : ReaderMap) (reader keyVersion : UInt32) : ReaderMap where
  version := Function.update m.version reader (some keyVersion)
  doors := m.doors
  registered := by
    intro binding hbinding
    by_cases h : binding.1 = reader
    · simp [h]
    · simpa [h] using m.registered binding hbinding

def deleteReader (m : ReaderMap) (reader : UInt32) : ReaderMap where
  version := Function.update m.version reader none
  doors := {binding ∈ m.doors | binding.1 ≠ reader}
  registered := by
    rintro binding ⟨hbinding, hne⟩
    simpa [hne] using m.registered binding hbinding

/-- Only a registered reader can be bound to a door. -/
def allowDoor (m : ReaderMap) (reader door : UInt32) : Option ReaderMap :=
  if h : m.version reader = none then none
  else some {
    version := m.version
    doors := insert (reader, door) m.doors
    registered := by
      rintro binding (rfl | hbinding)
      · exact h
      · exact m.registered binding hbinding }

def revokeDoor (m : ReaderMap) (reader door : UInt32) : ReaderMap where
  version := m.version
  doors := m.doors \ {(reader, door)}
  registered := fun binding hbinding => m.registered binding hbinding.1

/-- The map after an operation; `none` when it is refused. -/
def apply (m : ReaderMap) : StoreOp → Option ReaderMap
  | .upsertReader reader keyVersion => some (m.upsertReader reader keyVersion)
  | .deleteReader reader => some (m.deleteReader reader)
  | .allowDoorForReader reader door => m.allowDoor reader door
  | .revokeDoorForReader reader door => some (m.revokeDoor reader door)
  | _ => some m

def step (m : ReaderMap) (op : StoreOp) : ReaderMap := (m.apply op).getD m

end ReaderMap

/-! ## The tables represent the map -/

structure Represents (db : AccessDb) (m : ReaderMap) : Prop where
  readers : ∀ reader, db.readers.lookup (bindInt reader) = (m.version reader).map bindInt
  keys : ∀ key ∈ db.readers, ∃ reader, key = bindInt reader
  doors : ∀ reader door,
    (bindInt reader, bindInt door) ∈ db.readerDoors ↔ (reader, door) ∈ m.doors

theorem represents_empty : Represents .empty .empty where
  readers _ := rfl
  keys _ hkey := absurd hkey (AList.notMem_empty _)
  doors reader door := by simp [AccessDb.empty, ReaderMap.empty]

theorem Represents.mem_readers {db : AccessDb} {m : ReaderMap} (h : Represents db m)
    (reader : UInt32) : bindInt reader ∈ db.readers ↔ m.version reader ≠ none := by
  rw [← AList.lookup_isSome, h.readers, Option.isSome_map, Option.isSome_iff_ne_none]

theorem Represents.upsertReader {db : AccessDb} {m : ReaderMap} (h : Represents db m)
    (reader keyVersion : UInt32) :
    Represents (SqliteAccessStore.upsertReader reader keyVersion db)
      (m.upsertReader reader keyVersion) where
  readers r := by
    by_cases hr : r = reader
    · subst hr
      simp [SqliteAccessStore.upsertReader, ReaderMap.upsertReader]
    · have hne : bindInt r ≠ bindInt reader := by simpa using hr
      simp [SqliteAccessStore.upsertReader, ReaderMap.upsertReader, AList.lookup_insert_ne hne, hr,
        h.readers r]
  keys key hkey := by
    rcases (AList.mem_insert _).mp hkey with rfl | hkey
    · exact ⟨reader, rfl⟩
    · exact h.keys key hkey
  doors := h.doors

theorem Represents.deleteReader {db : AccessDb} {m : ReaderMap} (h : Represents db m)
    (reader : UInt32) :
    Represents (SqliteAccessStore.deleteReader reader db) (m.deleteReader reader) where
  readers r := by
    by_cases hr : r = reader
    · subst hr
      simp [SqliteAccessStore.deleteReader, ReaderMap.deleteReader]
    · have hne : bindInt r ≠ bindInt reader := by simpa using hr
      simp [SqliteAccessStore.deleteReader, ReaderMap.deleteReader, AList.lookup_erase_ne hne, hr,
        h.readers r]
  keys key hkey := h.keys key (AList.mem_erase.mp hkey).2
  doors r d := by
    simp [SqliteAccessStore.deleteReader, ReaderMap.deleteReader, h.doors]

theorem Represents.revokeDoor {db : AccessDb} {m : ReaderMap} (h : Represents db m)
    (reader door : UInt32) :
    Represents (revokeDoorForReader reader door db) (m.revokeDoor reader door) where
  readers := h.readers
  keys := h.keys
  doors r d := by
    simp [revokeDoorForReader, ReaderMap.revokeDoor, h.doors, and_comm]

/-- The foreign key refuses a binding exactly when the map does. -/
theorem Represents.allowDoor {db : AccessDb} {m : ReaderMap} (h : Represents db m)
    (reader door : UInt32) :
    (m.allowDoor reader door = none ∧
        allowDoorForReader reader door db = .error ⟨"allowDoorForReader failed"⟩) ∨
      ∃ db' m', allowDoorForReader reader door db = .ok db' ∧ m.allowDoor reader door = some m' ∧
        Represents db' m' := by
  unfold allowDoorForReader ReaderMap.allowDoor
  by_cases hreader : m.version reader = none
  · left
    have hmem : bindInt reader ∉ db.readers := by simpa [h.mem_readers] using hreader
    exact ⟨dif_pos hreader, dif_neg hmem⟩
  · right
    have hmem : bindInt reader ∈ db.readers := (h.mem_readers reader).mpr hreader
    refine ⟨_, _, dif_pos hmem, dif_neg hreader, ⟨h.readers, h.keys, fun r d => ?_⟩⟩
    simp [h.doors]

/-- An operation succeeds on the tables exactly when the map accepts it. -/
theorem Represents.step {db : AccessDb} {m : ReaderMap} (h : Represents db m) (op : StoreOp) :
    ((∃ db', op.exec db = .ok db') ↔ m.apply op ≠ none) ∧ Represents (op.step db) (m.step op) := by
  cases op with
  | upsertCardHmac cardHmacHex role =>
    exact ⟨by simp [StoreOp.exec, ReaderMap.apply], h.readers, h.keys, h.doors⟩
  | deleteCardHmac cardHmac =>
    exact ⟨by simp [StoreOp.exec, ReaderMap.apply], h.readers, h.keys, h.doors⟩
  | allowRole doorId role =>
    exact ⟨by simp [StoreOp.exec, ReaderMap.apply], h.readers, h.keys, h.doors⟩
  | revokeRole doorId role =>
    exact ⟨by simp [StoreOp.exec, ReaderMap.apply], h.readers, h.keys, h.doors⟩
  | upsertReader reader keyVersion =>
    exact ⟨by simp [StoreOp.exec, ReaderMap.apply], h.upsertReader reader keyVersion⟩
  | deleteReader reader =>
    exact ⟨by simp [StoreOp.exec, ReaderMap.apply], h.deleteReader reader⟩
  | revokeDoorForReader reader door =>
    exact ⟨by simp [StoreOp.exec, ReaderMap.apply], h.revokeDoor reader door⟩
  | allowDoorForReader reader door =>
    rcases h.allowDoor reader door with ⟨hnone, hthrow⟩ | ⟨db', m', hdb, hm, h'⟩
    · simp [StoreOp.exec, StoreOp.step, ReaderMap.apply, ReaderMap.step, hnone, hthrow, h]
    · simp [StoreOp.exec, StoreOp.step, ReaderMap.apply, ReaderMap.step, hdb, hm, h']

/-- After any sequence of operations the tables represent the map. -/
theorem represents_run (ops : List StoreOp) :
    Represents (run StoreOp.step .empty ops) (run ReaderMap.step .empty ops) := by
  induction ops using List.reverseRecOn with
  | nil => exact represents_empty
  | append_singleton ops op ih =>
    rw [run_snoc, run_snoc]
    exact (ih.step op).2

/-! ## History -/

/-- The operation sets or removes the version of a reader. -/
def SetsVersion (reader : UInt32) (op : StoreOp) : Prop :=
  op = .deleteReader reader ∨ ∃ keyVersion, op = .upsertReader reader keyVersion

/-- The last operation on the reader itself gave it this version. -/
def LastUpsert (ops : List StoreOp) (reader keyVersion : UInt32) : Prop :=
  Since (fun _ op => op = .upsertReader reader keyVersion) (SetsVersion reader) ops

/-- The door was bound while the reader was registered, and neither was the binding revoked
nor the reader deleted since. -/
def GrantedSince (ops : List StoreOp) (reader door : UInt32) : Prop :=
  Since (fun before op => op = .allowDoorForReader reader door ∧
      ∃ keyVersion, LastUpsert before reader keyVersion)
    (fun op => op = .deleteReader reader ∨ op = .revokeDoorForReader reader door) ops

theorem ReaderMap.version_step (m : ReaderMap) (op : StoreOp) (reader keyVersion : UInt32) :
    (m.step op).version reader = some keyVersion ↔
      op = .upsertReader reader keyVersion ∨
        (m.version reader = some keyVersion ∧ ¬ SetsVersion reader op) := by
  unfold SetsVersion
  cases op with
  | upsertReader r kv =>
    simp only [step, apply, upsertReader, Option.getD_some, Function.update_apply]
    grind
  | deleteReader r =>
    simp only [step, apply, deleteReader, Option.getD_some, Function.update_apply]
    grind
  | allowDoorForReader r door =>
    simp only [step, apply, allowDoor]
    split_ifs
    · simp
    · simp
  | _ => simp [step, apply, revokeDoor]

theorem ReaderMap.version_run (ops : List StoreOp) (reader keyVersion : UInt32) :
    (run step .empty ops).version reader = some keyVersion ↔ LastUpsert ops reader keyVersion :=
  run_since_iff (P := fun m : ReaderMap => m.version reader = some keyVersion)
    (by simp [empty]) ops fun _ op _ => version_step _ op reader keyVersion

theorem ReaderMap.mem_doors_step (m : ReaderMap) (op : StoreOp) (reader door : UInt32) :
    (reader, door) ∈ (m.step op).doors ↔
      (op = .allowDoorForReader reader door ∧ m.version reader ≠ none) ∨
      ((reader, door) ∈ m.doors ∧
        ¬ (op = .deleteReader reader ∨ op = .revokeDoorForReader reader door)) := by
  cases op with
  | allowDoorForReader r d =>
    simp only [step, apply, allowDoor]
    split_ifs <;> grind
  | deleteReader r =>
    simp [step, apply, deleteReader]
    grind
  | revokeDoorForReader r d =>
    simp [step, apply, revokeDoor]
    grind
  | _ => simp [step, apply, upsertReader]

theorem ReaderMap.mem_doors_run (ops : List StoreOp) (reader door : UInt32) :
    (reader, door) ∈ (run step .empty ops).doors ↔ GrantedSince ops reader door := by
  refine run_since_iff (P := fun m : ReaderMap => (reader, door) ∈ m.doors) (by simp [empty])
    ops fun before op _ => ?_
  have hregistered : (run step .empty before).version reader ≠ none ↔
      ∃ keyVersion, LastUpsert before reader keyVersion := by
    rw [Option.ne_none_iff_exists']
    exact exists_congr fun keyVersion => version_run before reader keyVersion
  rw [mem_doors_step, hregistered]

/-! ## Answers -/

/-- The read methods answer as the map does. -/
structure Answers (db : AccessDb) (m : ReaderMap) : Prop where
  version : ∀ reader, currentKeyVersionForReader reader db = (m.version reader).getD 0
  unregistered : ∀ reader, currentKeyVersionForReader reader db = 0 ↔ m.version reader = none
  listed : ∀ reader keyVersion,
    ⟨reader, keyVersion⟩ ∈ listReaders db ↔ m.version reader = some keyVersion
  agrees : ∀ row ∈ listReaders db,
    currentKeyVersionForReader row.readerId db = row.currentKeyVersion
  doors : ∀ reader door, isReaderAllowedDoor reader door db = true ↔ (reader, door) ∈ m.doors

/-- What is read back from a version column that is not clamped. -/
theorem toInt32_nonpos_iff {v : UInt32} : v.toInt32 ≤ 0 ↔ v = 0 ∨ 2 ^ 31 ≤ v.toNat := by
  have hlt := v.toNat_lt
  have hsigned : v.toInt32.toInt = (v.toNat : Int).bmod (2 ^ 32) := BitVec.toInt_eq_toNat_bmod _
  rw [Int32.le_iff_toInt_le, hsigned, ← UInt32.toNat_inj]
  simp only [Int.bmod, Int32.toInt_zero, UInt32.toNat_zero]
  omega

theorem Represents.currentKeyVersion {db : AccessDb} {m : ReaderMap} (h : Represents db m)
    (reader : UInt32) : currentKeyVersionForReader reader db =
      match m.version reader with
      | some keyVersion => if 2 ^ 31 ≤ keyVersion.toNat then 0 else keyVersion
      | none => 0 := by
  unfold currentKeyVersionForReader
  rw [h.readers]
  cases m.version reader with
  | none => rfl
  | some keyVersion =>
    simp only [Option.map_some, columnInt_bindInt, toInt32_nonpos_iff, UInt32.toUInt32_toInt32]
    by_cases hzero : keyVersion = 0
    · simp [hzero]
    · simp [hzero]

/-- The list is not clamped: it shows every version as it was given. -/
theorem Represents.mem_listReaders {db : AccessDb} {m : ReaderMap} (h : Represents db m)
    (reader keyVersion : UInt32) :
    ⟨reader, keyVersion⟩ ∈ listReaders db ↔ m.version reader = some keyVersion := by
  have hentry : ∀ r kv, ⟨bindInt r, bindInt kv⟩ ∈ db.readers.entries ↔ m.version r = some kv := by
    intro r kv
    rw [← AList.mem_lookup_iff, h.readers]
    simp
  simp only [listReaders, List.mem_map, List.mem_mergeSort, ReaderRow.mk.injEq]
  constructor
  · rintro ⟨⟨key, column⟩, hmem, hreader, hversion⟩
    have hkey : key ∈ db.readers := AList.mem_keys.mpr (List.mem_keys_of_mem hmem)
    obtain ⟨r, rfl⟩ := h.keys key hkey
    obtain rfl : r = reader := by simpa using hreader
    have hlookup := AList.mem_lookup_iff.mpr hmem
    rw [h.readers] at hlookup
    obtain ⟨kv, hkv, rfl⟩ := Option.map_eq_some_iff.mp hlookup
    obtain rfl : kv = keyVersion := by simpa using hversion
    exact hkv
  · intro hversion
    exact ⟨_, (hentry reader keyVersion).mpr hversion, by simp, by simp⟩

/-- The store answers like the map after a sequence of operations exactly when no reader
that is left was last given a version of 2^31 or more. What it says about doors is right in
any case. -/
theorem readers_answer_iff (ops : List StoreOp)
    (hpos : ∀ reader keyVersion, .upsertReader reader keyVersion ∈ ops → 1 ≤ keyVersion) :
    (Answers (run StoreOp.step .empty ops) (run ReaderMap.step .empty ops) ↔
      ∀ reader keyVersion, LastUpsert ops reader keyVersion → keyVersion.toNat < 2 ^ 31) ∧
    ∀ reader door, isReaderAllowedDoor reader door (run StoreOp.step .empty ops) = true ↔
      GrantedSince ops reader door := by
  have hrep := represents_run ops
  have hdoors : ∀ reader door,
      isReaderAllowedDoor reader door (run StoreOp.step .empty ops) = true ↔
        (reader, door) ∈ (run ReaderMap.step .empty ops).doors := fun reader door =>
    decide_eq_true_iff.trans (hrep.doors reader door)
  refine ⟨?_, fun reader door => (hdoors reader door).trans (ReaderMap.mem_doors_run ops _ _)⟩
  constructor
  · intro hanswers reader keyVersion hlast
    have hversion := (ReaderMap.version_run ops reader keyVersion).mpr hlast
    by_contra hge
    have hzero : currentKeyVersionForReader reader (run StoreOp.step .empty ops) = 0 := by
      rw [hrep.currentKeyVersion, hversion]
      exact if_pos (not_lt.mp hge)
    have hnone := (hanswers.unregistered reader).mp hzero
    rw [hversion] at hnone
    cases hnone
  · intro hsmall
    have hcurrent : ∀ reader, currentKeyVersionForReader reader (run StoreOp.step .empty ops) =
        ((run ReaderMap.step .empty ops).version reader).getD 0 := by
      intro reader
      rw [hrep.currentKeyVersion]
      cases hversion : (run ReaderMap.step .empty ops).version reader with
      | none => rfl
      | some keyVersion =>
        have hlt := hsmall reader keyVersion ((ReaderMap.version_run ops _ _).mp hversion)
        exact if_neg (not_le.mpr hlt)
    refine ⟨hcurrent, fun reader => ?_, hrep.mem_listReaders, fun row hrow => ?_, hdoors⟩
    · rw [hcurrent]
      cases hversion : (run ReaderMap.step .empty ops).version reader with
      | none => simp
      | some keyVersion =>
        obtain ⟨before, op, after, hops, rfl, -⟩ := (ReaderMap.version_run ops _ _).mp hversion
        have hne := ne_zero_of_one_le (hpos reader keyVersion (by simp [hops]))
        simp [hne]
    · rw [hcurrent, (hrep.mem_listReaders row.readerId row.currentKeyVersion).mp hrow]
      rfl

theorem readers_answer_iff_rotated :
    Answers (run StoreOp.step .empty [.upsertReader 7 1, .allowDoorForReader 7 1,
        .upsertReader 7 2])
      (run ReaderMap.step .empty [.upsertReader 7 1, .allowDoorForReader 7 1,
        .upsertReader 7 2]) := by
  have hpos : ∀ reader keyVersion, .upsertReader reader keyVersion ∈
      ([.upsertReader 7 1, .allowDoorForReader 7 1, .upsertReader 7 2] : List StoreOp) →
      1 ≤ keyVersion ∧ keyVersion.toNat < 2 ^ 31 := by
    intro reader keyVersion hmem
    have hversion : keyVersion = 1 ∨ keyVersion = 2 := by
      simp only [List.mem_cons, StoreOp.upsertReader.injEq, List.not_mem_nil] at hmem
      grind
    rcases hversion with rfl | rfl
    · decide
    · decide
  refine (readers_answer_iff _ fun r kv hmem => (hpos r kv hmem).1).1.mpr fun r kv hlast => ?_
  obtain ⟨before, op, after, hops, rfl, -⟩ := hlast
  exact (hpos r kv (by simp [hops])).2

/-- A reader registered at version 2^31 is reported as not found, and listed with its
version. -/
theorem large_version_lost :
    currentKeyVersionForReader 7 (run StoreOp.step .empty [.upsertReader 7 0x80000000]) = 0 ∧
      listReaders (run StoreOp.step .empty [.upsertReader 7 0x80000000]) = [⟨7, 0x80000000⟩] ∧
      ¬ Answers (run StoreOp.step .empty [.upsertReader 7 0x80000000])
        (run ReaderMap.step .empty [.upsertReader 7 0x80000000]) := by
  have hzero : currentKeyVersionForReader 7
      (run StoreOp.step .empty [.upsertReader 7 0x80000000]) = 0 := by
    decide +kernel
  refine ⟨hzero, by decide +kernel, fun hanswers => ?_⟩
  have hnone := (hanswers.unregistered 7).mp hzero
  exact absurd hnone (by decide +kernel)

end AccessSecurity.Storage
