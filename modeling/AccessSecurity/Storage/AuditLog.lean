import AccessSecurity.Decision.Engine
import AccessSecurity.Foundation.HashChain

/-!
# Audit log

`serialization.cpp` and `sqlite_audit_log.cpp` over the two tables they use. A row has
what SQLite stores: signed integers, texts up to their first NUL, and blobs; the rows are
kept in the order of their ids. An append takes the previous hash from the last row that
is there, so it continues whatever chain the table holds (`appendAll_stores`).
-/

namespace AccessSecurity.Storage

open Foundation Crypto Decision

/-! ## serialization -/

def putLe32 (v : UInt32) (out : Bytes) : Bytes := out ++ LittleEndian.ofUInt32 v

def putLe64 (v : UInt64) (out : Bytes) : Bytes := out ++ LittleEndian.ofUInt64 v

def putBytesWithLen (s out : Bytes) : Bytes :=
  putLe32 (UInt32.ofNat s.length) out ++ s

/-! ## Entry hashes -/

def kHashSize : Nat := 32

abbrev Hash32 := ByteArr 32

/-- The canonical event bytes. -/
def eventFields (e : AuditEvent) : Bytes :=
  let fields := putLe64 e.tsUnixMs []
  let fields := putLe32 e.readerId fields
  let fields := putLe32 e.doorId fields
  let fields := putLe64 e.seq fields
  let fields := fields ++ [if e.allow then 1 else 0]
  let fields := putBytesWithLen e.reason fields
  let fields := putBytesWithLen e.cardId fields
  putBytesWithLen e.action fields

/-- What is hashed for an entry: `prevHash || fields`. -/
def entryData (prevHash : Hash32) (e : AuditEvent) : Bytes := prevHash.toList ++ eventFields e

/-- `computeEntryHash`, of the writer and of the verifier. -/
def computeEntryHash [Sodium] (key prevHash : Hash32) (e : AuditEvent) : Hash32 :=
  hmacSha256 key.toList (entryData prevHash e)

theorem eventFields_eq (e : AuditEvent) : eventFields e =
    LittleEndian.ofUInt64 e.tsUnixMs ++ (LittleEndian.ofUInt32 e.readerId ++
      (LittleEndian.ofUInt32 e.doorId ++ (LittleEndian.ofUInt64 e.seq ++
        ([if e.allow then 1 else 0] ++ (putBytesWithLen e.reason [] ++
          (putBytesWithLen e.cardId [] ++ putBytesWithLen e.action [])))))) := by
  simp [eventFields, putLe64, putLe32, putBytesWithLen]

/-- Length-prefixed strings of less than 2^32 bytes can be read back. -/
theorem putBytesWithLen_inj {s t xs ys : Bytes} (hs : s.length < 2 ^ 32) (ht : t.length < 2 ^ 32)
    (h : putBytesWithLen s [] ++ xs = putBytesWithLen t [] ++ ys) : s = t ∧ xs = ys := by
  simp only [putBytesWithLen, putLe32, List.nil_append, List.append_assoc] at h
  obtain ⟨hlen, h⟩ := List.append_inj h (by simp)
  have hwords := LittleEndian.ofUInt32_inj hlen
  have hnat : s.length = t.length := by
    have := congrArg UInt32.toNat hwords
    rwa [UInt32.toNat_ofNat_of_lt' hs, UInt32.toNat_ofNat_of_lt' ht] at this
  exact List.append_inj h hnat

/-- The strings of the event are short enough for their length prefixes. -/
structure Short (e : AuditEvent) : Prop where
  reason : e.reason.length < 2 ^ 32
  cardId : e.cardId.length < 2 ^ 32
  action : e.action.length < 2 ^ 32

theorem eventFields_inj {d e : AuditEvent} (hd : Short d) (he : Short e)
    (h : eventFields d = eventFields e) : d = e := by
  rw [eventFields_eq, eventFields_eq] at h
  obtain ⟨hts, h⟩ := List.append_inj h (by simp)
  obtain ⟨hreader, h⟩ := List.append_inj h (by simp)
  obtain ⟨hdoor, h⟩ := List.append_inj h (by simp)
  obtain ⟨hseq, h⟩ := List.append_inj h (by simp)
  obtain ⟨hallow, h⟩ := List.append_inj h (by simp)
  obtain ⟨hreason, h⟩ := putBytesWithLen_inj hd.reason he.reason h
  obtain ⟨hcard, h⟩ := putBytesWithLen_inj hd.cardId he.cardId h
  have hrest : putBytesWithLen d.action [] ++ [] = putBytesWithLen e.action [] ++ [] := by
    simpa using h
  have haction := (putBytesWithLen_inj hd.action he.action hrest).1
  have hbit : d.allow = e.allow := by
    cases hda : d.allow <;> cases hea : e.allow <;> simp_all
  cases d
  cases e
  simp only [AuditEvent.mk.injEq]
  exact ⟨LittleEndian.ofUInt64_inj hts, LittleEndian.ofUInt32_inj hreader,
    LittleEndian.ofUInt32_inj hdoor, LittleEndian.ofUInt64_inj hseq, hbit, hreason, hcard, haction⟩

theorem entryData_inj {p q : Hash32} {d e : AuditEvent} (hd : Short d) (he : Short e)
    (h : entryData p d = entryData q e) : p = q ∧ d = e := by
  obtain ⟨hprev, hfields⟩ := List.append_inj h (by simp)
  exact ⟨Vector.toList_inj.mp hprev, eventFields_inj hd he hfields⟩

/-! ## Tables -/

/-- A row of `audit_log`; `none` is NULL. -/
structure LogRow where
  id : Int
  tsUnixMs : Int64
  readerId : Int64
  doorId : Int64
  seq : Int64
  allow : Int64
  reason : Option Bytes
  cardHmac : Option Bytes
  action : Option Bytes
  prevHash : Option Bytes
  entryHash : Option Bytes
  deriving DecidableEq

/-- The row of `audit_anchor`. -/
structure AnchorRow where
  lastHash : Option Bytes
  updatedTs : Int64
  deriving DecidableEq

/-- The two tables; `lastId` is the id given last, which is never given again. -/
structure AuditDb where
  auditLog : List LogRow := []
  lastId : Int := 0
  auditAnchor : Option AnchorRow := none
  deriving DecidableEq

/-- A text that is bound with length -1, or read through a `char` pointer. -/
def cString (s : Bytes) : Bytes := s.takeWhile (· ≠ 0)

theorem cString_eq_self {s : Bytes} : cString s = s ↔ 0 ∉ s := by
  induction s with
  | nil => simp [cString]
  | cons b bs ih =>
    by_cases hb : b = 0
    · simp [cString, hb]
    · simpa [cString, hb, Ne.symm hb] using ih

theorem cString_cString (s : Bytes) : cString (cString s) = cString s := by
  induction s with
  | nil => rfl
  | cons b bs ih =>
    by_cases hb : b = 0
    · simp [cString, hb]
    · simpa [cString, hb] using ih

theorem zero_notMem_cString (s : Bytes) : 0 ∉ cString s := cString_eq_self.mp (cString_cString s)

/-- A blob column that must hold 32 bytes. -/
def hashBlob (blob : Option Bytes) : Option Hash32 :=
  blob.bind fun bytes => if bytes.length = kHashSize then some (copyInto 32 bytes) else none

@[simp] theorem hashBlob_toList (h : Hash32) : hashBlob (some h.toList) = some h := by
  simp [hashBlob, kHashSize]

/-! ## SqliteAuditLog -/

structure SqliteAuditLog where
  key : Hash32
  chainEnabled : Bool := true
  deriving DecidableEq

namespace SqliteAuditLog

/-- The tables are created when they are missing, and the anchor gets its row. -/
def initSchema (db : AuditDb) : AuditDb :=
  { db with
    auditAnchor := db.auditAnchor <|> some { lastHash := some (zeros 32).toList, updatedTs := 0 } }

def getLastEntryHash (db : AuditDb) : Except Exn Hash32 :=
  match db.auditLog.getLast? with
  | none => return zeros 32
  | some row =>
    match hashBlob row.entryHash with
    | some last => return last
    | none => throw ⟨"SqliteAuditLog: bad entry_hash blob"⟩

/-- The row that stores an event. -/
def rowOf (id : Int) (e : AuditEvent) (prevHash entryHash : Hash32) : LogRow where
  id := id
  tsUnixMs := e.tsUnixMs.toInt64
  readerId := e.readerId.toInt32.toInt64
  doorId := e.doorId.toInt32.toInt64
  seq := e.seq.toInt64
  allow := if e.allow then 1 else 0
  reason := some (cString e.reason)
  cardHmac := if e.cardId.isEmpty then none else some (cString e.cardId)
  action := if e.action.isEmpty then none else some (cString e.action)
  prevHash := some prevHash.toList
  entryHash := some entryHash.toList

def insertAuditEntry (e : AuditEvent) (prevHash entryHash : Hash32) (db : AuditDb) : AuditDb :=
  { db with
    auditLog := db.auditLog ++ [rowOf (db.lastId + 1) e prevHash entryHash]
    lastId := db.lastId + 1 }

/-- The update changes nothing when the anchor has no row. -/
def updateAnchor (entryHash : Hash32) (ts : UInt64) (db : AuditDb) : AuditDb :=
  { db with
    auditAnchor := db.auditAnchor.map fun _ =>
      { lastHash := some entryHash.toList, updatedTs := ts.toInt64 } }

variable [Sodium]

/-- One transaction: after an exception the tables are as before. -/
def append (log : SqliteAuditLog) (e : AuditEvent) (db : AuditDb) : Except Exn AuditDb := do
  if log.chainEnabled = false then
    return insertAuditEntry e (zeros 32) (zeros 32) db
  else
    let prev ← getLastEntryHash db
    let entry := computeEntryHash log.key prev e
    return updateAnchor entry e.tsUnixMs (insertAuditEntry e prev entry db)

/-- Any number of calls of `append`. -/
def appendAll (log : SqliteAuditLog) (es : List AuditEvent) (db : AuditDb) : Except Exn AuditDb :=
  es.foldlM (fun db e => log.append e db) db

end SqliteAuditLog

/-! ## A log of two entries -/

/-- An allowed request at time one. -/
def allowedEvent (seq : UInt64) : AuditEvent where
  tsUnixMs := 1
  readerId := 7
  doorId := 1
  seq := seq
  allow := true
  reason := bytesOf "ok"
  cardId := bytesOf "c"
  action := bytesOf "open"

def sampleLog : SqliteAuditLog where
  key := zeros 32

/-- The log after two entries. -/
def sampleWritten : AuditDb :=
  letI : Sodium := .trailing
  (sampleLog.appendAll [allowedEvent 1, allowedEvent 2]
    (SqliteAuditLog.initSchema {})).toOption.getD {}

end AccessSecurity.Storage
