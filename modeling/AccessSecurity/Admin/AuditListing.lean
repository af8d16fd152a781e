import AccessSecurity.Storage.Untampered

/-!
# Listing the audit log

`audit_service.cpp`. The writer stores the unsigned numbers of an event in signed columns,
and two functions read the rows: `extractRow` of the verifier casts the numbers back,
`parseAuditRow` of the admin interface reports what the column holds. So both agree with the
writer exactly on the events whose numbers are in the range of the columns
(`audit_readers_agree_iff`).
-/

namespace AccessSecurity.Admin

open Foundation Protocol Crypto Core Decision Storage

/-! ## audit_service -/

/-- A row of the answer; JSON numbers keep the value they are given. -/
structure AuditJson where
  id : Int
  tsUnixMs : Int
  readerId : Int
  doorId : Int
  seq : Int
  allow : Bool
  reason : Bytes
  cardHmac : Bytes
  action : Bytes
  deriving DecidableEq, Repr

def parseAuditRow (st : LogRow) : AuditJson where
  id := st.id
  tsUnixMs := st.tsUnixMs.toInt
  readerId := st.readerId.toInt32.toInt
  doorId := st.doorId.toInt32.toInt
  seq := st.seq.toInt
  allow := st.allow.toInt32 != 0
  reason := textColumn st.reason
  cardHmac := textColumn st.cardHmac
  action := textColumn st.action

/-- `LIMIT` and `OFFSET`: a negative limit is none, a negative offset is zero. -/
def limitOffset {α : Type} (limit offset : Int32) (rows : List α) : List α :=
  let rest := rows.drop offset.toNatClampNeg
  if limit < 0 then rest else rest.take limit.toNatClampNeg

/-- How the statement of a listing runs: whether it can be prepared, and after how many rows
a step fails, if one does. -/
structure ListingEnv where
  prepares : Bool := true
  stepFailsAfter : Option Nat := none

/-- The newest entries come first, and a step that fails ends the list. -/
def listAuditLog (env : ListingEnv) (db : AuditDb) (limit offset : Int32) :
    Except String (List AuditJson) :=
  if env.prepares = false then .error "prepare failed"
  else
    let rows := limitOffset limit offset db.auditLog.reverse
    let stepped := match env.stepFailsAfter with
      | none => rows
      | some n => rows.take n
    .ok (stepped.map parseAuditRow)

/-- The row of the answer carries exactly the event. -/
structure Reports (row : AuditJson) (e : AuditEvent) : Prop where
  readerId : row.readerId = e.readerId.toNat
  doorId : row.doorId = e.doorId.toNat
  seq : row.seq = e.seq.toNat
  tsUnixMs : row.tsUnixMs = e.tsUnixMs.toNat
  allow : row.allow = e.allow
  reason : row.reason = e.reason
  cardHmac : row.cardHmac = e.cardId
  action : row.action = e.action

/-- The numbers of the event are not negative in the columns that hold them. -/
structure InRange (e : AuditEvent) : Prop where
  readerId : e.readerId.toNat < 2 ^ 31
  doorId : e.doorId.toNat < 2 ^ 31
  seq : e.seq.toNat < 2 ^ 63
  tsUnixMs : e.tsUnixMs.toNat < 2 ^ 63

/-! ## Columns -/

theorem toInt_toInt32_eq_iff (u : UInt32) : u.toInt32.toInt = u.toNat ↔ u.toNat < 2 ^ 31 := by
  have hlt := u.toNat_lt
  have hint : u.toInt32.toInt = u.toBitVec.toInt := rfl
  rw [hint, BitVec.toInt_eq_toNat_cond, UInt32.toNat_toBitVec]
  split_ifs <;> omega

theorem toInt_toInt64_eq_iff (u : UInt64) : u.toInt64.toInt = u.toNat ↔ u.toNat < 2 ^ 63 := by
  have hlt := u.toNat_lt
  have hint : u.toInt64.toInt = u.toBitVec.toInt := rfl
  rw [hint, BitVec.toInt_eq_toNat_cond, UInt64.toNat_toBitVec]
  split_ifs <;> omega

theorem reports_rowOf_iff {e : AuditEvent} (hnul : ¬ HasNul e) (id : Int)
    (prevHash entryHash : Hash32) :
    Reports (parseAuditRow (SqliteAuditLog.rowOf id e prevHash entryHash)) e ↔ InRange e := by
  have hread : asRead e = e := asRead_eq_self.mpr hnul
  have hreason : cString e.reason = e.reason := congrArg AuditEvent.reason hread
  have hcard : cString e.cardId = e.cardId := congrArg AuditEvent.cardId hread
  have haction : cString e.action = e.action := congrArg AuditEvent.action hread
  constructor
  · rintro ⟨hreader, hdoor, hseq, hts, -⟩
    simp only [parseAuditRow, SqliteAuditLog.rowOf, Int32.toInt32_toInt64] at hreader hdoor hseq hts
    exact ⟨(toInt_toInt32_eq_iff _).mp hreader, (toInt_toInt32_eq_iff _).mp hdoor,
      (toInt_toInt64_eq_iff _).mp hseq, (toInt_toInt64_eq_iff _).mp hts⟩
  · rintro ⟨hreader, hdoor, hseq, hts⟩
    constructor
    · simpa [parseAuditRow, SqliteAuditLog.rowOf] using (toInt_toInt32_eq_iff _).mpr hreader
    · simpa [parseAuditRow, SqliteAuditLog.rowOf] using (toInt_toInt32_eq_iff _).mpr hdoor
    · exact (toInt_toInt64_eq_iff _).mpr hseq
    · exact (toInt_toInt64_eq_iff _).mpr hts
    · exact flagColumn_bound _
    · exact (cString_cString _).trans hreason
    · exact (textColumn_bound _).trans hcard
    · exact (textColumn_bound _).trans haction

/-! ## Rows -/

theorem getElem?_limitOffset {α : Type} {limit offset : Int32} {rows : List α} {i : Nat} {row : α}
    (h : (limitOffset limit offset rows)[i]? = some row) :
    rows[offset.toNatClampNeg + i]? = some row := by
  unfold limitOffset at h
  grind

theorem getElem?_listAuditLog {env : ListingEnv} {db : AuditDb} {limit offset : Int32}
    {rows : List AuditJson} {i : Nat} {row : AuditJson}
    (hrows : listAuditLog env db limit offset = .ok rows) (hrow : rows[i]? = some row) :
    ∃ st, db.auditLog.reverse[offset.toNatClampNeg + i]? = some st ∧ row = parseAuditRow st := by
  unfold listAuditLog at hrows
  split_ifs at hrows
  cases hrows
  rw [List.getElem?_map, Option.map_eq_some_iff] at hrow
  obtain ⟨st, hst, rfl⟩ := hrow
  have hselected : (limitOffset limit offset db.auditLog.reverse)[i]? = some st := by
    cases hfails : env.stepFailsAfter with
    | none => simpa only [hfails] using hst
    | some n => grind
  exact ⟨st, getElem?_limitOffset hselected, rfl⟩

section

variable [Sodium]

theorem append_rows {log : SqliteAuditLog} {e : AuditEvent} {db db' : AuditDb}
    (h : log.append e db = .ok db') : ∃ id prevHash entryHash,
      db'.auditLog = db.auditLog ++ [SqliteAuditLog.rowOf id e prevHash entryHash] := by
  unfold SqliteAuditLog.append at h
  split_ifs at h with hchain
  · obtain rfl := except_pure_ok.mp h
    exact ⟨_, _, _, rfl⟩
  · obtain ⟨prev, -, h⟩ := except_bind_ok.mp h
    obtain rfl := except_pure_ok.mp h
    exact ⟨_, _, _, rfl⟩

theorem appendAll_rows {log : SqliteAuditLog} {es : List AuditEvent} {db db' : AuditDb}
    (h : log.appendAll es db = .ok db') :
    ∃ sts, sts.length = es.length ∧ db'.auditLog = db.auditLog ++ sts := by
  induction es generalizing db with
  | nil =>
    cases h
    exact ⟨[], rfl, by simp⟩
  | cons e es ih =>
    rw [SqliteAuditLog.appendAll, List.foldlM_cons] at h
    obtain ⟨mid, hmid, hrest⟩ := except_bind_ok.mp h
    obtain ⟨id, prevHash, entryHash, hrow⟩ := append_rows hmid
    obtain ⟨sts, hlength, hsts⟩ := ih hrest
    refine ⟨SqliteAuditLog.rowOf id e prevHash entryHash :: sts, by simp [hlength], ?_⟩
    rw [hsts, hrow, List.append_assoc, List.singleton_append]

variable [JsonLib]

/-- An event of the engine is appended, then any others. Its row, wherever a listing reports
it, and the row the verifier extracts carry the event exactly when its numbers are in range. -/
theorem audit_readers_agree_iff {en : Engine} {env : Env} {s : EngineState} {frameBytes : Bytes}
    {e : AuditEvent} (he : e ∈ emitted en env s frameBytes) {log : SqliteAuditLog}
    {db mid db' : AuditDb} {later : List AuditEvent} (happend : log.append e db = .ok mid)
    (hlater : log.appendAll later mid = .ok db') {listing : ListingEnv} {limit offset : Int32}
    {rows : List AuditJson} {i : Nat} {row : AuditJson}
    (hrows : listAuditLog listing db' limit offset = .ok rows) (hrow : rows[i]? = some row)
    (hi : offset.toNatClampNeg + i = later.length) :
    ∃ st extracted, db'.auditLog[db.auditLog.length]? = some st ∧
      extractRow st = some extracted ∧
      ((Reports row e ∧ extracted.event = e) ↔ InRange e) := by
  have hnul := emitted_no_nul env s frameBytes e he
  obtain ⟨id, prevHash, entryHash, hmid⟩ := append_rows happend
  obtain ⟨sts, hlength, hdb'⟩ := appendAll_rows hlater
  obtain ⟨st, hst, rfl⟩ := getElem?_listAuditLog hrows hrow
  obtain rfl : st = SqliteAuditLog.rowOf id e prevHash entryHash := by
    rw [hdb', hmid] at hst
    grind
  refine ⟨_, _, ?_, extractRow_rowOf id e prevHash entryHash, ?_⟩
  · rw [hdb', hmid]
    grind
  · rw [reports_rowOf_iff hnul]
    exact and_iff_left (asRead_eq_self.mpr hnul)

end

/-! ## Two frames -/

/-- A frame of the first reader whose id is negative in its column. -/
def farKnock : Frame :=
  { Engine.knock with header := { Engine.knock.header with readerId := 0x80000000 } }

/-- What the permissive engine writes about a frame. -/
def knockEvent (frame : Frame) : AuditEvent :=
  letI : Sodium := .transparent
  letI : JsonLib := .requests
  (emitted .permissive .quiet .initial (serialize frame)).headD {}

/-- The log with this entry only. -/
def knockDb (frame : Frame) : AuditDb :=
  letI : Sodium := .transparent
  (sampleLog.append (knockEvent frame) (SqliteAuditLog.initSchema {})).toOption.getD {}

/-- The newest row of a listing. -/
def newestRow (frame : Frame) : Option AuditJson :=
  (listAuditLog {} (knockDb frame) 1 0).toOption.bind (·[0]?)

theorem audit_readers_agree_iff_knock :
    ∃ st extracted row, (knockDb Engine.knock).auditLog[0]? = some st ∧
      extractRow st = some extracted ∧ newestRow Engine.knock = some row ∧
      Reports row (knockEvent Engine.knock) ∧ extracted.event = knockEvent Engine.knock := by
  let _ : Sodium := .transparent
  let _ : JsonLib := .requests
  have he : knockEvent Engine.knock ∈
      emitted .permissive .quiet .initial (serialize Engine.knock) := by decide +kernel
  have happend : sampleLog.append (knockEvent Engine.knock) (SqliteAuditLog.initSchema {}) =
      .ok (knockDb Engine.knock) := rfl
  have hlater : sampleLog.appendAll [] (knockDb Engine.knock) = .ok (knockDb Engine.knock) := rfl
  have hrange : InRange (knockEvent Engine.knock) :=
    ⟨by decide +kernel, by decide +kernel, by decide +kernel, by decide +kernel⟩
  obtain ⟨row, hnewest⟩ : ∃ row, newestRow Engine.knock = some row :=
    Option.isSome_iff_exists.mp (by decide +kernel)
  have hrows : listAuditLog {} (knockDb Engine.knock) 1 0 =
      .ok ((limitOffset 1 0 (knockDb Engine.knock).auditLog.reverse).map parseAuditRow) := rfl
  obtain ⟨st, extracted, hst, hextracted, hiff⟩ :=
    audit_readers_agree_iff he happend hlater hrows hnewest rfl
  obtain ⟨hreports, hevent⟩ := hiff.mpr hrange
  exact ⟨st, extracted, row, hst, hextracted, hnewest, hreports, hevent⟩

/-- The listing reports the reader of this frame as -2147483648. -/
theorem listing_reports_negative_reader :
    letI : Sodium := .transparent
    letI : JsonLib := .requests
    knockEvent farKnock ∈ emitted .permissive .quiet .initial (serialize farKnock) ∧
      sampleLog.append (knockEvent farKnock) (SqliteAuditLog.initSchema {}) =
        .ok (knockDb farKnock) ∧
      (knockEvent farKnock).readerId = 2147483648 ∧
      (newestRow farKnock).map (·.readerId) = some (-2147483648) := by
  let _ : Sodium := .transparent
  let _ : JsonLib := .requests
  refine ⟨?_, rfl, ?_, ?_⟩
  · decide +kernel
  · decide +kernel
  · decide +kernel

end AccessSecurity.Admin
