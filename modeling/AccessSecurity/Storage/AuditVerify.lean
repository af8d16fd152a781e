import AccessSecurity.Storage.AuditLog

/-!
# Audit verification

`audit_verify.cpp`. The verifier accepts a database exactly when the values it extracts
form a hash chain from the all-zero hash that ends with the anchor (`verifyAuditChain_ok_iff`).
The anchor therefore determines everything extracted (`anchor_binds_history`).
-/

namespace AccessSecurity.Storage

open Foundation Foundation.HashChain Crypto Decision

/-- `bad_id` is `-1` when no row is to blame. -/
structure AuditVerifyResult where
  ok : Bool := false
  badId : Int := -1
  error : String := ""
  deriving DecidableEq, Repr

/-- The values of a row: the event and the two stored hashes. -/
structure AuditRow where
  id : Int
  event : AuditEvent
  storedPrev : Hash32
  storedEntry : Hash32
  deriving DecidableEq

/-- A text column as a string view; NULL is read as the empty string. -/
def textColumn (text : Option Bytes) : Bytes := cString (text.getD [])

/-- Fails when one of the hashes is not a blob of 32 bytes. -/
def extractRow (st : LogRow) : Option AuditRow := do
  let event : AuditEvent := {
    tsUnixMs := st.tsUnixMs.toUInt64
    readerId := st.readerId.toInt32.toUInt32
    doorId := st.doorId.toInt32.toUInt32
    seq := st.seq.toUInt64
    allow := st.allow.toInt32 != 0
    reason := textColumn st.reason
    cardId := textColumn st.cardHmac
    action := textColumn st.action }
  let storedPrev ← hashBlob st.prevHash
  let storedEntry ← hashBlob st.entryHash
  return { id := st.id, event, storedPrev, storedEntry }

/-- `expectedPrev`, `lastEntry` and `anyRows` of the loop. -/
structure VerifyState where
  expectedPrev : Hash32 := zeros 32
  lastEntry : Hash32 := zeros 32
  anyRows : Bool := false
  deriving DecidableEq

def verifyAnchor (db : AuditDb) (lastEntry : Hash32) (anyRows : Bool) : AuditVerifyResult :=
  match db.auditAnchor with
  | none => { ok := false, error := "anchor row missing" }
  | some row =>
    match hashBlob row.lastHash with
    | none => { ok := false, error := "anchor last_hash bad blob" }
    | some anchor =>
      if anchor ≠ lastEntry then
        { ok := false
          badId := if anyRows then -2 else -1
          error := "anchor mismatch (possible truncation)" }
      else { ok := true }

/-- The 32-byte value of the anchor, when there is one. -/
def AuditDb.anchor (db : AuditDb) : Option Hash32 :=
  db.auditAnchor.bind fun row => hashBlob row.lastHash

theorem verifyAnchor_ok_iff {db : AuditDb} {lastEntry : Hash32} {anyRows : Bool} :
    (verifyAnchor db lastEntry anyRows).ok = true ↔ db.anchor = some lastEntry := by
  unfold verifyAnchor AuditDb.anchor
  cases db.auditAnchor with
  | none => simp
  | some row =>
    cases hblob : hashBlob row.lastHash with
    | none => simp [hblob]
    | some anchor =>
      by_cases h : anchor = lastEntry
      · simp [hblob, h]
      · simp [hblob, h]

/-! ## What the verifier reads -/

/-- The values the verifier extracts from a row, all but its id, as a link of the chain. -/
def extractedValues (st : LogRow) : Option (Entry Hash32 AuditEvent) :=
  (extractRow st).map fun row => ⟨row.storedPrev, row.event, row.storedEntry⟩

/-- An event as it is read back: its texts end at the first NUL. -/
def asRead (e : AuditEvent) : AuditEvent :=
  { e with
    reason := cString e.reason
    cardId := cString e.cardId
    action := cString e.action }

/-- A text that is bound with length -1, or as NULL when it is empty, and read again. -/
theorem textColumn_bound (s : Bytes) :
    textColumn (if s.isEmpty then none else some (cString s)) = cString s := by
  cases s with
  | nil => rfl
  | cons b bs => exact cString_cString _

theorem flagColumn_bound (b : Bool) : ((if b then (1 : Int64) else 0).toInt32 != 0) = b := by
  cases b <;> rfl

theorem extractRow_rowOf (id : Int) (e : AuditEvent) (prevHash entryHash : Hash32) :
    extractRow (SqliteAuditLog.rowOf id e prevHash entryHash) =
      some ⟨id, asRead e, prevHash, entryHash⟩ := by
  have hreason : textColumn (some (cString e.reason)) = cString e.reason := cString_cString _
  simp only [extractRow, SqliteAuditLog.rowOf, textColumn_bound, hreason, flagColumn_bound,
    hashBlob_toList]
  simp [asRead]

theorem entryHash_of_extractedValues {st : LogRow} {e : Entry Hash32 AuditEvent}
    (h : extractedValues st = some e) : hashBlob st.entryHash = some e.hash := by
  simp only [extractedValues, extractRow] at h
  cases hprev : hashBlob st.prevHash with
  | none => simp [hprev] at h
  | some prev =>
    cases hentry : hashBlob st.entryHash with
    | none => simp [hprev, hentry] at h
    | some entry =>
      obtain rfl : _ = e := by simpa [hprev, hentry] using h
      rfl

/-- The state after the loop has seen these values. -/
def VerifyState.after (state : VerifyState) (es : List (Entry Hash32 AuditEvent)) : VerifyState :=
  match es.getLast? with
  | none => state
  | some e => ⟨e.hash, e.hash, true⟩

theorem VerifyState.after_cons (state : VerifyState) (e : Entry Hash32 AuditEvent)
    (es : List (Entry Hash32 AuditEvent)) :
    state.after (e :: es) = VerifyState.after ⟨e.hash, e.hash, true⟩ es := by
  unfold after
  rw [List.getLast?_cons]
  cases es.getLast? <;> rfl

theorem VerifyState.lastEntry_after (es : List (Entry Hash32 AuditEvent)) :
    (VerifyState.after {} es).lastEntry = endHash (zeros 32) es := by
  unfold after endHash
  cases es.getLast? <;> rfl

/-! ## The chain -/

section

variable [Sodium] (hmacKey : Hash32)

def verifyRow (row : AuditRow) (expectedPrev : Hash32) : AuditVerifyResult :=
  if row.storedPrev ≠ expectedPrev then
    { ok := false, badId := row.id, error := "prev_hash mismatch" }
  else if row.storedEntry ≠ computeEntryHash hmacKey expectedPrev row.event then
    { ok := false, badId := row.id, error := "entry_hash mismatch" }
  else { ok := true }

/-- One turn of the loop; the exception is the result that ends it. -/
def verifyStep (state : VerifyState) (st : LogRow) : Except AuditVerifyResult VerifyState :=
  match extractRow st with
  | none => throw { ok := false, badId := st.id, error := "bad hash blob length" }
  | some row =>
    let rowResult := verifyRow hmacKey row state.expectedPrev
    if rowResult.ok = false then throw rowResult
    else return { expectedPrev := row.storedEntry, lastEntry := row.storedEntry, anyRows := true }

def verifyAuditChain (db : AuditDb) : AuditVerifyResult :=
  match db.auditLog.foldlM (verifyStep hmacKey) {} with
  | .error res => res
  | .ok state => verifyAnchor db state.lastEntry state.anyRows

theorem verifyStep_ok_iff {state state' : VerifyState} {st : LogRow} :
    verifyStep hmacKey state st = .ok state' ↔ ∃ e, extractedValues st = some e ∧
      e.prev = state.expectedPrev ∧
      e.hash = computeEntryHash hmacKey state.expectedPrev e.body ∧
      state' = ⟨e.hash, e.hash, true⟩ := by
  unfold verifyStep verifyRow extractedValues
  cases extractRow st with
  | none => simp [throw, throwThe, MonadExceptOf.throw]
  | some row =>
    by_cases hprev : row.storedPrev = state.expectedPrev
    · by_cases hentry : row.storedEntry = computeEntryHash hmacKey state.expectedPrev row.event
      · simp [hprev, ← hentry, pure, Except.pure, eq_comm]
      · simp [hprev, hentry, throw, throwThe, MonadExceptOf.throw]
    · simp [hprev, throw, throwThe, MonadExceptOf.throw]

/-- The loop succeeds on the rows whose values are linked. -/
theorem verifyRows_ok_iff {sts : List LogRow} {state state' : VerifyState} :
    sts.foldlM (verifyStep hmacKey) state = .ok state' ↔
    ∃ es, sts.map extractedValues = es.map some ∧
      Linked (computeEntryHash hmacKey) state.expectedPrev es ∧ state' = state.after es := by
  induction sts generalizing state with
  | nil =>
    rw [List.foldlM_nil, except_pure_ok]
    constructor
    · rintro rfl
      exact ⟨[], rfl, trivial, rfl⟩
    · rintro ⟨es, hmap, -, rfl⟩
      obtain rfl : es = [] := by simpa using hmap
      rfl
  | cons st sts ih =>
    rw [List.foldlM_cons, except_bind_ok]
    constructor
    · rintro ⟨mid, hmid, hrest⟩
      obtain ⟨e, hvalue, hprev, hhash, rfl⟩ := (verifyStep_ok_iff hmacKey).mp hmid
      obtain ⟨es, hmap, hlinked, rfl⟩ := ih.mp hrest
      exact ⟨e :: es, by simp [hvalue, hmap], ⟨hprev, hhash, hlinked⟩, (state.after_cons e es).symm⟩
    · rintro ⟨es, hmap, hlinked, rfl⟩
      cases es with
      | nil => simp at hmap
      | cons e es =>
        obtain ⟨hvalue, hvalues⟩ : extractedValues st = some e ∧
            sts.map extractedValues = es.map some := by simpa using hmap
        obtain ⟨hprev, hhash, hrest⟩ := hlinked
        exact ⟨_, (verifyStep_ok_iff hmacKey).mpr ⟨e, hvalue, hprev, hhash, rfl⟩,
          ih.mpr ⟨es, hvalues, hrest, state.after_cons e es⟩⟩

theorem verifyStep_error {state : VerifyState} {st : LogRow} {res : AuditVerifyResult}
    (h : verifyStep hmacKey state st = .error res) : res.ok = false := by
  unfold verifyStep at h
  split at h
  · obtain rfl : _ = res := by simpa [throw, throwThe, MonadExceptOf.throw] using h
    rfl
  · dsimp only at h
    split_ifs at h with hok
    · obtain rfl : _ = res := by simpa [throw, throwThe, MonadExceptOf.throw] using h
      exact hok
    · simp [pure, Except.pure] at h

theorem verifyRows_error {sts : List LogRow} {state : VerifyState} {res : AuditVerifyResult}
    (h : sts.foldlM (verifyStep hmacKey) state = .error res) : res.ok = false := by
  induction sts generalizing state with
  | nil => simp [pure, Except.pure] at h
  | cons st sts ih =>
    rw [List.foldlM_cons] at h
    cases hstep : verifyStep hmacKey state st with
    | error res' =>
      obtain rfl : res' = res := by simpa [hstep, bind, Except.bind] using h
      exact verifyStep_error hmacKey hstep
    | ok mid =>
      rw [hstep] at h
      exact ih h

/-- A database is accepted exactly when the extracted values are a chain from the all-zero
hash to the anchor. -/
theorem verifyAuditChain_ok_iff {db : AuditDb} :
    (verifyAuditChain hmacKey db).ok = true ↔
    ∃ es, db.auditLog.map extractedValues = es.map some ∧
      Linked (computeEntryHash hmacKey) (zeros 32) es ∧
      db.anchor = some (endHash (zeros 32) es) := by
  unfold verifyAuditChain
  constructor
  · intro h
    cases hloop : db.auditLog.foldlM (verifyStep hmacKey) {} with
    | error res =>
      rw [hloop] at h
      simp [verifyRows_error hmacKey hloop] at h
    | ok state =>
      rw [hloop] at h
      obtain ⟨es, hmap, hlinked, rfl⟩ := (verifyRows_ok_iff hmacKey).mp hloop
      have hanchor := verifyAnchor_ok_iff.mp h
      rw [VerifyState.lastEntry_after] at hanchor
      exact ⟨es, hmap, hlinked, hanchor⟩
  · rintro ⟨es, hmap, hlinked, hanchor⟩
    have hloop : db.auditLog.foldlM (verifyStep hmacKey) {} = .ok (VerifyState.after {} es) :=
      (verifyRows_ok_iff hmacKey).mpr ⟨es, hmap, hlinked, rfl⟩
    rw [hloop]
    apply verifyAnchor_ok_iff.mpr
    rw [VerifyState.lastEntry_after, hanchor]

/-! ## What the anchor determines -/

/-- The messages that are hashed while the rows are verified. -/
def hashedMessages : VerifyState → List LogRow → List Bytes
  | _, [] => []
  | state, st :: sts =>
    match extractRow st with
    | none => []
    | some row =>
      if row.storedPrev ≠ state.expectedPrev then []
      else entryData state.expectedPrev row.event ::
        match verifyStep hmacKey state st with
        | .error _ => []
        | .ok state' => hashedMessages state' sts

/-- Different messages among these have different HMACs. -/
def NoCollision (messages : List Bytes) : Prop :=
  ∀ a ∈ messages, ∀ b ∈ messages, hmacSha256 hmacKey.toList a = hmacSha256 hmacKey.toList b → a = b

def NoZero (messages : List Bytes) : Prop :=
  ∀ a ∈ messages, hmacSha256 hmacKey.toList a ≠ zeros 32

/-- Over rows whose values are linked, every row is hashed. -/
theorem hashedMessages_of_linked {sts : List LogRow} {es : List (Entry Hash32 AuditEvent)}
    {state : VerifyState} (hmap : sts.map extractedValues = es.map some)
    (h : Linked (computeEntryHash hmacKey) state.expectedPrev es) :
    hashedMessages hmacKey state sts = es.map fun e => entryData e.prev e.body := by
  induction sts generalizing es state with
  | nil =>
    obtain rfl : es = [] := by simpa using hmap
    rfl
  | cons st sts ih =>
    cases es with
    | nil => simp at hmap
    | cons e es =>
      obtain ⟨hvalue, hvalues⟩ : extractedValues st = some e ∧
          sts.map extractedValues = es.map some := by simpa using hmap
      obtain ⟨hprev, hhash, hrest⟩ := h
      have hstep := (verifyStep_ok_iff hmacKey).mpr ⟨e, hvalue, hprev, hhash, rfl⟩
      obtain ⟨row, hrow, rfl⟩ := Option.map_eq_some_iff.mp hvalue
      dsimp only at hprev
      simp only [hashedMessages, hrow, hstep, hprev, ne_eq, not_true, if_false, List.map_cons]
      rw [ih hvalues hrest]

/-- The anchor binds the whole history: two databases that are accepted under one key and
have one anchor hold the same values. -/
theorem anchor_binds_history {db db' : AuditDb} {anchor : Hash32}
    (hdb : (verifyAuditChain hmacKey db).ok = true)
    (hdb' : (verifyAuditChain hmacKey db').ok = true)
    (hanchor : db.anchor = some anchor) (hanchor' : db'.anchor = some anchor)
    (hcollision : NoCollision hmacKey
      (hashedMessages hmacKey {} db.auditLog ++ hashedMessages hmacKey {} db'.auditLog))
    (hzero : NoZero hmacKey
      (hashedMessages hmacKey {} db.auditLog ++ hashedMessages hmacKey {} db'.auditLog))
    (hshort : ∀ st ∈ db.auditLog ++ db'.auditLog, ∀ e, extractedValues st = some e →
      Short e.body) :
    db.auditLog.map extractedValues = db'.auditLog.map extractedValues := by
  obtain ⟨es, hmap, hlinked, hend⟩ := (verifyAuditChain_ok_iff hmacKey).mp hdb
  obtain ⟨ds, hmap', hlinked', hend'⟩ := (verifyAuditChain_ok_iff hmacKey).mp hdb'
  have hshort' : ∀ e, e ∈ es ∨ e ∈ ds → Short e.body := by
    intro e he
    have hsome : some e ∈ (db.auditLog ++ db'.auditLog).map extractedValues := by
      simp only [List.map_append, hmap, hmap', List.mem_append]
      exact he.imp List.mem_map_of_mem List.mem_map_of_mem
    obtain ⟨st, hst, hvalue⟩ := List.mem_map.mp hsome
    exact hshort st hst e hvalue
  rw [hashedMessages_of_linked hmacKey hmap hlinked,
    hashedMessages_of_linked hmacKey hmap' hlinked', ← List.map_append] at hcollision hzero
  rw [hmap, hmap']
  congr 1
  refine linked_unique hlinked hlinked' (fun e he d hd hdigest => ?_) (fun e he => ?_) ?_
  · have hmessage := hcollision _ (List.mem_map_of_mem (List.mem_append_left _ he)) _
      (List.mem_map_of_mem (List.mem_append_right _ hd)) hdigest
    exact entryData_inj (hshort' e (.inl he)) (hshort' d (.inr hd)) hmessage
  · exact hzero _ (List.mem_map_of_mem (List.mem_append.mpr he))
  · rw [← Option.some_inj, ← hend, ← hend', hanchor, hanchor']

end

/-- The rows of the database, under other ids. -/
def AuditDb.renumber (db : AuditDb) (offset : Int) : AuditDb :=
  { db with auditLog := db.auditLog.map fun st => { st with id := st.id + offset } }

theorem anchor_binds_history_renumber :
    sampleWritten.auditLog.map extractedValues =
      (sampleWritten.renumber 10).auditLog.map extractedValues := by
  let _ : Sodium := .trailing
  have hlengths : ∀ st ∈ sampleWritten.auditLog ++ (sampleWritten.renumber 10).auditLog,
      (extractedValues st).all (fun e => e.body.reason.length < 2 ^ 32 &&
        e.body.cardId.length < 2 ^ 32 && e.body.action.length < 2 ^ 32) = true := by
    decide +kernel
  refine anchor_binds_history sampleLog.key (by decide +kernel) (by decide +kernel) rfl rfl
    (by unfold NoCollision; decide +kernel) (by unfold NoZero; decide +kernel) ?_
  intro st hst e he
  have hlength := hlengths st hst
  simp only [he, Option.all_some, Bool.and_eq_true, decide_eq_true_eq] at hlength
  exact ⟨hlength.1.1, hlength.1.2, hlength.2⟩

end AccessSecurity.Storage
