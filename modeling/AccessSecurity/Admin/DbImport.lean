import AccessSecurity.Storage.AuditVerify

/-!
# Import of a database

`db_service.cpp`, `importDbFile` and `openOrCreate` of `app_state.cpp`, and
`sqliteIntegrityOk`. What SQLite finds in a file is a function of its content; whether a file
can be opened, how far a copy gets and what throws is decided per call. An import that is
refused by one of the two checks changes nothing. When the copy over the database fails, the
components are gone and the database may be half overwritten (`import_failed_unchanged_iff`).
-/

namespace AccessSecurity.Admin

open Foundation Crypto Decision Storage

/-! ## Files -/

/-- How `copy_file` or a write ends: `written` bytes have arrived when it fails on the way. -/
inductive CopyOutcome where
  | ok
  | failed (message : String) (written : Option Nat)
  deriving DecidableEq, Repr

/-- The error code. -/
def CopyOutcome.error : CopyOutcome → Option String
  | .ok => none
  | .failed message _ => some message

/-- What arrives of the source, if the destination is touched. -/
def CopyOutcome.arrives (outcome : CopyOutcome) (source : Bytes) : Option Bytes :=
  match outcome with
  | .ok => some source
  | .failed _ written => written.map source.take

/-- The destination afterwards. -/
def CopyOutcome.content (outcome : CopyOutcome) (source : Bytes) (destination : Option Bytes) :
    Option Bytes :=
  (outcome.arrives source).or destination

/-- The destination and the error code. -/
def copyFile (outcome : CopyOutcome) (source destination : Option Bytes) :
    Option Bytes × Option String :=
  match source with
  | none => (destination, some "No such file or directory")
  | some content => (outcome.content content destination, outcome.error)

/-! ## SQLite -/

inductive IntegrityAnswer where
  | notPrepared
  | noRow
  | row (text : String)
  deriving DecidableEq, Repr

/-- The rows of a query, and whether it ends with an error after them. -/
structure QueryRows (α : Type) where
  rows : List α
  failed : Bool := false

/-- What SQLite makes of the content of a file. A query of a table that is not there cannot
be prepared, and an empty file has no tables. -/
class Sqlite where
  integrityCheck : Bytes → IntegrityAnswer
  auditLog : Bytes → Option (QueryRows LogRow)
  auditAnchor : Bytes → Option (Option AnchorRow)
  auditLog_nil : auditLog [] = none
  connect : Bytes → Bytes
  initSchema : Bytes → Bytes
  initAuditSchema : Bytes → Bytes

/-! ## State -/

/-- The files, and the connection that each component holds. The store owns it, the audit
log and the engine were given it. -/
structure ServerState where
  db : Option Bytes
  bak : Option Bytes := none
  upload : Option Bytes := none
  opened : Nat := 0
  store : Option Nat := none
  audit : Option Nat := none
  engine : Option Nat := none
  deriving DecidableEq, Repr

/-- All three components are there and work on one open connection. -/
def ServerState.Usable (s : ServerState) : Prop :=
  ∃ connection, s.store = some connection ∧ s.audit = some connection ∧
    s.engine = some connection

/-- `sqlite3_open` creates a file that is missing, unless it fails. -/
def ServerState.openUpload (s : ServerState) (opens : Bool) : ServerState :=
  if opens then { s with upload := some (s.upload.getD []) } else s

def ServerState.resetComponents (s : ServerState) : ServerState :=
  { s with store := none, audit := none, engine := none }

theorem ServerState.openUpload_eq {s : ServerState} {content : Bytes}
    (h : s.upload = some content) (opens : Bool) : s.openUpload opens = s := by
  cases s
  cases opens <;> simp_all [openUpload]

abbrev ServerM := EStateM Exn ServerState

/-- The calls of `openOrCreate` that can throw. -/
inductive OpenSite where
  | createDirectories
  | sqliteOpen
  | pragmas
  | initSchema
  | initAuditSchema
  deriving DecidableEq, Repr

/-- The outcomes that an import meets. -/
structure ImportEnv where
  write : CopyOutcome := .ok
  integrityOpens : Bool := true
  auditOpens : Bool := true
  backup : CopyOutcome := .ok
  replace : CopyOutcome := .ok
  throws : OpenSite → Option Exn := fun _ => none
  removes : Bool := true

structure ServerConfig where
  maxUploadBytes : Nat := 20 * 1024 * 1024
  currentKeyVersion : UInt32 := 1
  keyManager : KeyManager

/-- Of `ServiceResult`: the status and the error or message of the body. -/
structure ServiceResult where
  ok : Bool
  httpStatus : Nat
  text : String
  deriving DecidableEq, Repr

/-! ## Checks -/

section

variable [Sqlite]

def integrityVerdict (opens : Bool) (content : Bytes) : Except String Unit :=
  if opens = false then .error "sqlite_open failed"
  else
    match Sqlite.integrityCheck content with
    | .notPrepared => .error "prepare integrity_check failed"
    | .noRow => .error "integrity_check: no row"
    | .row text => if text = "ok" then .ok () else .error ("integrity_check: " ++ text)

def sqliteIntegrityOk (env : ImportEnv) : ServerM (Except String Unit) := do
  modify (·.openUpload env.integrityOpens)
  let s ← get
  return integrityVerdict env.integrityOpens (s.upload.getD [])

variable [Sodium]

def prepareOrThrow {α : Type} (rows : Option α) : Except Exn α :=
  match rows with
  | some rows => return rows
  | none => throw ⟨"sqlite prepare failed"⟩

/-- `verifyAuditChain` on a file that need not have the tables. -/
def verifyAuditFile (hmacKey : Hash32) (content : Bytes) : Except Exn AuditVerifyResult := do
  let query ← prepareOrThrow (Sqlite.auditLog content)
  match query.rows.foldlM (verifyStep hmacKey) {} with
  | .error res => return res
  | .ok state =>
    if query.failed then return { ok := false, error := "step failed" }
    else
      let anchor ← prepareOrThrow (Sqlite.auditAnchor content)
      return verifyAnchor { auditAnchor := anchor } state.lastEntry state.anyRows

/-- On a file with both tables it is the verifier of the running server. -/
theorem verifyAuditFile_eq (hmacKey : Hash32) {content : Bytes} {rows : List LogRow}
    {anchor : Option AnchorRow} (hlog : Sqlite.auditLog content = some { rows })
    (hanchor : Sqlite.auditAnchor content = some anchor) : verifyAuditFile hmacKey content =
      .ok (verifyAuditChain hmacKey { auditLog := rows, auditAnchor := anchor }) := by
  unfold verifyAuditFile verifyAuditChain
  rw [hlog, hanchor]
  change (match rows.foldlM (verifyStep hmacKey) {} with
    | .error res => _
    | .ok state => _) = _
  cases rows.foldlM (verifyStep hmacKey) {} with
  | error res => rfl
  | ok state => rfl

def auditVerdict (km : KeyManager) (opens : Bool) (content : Bytes) :
    Except Exn (Except String Unit) := do
  if opens = false then return .error "sqlite_open(uploaded) failed"
  else
    let key ← km.deriveAuditHmacKey
    let vr ← verifyAuditFile key content
    if vr.ok then return .ok ()
    else return .error ("verifyAuditChain failed: " ++ vr.error)

def verifyUploadedAuditChain (km : KeyManager) (env : ImportEnv) :
    ServerM (Except String Unit) := do
  modify (·.openUpload env.auditOpens)
  let s ← get
  lift (auditVerdict km env.auditOpens (s.upload.getD []))

/-! ## Import -/

/-- The copies report through one error code, so that of the backup is lost. -/
def replaceDbFile (env : ImportEnv) : ServerM (Except String Unit) := do
  modify fun s => { s with
    bak := if s.db.isSome then (copyFile env.backup s.db s.bak).1 else s.bak }
  let s ← get
  let (db, ec) := copyFile env.replace s.upload s.db
  modify ({ · with db })
  return match ec with
    | some message => .error ("failed to replace db: " ++ message)
    | none => .ok ()

def ImportEnv.check (env : ImportEnv) (site : OpenSite) : ServerM Unit :=
  match env.throws site with
  | some e => throw e
  | none => pure ()

/-- A component is replaced when its successor is complete. -/
def openOrCreate (sv : ServerConfig) (env : ImportEnv) : ServerM Unit := do
  env.check .createDirectories
  env.check .sqliteOpen
  modify fun s => { s with db := some (s.db.getD []), opened := s.opened + 1 }
  env.check .pragmas
  modify fun s => { s with db := s.db.map Sqlite.connect, store := some s.opened }
  env.check .initSchema
  modify fun s => { s with db := s.db.map Sqlite.initSchema }
  let _ ← lift sv.keyManager.deriveAuditHmacKey
  env.check .initAuditSchema
  modify fun s => { s with db := s.db.map Sqlite.initAuditSchema, audit := s.store }
  let _ ← lift (sv.keyManager.deriveCardPepper sv.currentKeyVersion)
  modify fun s => { s with engine := s.store }

/-- The part under the lock: it is released before the database is opened again. -/
def swapDbFile (env : ImportEnv) : ServerM (Except String Unit) := do
  modify ServerState.resetComponents
  replaceDbFile env

def reopen (sv : ServerConfig) (env : ImportEnv) : ServerM (Except String Unit) := do
  openOrCreate sv env
  return .ok ()

def importDbFile (sv : ServerConfig) (env : ImportEnv) : ServerM (Except String Unit) :=
  ifOk (sqliteIntegrityOk env) <|
    ifOk (verifyUploadedAuditChain sv.keyManager env) <|
      ifOk (swapDbFile env) <|
        reopen sv env

/-- The temporary file is removed and the request is answered. -/
def closeImport (env : ImportEnv) (ok : Except String Unit) : ServerM ServiceResult := do
  modify fun s => { s with upload := if env.removes then none else s.upload }
  match ok with
  | .error error =>
    return { ok := false, httpStatus := 400, text := "IMPORT FAILED: " ++ error }
  | .ok () =>
    return {
      ok := true
      httpStatus := 200
      text := "IMPORT OK (integrity + verify passed, DB swapped, reopened)" }

def importDatabase (sv : ServerConfig) (env : ImportEnv) (data : Bytes) :
    ServerM ServiceResult := do
  if sv.maxUploadBytes < data.length then
    return { ok := false, httpStatus := 413, text := "file too large" }
  else
    modify fun s => { s with upload := env.write.content data s.upload }
    let ok ← importDbFile sv env
    closeImport env ok

/-! ## The checks -/

omit [Sodium] in
theorem returns_sqliteIntegrityOk {env : ImportEnv} {s t : ServerState}
    {verdict : Except String Unit} : Returns (sqliteIntegrityOk env) s verdict t ↔
      verdict = integrityVerdict env.integrityOpens
        ((s.openUpload env.integrityOpens).upload.getD []) ∧
      t = s.openUpload env.integrityOpens := by
  simp [sqliteIntegrityOk, and_comm]

theorem returns_verifyUploadedAuditChain {km : KeyManager} {env : ImportEnv} {s t : ServerState}
    {verdict : Except String Unit} : Returns (verifyUploadedAuditChain km env) s verdict t ↔
      auditVerdict km env.auditOpens ((s.openUpload env.auditOpens).upload.getD []) = .ok verdict ∧
      t = s.openUpload env.auditOpens := by
  simp [verifyUploadedAuditChain, and_comm]

/-- Both checks succeed on the content. -/
def Accepted (sv : ServerConfig) (env : ImportEnv) (content : Bytes) : Prop :=
  integrityVerdict env.integrityOpens content = .ok () ∧
    auditVerdict sv.keyManager env.auditOpens content = .ok (.ok ())

/-! ## The swap -/

/-- Without its components, and with what arrives of the upload in the database file. -/
def ServerState.swapped (s : ServerState) (env : ImportEnv) : ServerState :=
  { s.resetComponents with
    bak := if s.db.isSome then (copyFile env.backup s.db s.bak).1 else s.bak
    db := (copyFile env.replace s.upload s.db).1 }

omit [Sqlite] [Sodium] in
theorem returns_swapDbFile {env : ImportEnv} {s t : ServerState} {verdict : Except String Unit} :
    Returns (swapDbFile env) s verdict t ↔ t = s.swapped env ∧
      verdict = match (copyFile env.replace s.upload s.db).2 with
        | some message => .error ("failed to replace db: " ++ message)
        | none => .ok () := by
  unfold swapDbFile replaceDbFile
  simp only [returns_bind, returns_modify, returns_get]
  constructor
  · rintro ⟨_, _, rfl, _, _, rfl, _, _, ⟨rfl, rfl⟩, _, _, rfl, hended⟩
    obtain ⟨rfl, rfl⟩ := returns_pure.mp hended
    exact ⟨rfl, rfl⟩
  · rintro ⟨rfl, rfl⟩
    exact ⟨⟨⟩, _, rfl, ⟨⟩, _, rfl, _, _, ⟨rfl, rfl⟩, ⟨⟩, _, rfl, returns_pure.mpr ⟨rfl, rfl⟩⟩

omit [Sqlite] [Sodium] in
theorem not_usable_swapped (s : ServerState) (env : ImportEnv) : ¬ (s.swapped env).Usable := by
  rintro ⟨connection, hstore, -⟩
  cases hstore

/-! ## Imports that fail -/

/-- An import that a check refuses has changed nothing. -/
theorem importDbFile_error_cases {sv : ServerConfig} {env : ImportEnv} {s t : ServerState}
    {content : Bytes} {error : String} (hupload : s.upload = some content)
    (h : Returns (importDbFile sv env) s (.error error) t) :
    t = s ∨ (Accepted sv env content ∧ Returns (swapDbFile env) s (.error error) t) := by
  unfold importDbFile at h
  obtain ⟨u, hintegrity, hrest⟩ | ⟨_, hintegrity, -⟩ := returns_ifOk.mp h
  · obtain ⟨hfirst, rfl⟩ := returns_sqliteIntegrityOk.mp hintegrity
    rw [ServerState.openUpload_eq hupload] at hfirst hrest
    obtain ⟨v, haudit, hswap⟩ | ⟨_, haudit, -⟩ := returns_ifOk.mp hrest
    · obtain ⟨hsecond, rfl⟩ := returns_verifyUploadedAuditChain.mp haudit
      rw [ServerState.openUpload_eq hupload] at hsecond hswap
      obtain ⟨w, -, hopen⟩ | ⟨e, hfailed, he⟩ := returns_ifOk.mp hswap
      · obtain ⟨_, _, -, hlast⟩ := returns_bind.mp hopen
        cases (returns_pure.mp hlast).1
      · cases he
        rw [hupload] at hfirst hsecond
        exact .inr ⟨⟨hfirst.symm, hsecond⟩, hfailed⟩
    · left
      rw [(returns_verifyUploadedAuditChain.mp haudit).2, ServerState.openUpload_eq hupload]
  · left
    rw [(returns_sqliteIntegrityOk.mp hintegrity).2, ServerState.openUpload_eq hupload]

theorem Accepted.returns_importDbFile {sv : ServerConfig} {env : ImportEnv} {s t : ServerState}
    {content : Bytes} {error : String} (h : Accepted sv env content)
    (hupload : s.upload = some content) (hswap : Returns (swapDbFile env) s (.error error) t) :
    Returns (importDbFile sv env) s (.error error) t := by
  have hopen := ServerState.openUpload_eq hupload
  refine returns_ifOk.mpr (.inl ⟨s, ?_, returns_ifOk.mpr (.inl ⟨s, ?_, ?_⟩)⟩)
  · refine returns_sqliteIntegrityOk.mpr ⟨?_, (hopen _).symm⟩
    rw [hopen, hupload]
    exact h.1.symm
  · refine returns_verifyUploadedAuditChain.mpr ⟨?_, (hopen _).symm⟩
    rw [hopen, hupload]
    exact h.2
  · exact returns_ifOk.mpr (.inr ⟨error, hswap, rfl⟩)

/-- A failed import leaves the server as it was, exactly when the upload is refused by a check
or the copy over the database succeeds. -/
theorem import_failed_unchanged_iff (sv : ServerConfig) (env : ImportEnv) {s : ServerState}
    {content : Bytes} (husable : s.Usable) (hupload : s.upload = some content) :
    (∀ error t, Returns (importDbFile sv env) s (.error error) t → t.Usable ∧ t.db = s.db) ↔
      (Accepted sv env content → env.replace.error = none) := by
  constructor
  · intro h haccepted
    by_contra hfailed
    obtain ⟨message, hmessage⟩ := Option.ne_none_iff_exists'.mp hfailed
    have hswap : Returns (swapDbFile env) s (.error ("failed to replace db: " ++ message))
        (s.swapped env) := by
      refine returns_swapDbFile.mpr ⟨rfl, ?_⟩
      simp [copyFile, hupload, hmessage]
    exact not_usable_swapped s env (h _ _ (haccepted.returns_importDbFile hupload hswap)).1
  · intro h error t hreturns
    obtain rfl | ⟨haccepted, hswap⟩ := importDbFile_error_cases hupload hreturns
    · exact ⟨husable, rfl⟩
    · have hended := (returns_swapDbFile.mp hswap).2
      simp [copyFile, hupload, h haccepted] at hended

omit [Sqlite] [Sodium] in
theorem returns_check {env : ImportEnv} {site : OpenSite} {s t : ServerState} {u : Unit} :
    Returns (env.check site) s u t ↔ env.throws site = none ∧ t = s := by
  unfold ImportEnv.check
  cases env.throws site <;> simp

/-- When the database is opened all components are built on the new connection. -/
theorem openOrCreate_usable {sv : ServerConfig} {env : ImportEnv} {s t : ServerState}
    (h : Returns (openOrCreate sv env) s () t) : t.Usable := by
  unfold openOrCreate at h
  simp only [returns_bind, returns_check, returns_modify, returns_lift] at h
  obtain ⟨-, s₁, ⟨-, rfl⟩, -, s₂, ⟨-, rfl⟩, -, s₃, rfl, -, s₄, ⟨-, rfl⟩, -, s₅, rfl, h⟩ := h
  obtain ⟨-, s₆, ⟨-, rfl⟩, -, s₇, rfl, _, s₈, ⟨-, rfl⟩, -, s₉, ⟨-, rfl⟩, -, s₁₀, rfl, h⟩ := h
  obtain ⟨_, s₁₁, ⟨-, rfl⟩, rfl⟩ := h
  exact ⟨_, rfl, rfl, rfl⟩

end

/-! ## An upload -/

/-- A page of 512 bytes: the cells stand at its end. -/
def page (start cells : Bytes) : Bytes :=
  start ++ List.replicate (512 - start.length - cells.length) 0 ++ cells

/-- An SQLite file of three pages: the schema, an empty `audit_log`, and an `audit_anchor`
whose row holds 32 zero bytes. -/
def sampleImage : Bytes :=
  page
      (bytesOf "SQLite format 3" ++ [0, 2, 0, 1, 1, 0, 64, 32, 32, 0, 0, 0, 4, 0, 0, 0, 3] ++
        List.replicate 11 0 ++ [3, 0, 0, 0, 4] ++ List.replicate 11 0 ++ [1] ++
        List.replicate 35 0 ++ [4, 0, 46, 122, 112, 13, 0, 0, 0, 2, 0, 239, 0, 1, 92, 0, 239])
      ([107, 2, 7, 23, 37, 37, 1, 129, 25] ++ bytesOf "tableaudit_anchoraudit_anchor" ++ [3] ++
        bytesOf "CREATE TABLE audit_anchor(id INTEGER PRIMARY KEY,last_hash,updated_ts)" ++
        [129, 33, 1, 7, 23, 31, 31, 1, 130, 17] ++ bytesOf "tableaudit_logaudit_log" ++ [2] ++
        bytesOf "CREATE TABLE audit_log(id INTEGER PRIMARY KEY,ts_unix_ms,reader_id,door_id,seq," ++
        bytesOf "allow,reason,card_hmac,action,prev_hash,entry_hash)") ++
    page [13, 0, 0, 0, 0, 2] [] ++
    page [13, 0, 0, 0, 1, 1, 218, 0, 1, 218] ([36, 1, 4, 0, 76, 8] ++ List.replicate 32 0)

/-- On the sample this is what SQLite answers; everything else is not a database. -/
@[reducible] def Sqlite.sample : Sqlite where
  integrityCheck content := if content = sampleImage then .row "ok" else .notPrepared
  auditLog content := if content = sampleImage then some { rows := [] } else none
  auditAnchor content :=
    if content = sampleImage then some (some { lastHash := some (zeros 32).toList, updatedTs := 0 })
    else none
  auditLog_nil := by decide +kernel
  connect content := content
  initSchema content := content
  initAuditSchema content := content

/-- A server on the sample database, with an upload beside it. -/
def sampleServer (upload : Bytes) : ServerState where
  db := some sampleImage
  upload := some upload
  opened := 1
  store := some 1
  audit := some 1
  engine := some 1

theorem sampleServer_usable (upload : Bytes) : (sampleServer upload).Usable :=
  ⟨1, rfl, rfl, rfl⟩

def sampleConfig : ServerConfig where
  keyManager := ⟨zeros 32⟩

/-- The device is full after this many bytes. -/
def stopsAfter (n : Nat) : ImportEnv where
  replace := .failed "No space left on device" (some n)

theorem sampleImage_accepted (env : ImportEnv) (hintegrity : env.integrityOpens = true)
    (haudit : env.auditOpens = true) :
    letI : Sqlite := .sample
    letI : Sodium := .trailing
    Accepted sampleConfig env sampleImage := by
  let _ : Sqlite := .sample
  let _ : Sodium := .trailing
  constructor
  · rw [hintegrity]
    decide +kernel
  · rw [haudit]
    decide +kernel

/-- An upload that is not a database is refused, and no copy is made. -/
theorem import_failed_unchanged_iff_refused :
    letI : Sqlite := .sample
    letI : Sodium := .trailing
    ∃ t, Returns (importDbFile sampleConfig (stopsAfter 512)) (sampleServer [])
      (.error "prepare integrity_check failed") t ∧ t.Usable ∧ t.db = some sampleImage := by
  let _ : Sqlite := .sample
  let _ : Sodium := .trailing
  have hverdict : integrityVerdict (stopsAfter 512).integrityOpens [] =
      .error "prepare integrity_check failed" := by decide +kernel
  have hrefused : Returns (importDbFile sampleConfig (stopsAfter 512)) (sampleServer [])
      (.error "prepare integrity_check failed") (sampleServer []) := by
    refine returns_ifOk.mpr (.inr ⟨_, returns_sqliteIntegrityOk.mpr ⟨hverdict.symm, ?_⟩, rfl⟩)
    exact (ServerState.openUpload_eq rfl _).symm
  refine ⟨_, hrefused, (import_failed_unchanged_iff sampleConfig _ (sampleServer_usable _) rfl).mpr
    ?_ _ _ hrefused⟩
  rintro ⟨haccepted, -⟩
  rw [hverdict] at haccepted
  cases haccepted

/-- The upload passes both checks, but only its first page is written. -/
theorem import_failed_halfway :
    letI : Sqlite := .sample
    letI : Sodium := .trailing
    (sampleServer sampleImage).Usable ∧
      ∃ t, Returns (importDbFile sampleConfig (stopsAfter 512)) (sampleServer sampleImage)
          (.error "failed to replace db: No space left on device") t ∧
        ¬ t.Usable ∧ t.db = some (sampleImage.take 512) ∧
        t.db ≠ (sampleServer sampleImage).db := by
  let _ : Sqlite := .sample
  let _ : Sodium := .trailing
  have hswap : Returns (swapDbFile (stopsAfter 512)) (sampleServer sampleImage)
      (.error "failed to replace db: No space left on device")
      ((sampleServer sampleImage).swapped (stopsAfter 512)) := returns_swapDbFile.mpr ⟨rfl, rfl⟩
  have hne : some (sampleImage.take 512) ≠ some sampleImage := by decide +kernel
  exact ⟨sampleServer_usable _, _, (sampleImage_accepted _ rfl rfl).returns_importDbFile rfl hswap,
    not_usable_swapped _ _, rfl, hne⟩

end AccessSecurity.Admin
