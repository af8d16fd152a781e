import AccessSecurity.Decision.Auditing
import AccessSecurity.Storage.Truncation

/-!
# An untampered log

The database of a server over any number of starts and of frames, and nothing else. The
writer hashes an event as it is given and the verifier as it is read back; no text of an
event of the engine has a NUL byte (`emitted_no_nul`), so the two are the same. Together
with the anchor at the end of the chain this is an invariant (`Sound`), under which the log
verifies (`untampered_verifies`).
-/

namespace AccessSecurity.Storage

open Foundation Foundation.HashChain Protocol Crypto Core Decision

/-! ## Sound databases -/

section

variable [Sodium]

/-- The table holds the chain of these events, which are read back as they were given, and
the anchor is its end. -/
structure Sound (key : Hash32) (db : AuditDb) (as : List AuditEvent) : Prop where
  stores : Stores db (chainOf (computeEntryHash key) (zeros 32) as)
  anchor : db.anchor = some (endHash (zeros 32) (chainOf (computeEntryHash key) (zeros 32) as))
  noNul : ∀ a ∈ as, ¬ HasNul a

variable {key : Hash32} {db : AuditDb} {as : List AuditEvent}

theorem Sound.verifies (h : Sound key db as) : (verifyAuditChain key db).ok = true := by
  rw [verify_stored_iff h.stores (linked_chainOf _ _) h.anchor]
  intro e he
  rw [asRead_eq_self.mpr (h.noNul _ (body_mem_of_mem_chainOf he))]

theorem Sound.anchor_row (h : Sound key db as) : db.auditAnchor.isSome = true := by
  obtain ⟨row, hrow, -⟩ := Option.bind_eq_some_iff.mp h.anchor
  simp [hrow]

theorem sound_initSchema_empty (key : Hash32) : Sound key (SqliteAuditLog.initSchema {}) [] where
  stores := rfl
  anchor := by simp [AuditDb.anchor, SqliteAuditLog.initSchema, chainOf]
  noNul := by simp

/-- A restart finds the anchor and leaves it alone. -/
theorem Sound.initSchema (h : Sound key db as) : Sound key (SqliteAuditLog.initSchema db) as := by
  obtain ⟨row, hrow⟩ := Option.isSome_iff_exists.mp h.anchor_row
  have hsame : SqliteAuditLog.initSchema db = db := by
    cases db
    simp_all [SqliteAuditLog.initSchema]
  rwa [hsame]

theorem Sound.append (h : Sound key db as) {e : AuditEvent} (hno : ¬ HasNul e) :
    ∃ db', SqliteAuditLog.append ⟨key, true⟩ e db = .ok db' ∧ Sound key db' (as ++ [e]) := by
  have hchain : (⟨key, true⟩ : SqliteAuditLog).chainEnabled = true := rfl
  obtain ⟨db', happend, hstores, -, hanchor⟩ := append_stores hchain h.stores h.anchor_row e
  refine ⟨db', happend, ?_, ?_, ?_⟩
  · rw [chainOf_snoc]
    exact hstores
  · rw [chainOf_snoc, endHash_snoc]
    exact hanchor
  · intro a ha
    rcases List.mem_append.mp ha with ha | ha
    · exact h.noNul a ha
    · rwa [List.mem_singleton.mp ha]

theorem Sound.appendAll (h : Sound key db as) {es : List AuditEvent} (hno : ∀ e ∈ es, ¬ HasNul e) :
    ∃ db', SqliteAuditLog.appendAll ⟨key, true⟩ es db = .ok db' ∧ Sound key db' (as ++ es) := by
  induction es generalizing db as with
  | nil => exact ⟨db, rfl, by simpa using h⟩
  | cons e es ih =>
    obtain ⟨mid, hmid, hsound⟩ := h.append (hno e (.head _))
    obtain ⟨db', hdb', hsound'⟩ := ih hsound fun a ha => hno a (.tail _ ha)
    refine ⟨db', ?_, by simpa using hsound'⟩
    rw [SqliteAuditLog.appendAll, List.foldlM_cons, hmid]
    exact hdb'

end

/-! ## Events of the engine -/

theorem zero_notMem_code {reason : String} (h : reason ∈ Engine.decisionCodes) :
    0 ∉ bytesOf reason := by
  have hall : ∀ code ∈ Engine.decisionCodes, 0 ∉ bytesOf code := by decide +kernel
  exact hall reason h

section

variable [Sodium] {en : Engine}

theorem no_nul_of_truthful {header : Header} {r : DecisionResult} {ev : AuditEvent}
    (h : en.Truthful header r ev) : ¬ HasNul ev := by
  rintro (hreason | hcard | haction)
  · rw [h.eq] at hreason
    exact zero_notMem_code h.reason hreason
  · rcases h.card with hempty | ⟨keyVersion, card, hhmac⟩
    · simp [hempty] at hcard
    · rw [hhmac] at hcard
      exact CardIdHasher.zero_notMem_toHex _ hcard
  · rcases h.action with hempty | hopen
    · simp [hempty] at haction
    · rw [hopen] at haction
      exact absurd haction (by decide +kernel)

variable [JsonLib]

/-- The events that the engine appends while it processes a frame. -/
def emitted (en : Engine) (env : Env) (s : EngineState) (frameBytes : Bytes) : List AuditEvent :=
  appended EngineState.audit (en.handleFrameBytes env frameBytes) s

theorem emitted_no_nul (env : Env) (s : EngineState) (frameBytes : Bytes) :
    ∀ ev ∈ emitted en env s frameBytes, ¬ HasNul ev := by
  intro ev hev
  unfold emitted at hev
  have hrecords := Engine.handleFrameBytes_records en env frameBytes
  rcases hrecords.appended_cases s with hnone | ⟨r, t, -, entry, htruth, hes⟩
  · simp [hnone] at hev
  · have hentry : ev = entry := by
      rw [hes, Engine.logged] at hev
      split_ifs at hev
      · exact List.mem_singleton.mp hev
      · cases hev
    rw [hentry]
    exact no_nul_of_truthful htruth

/-! ## Runs -/

/-- What happens to the database: a server is started, or it processes a frame, with
whatever configuration, tables, faults and state. -/
inductive Activity where
  | start
  | frame (en : Engine) (env : Env) (s : EngineState) (frameBytes : Bytes)

namespace SqliteAuditLog

def serve (log : SqliteAuditLog) (db : AuditDb) : Activity → Except Exn AuditDb
  | .start => return initSchema db
  | .frame en env s frameBytes => log.appendAll (emitted en env s frameBytes) db

def serveAll (log : SqliteAuditLog) (activities : List Activity) (db : AuditDb) :
    Except Exn AuditDb :=
  activities.foldlM log.serve db

end SqliteAuditLog

variable {key : Hash32}

theorem Sound.serve {db : AuditDb} {as : List AuditEvent} (h : Sound key db as)
    (activity : Activity) :
    ∃ db' as', SqliteAuditLog.serve ⟨key, true⟩ db activity = .ok db' ∧ Sound key db' as' := by
  cases activity with
  | start => exact ⟨_, as, rfl, h.initSchema⟩
  | frame en env s frameBytes =>
    obtain ⟨db', hdb', hsound⟩ := h.appendAll (emitted_no_nul env s frameBytes)
    exact ⟨db', _, hdb', hsound⟩

theorem Sound.serveAll {db : AuditDb} {as : List AuditEvent} (h : Sound key db as)
    (activities : List Activity) :
    ∃ db' as', SqliteAuditLog.serveAll ⟨key, true⟩ activities db = .ok db' ∧
      Sound key db' as' := by
  induction activities generalizing db as with
  | nil => exact ⟨db, as, rfl, h⟩
  | cons activity activities ih =>
    obtain ⟨mid, _, hmid, hsound⟩ := h.serve activity
    obtain ⟨db', as', hdb', hsound'⟩ := ih hsound
    refine ⟨db', as', ?_, hsound'⟩
    rw [SqliteAuditLog.serveAll, List.foldlM_cons, hmid]
    exact hdb'

/-- A run starts with a server start on the empty database. Whatever follows, no append
fails and the log verifies; as every prefix of a run is a run, it does so after every step. -/
theorem untampered_verifies (key : Hash32) (activities : List Activity) :
    ∃ db, SqliteAuditLog.serveAll ⟨key, true⟩ (.start :: activities) {} = .ok db ∧
      (verifyAuditChain key db).ok = true := by
  obtain ⟨db, as, hserve, hsound⟩ := (sound_initSchema_empty key).serveAll activities
  exact ⟨db, hserve, hsound.verifies⟩

end

/-- A grant, a restart and an empty input make a log of two entries. -/
example :
    letI : Sodium := .transparent
    letI : JsonLib := .requests
    (sampleLog.serveAll [.start, .frame .permissive .quiet .initial (serialize Engine.knock),
      .start, .frame .permissive .quiet .initial []] {}).toOption.map
        (fun db => db.auditLog.map fun row => (row.readerId, row.reason)) =
      some [(7, some (bytesOf "ok")), (0, some (bytesOf "frame_too_small"))] := by
  decide +kernel

end AccessSecurity.Storage
