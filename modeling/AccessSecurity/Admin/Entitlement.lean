import AccessSecurity.Admin.CriticalSections
import AccessSecurity.Admin.HonestReaders
import AccessSecurity.Admin.Restart
import AccessSecurity.Decision.Mediation
import AccessSecurity.Foundation.TwoRuns
import AccessSecurity.Storage.ReaderTables
import AccessSecurity.Storage.RoleTables

/-!
# Entitlement

What the operations that administrators have performed say about a card at a reader and a door
(`Entitled`), in terms of what was done last and not taken back since. A scan in flight is granted
exactly when this history entitles its card at the moment of the decision, whatever ran between
the two sections of the scan, and the engine has nothing against its frame
(`scan_granted_iff`).
-/

namespace AccessSecurity.Admin

open Foundation Protocol Crypto Core Decision Storage

/-! ## By history -/

/-- The last operation on the row of the HMAC wrote this role into it. -/
def Enrolled (ops : List StoreOp) (cardHmac role : Bytes) : Prop :=
  ∃ card written, cString card = cardHmac ∧ cString written = role ∧
    Since (fun _ op => op = .upsertCardHmac card written) (Overwrites cardHmac) ops

/-- The role was allowed on the door and has not been revoked since. -/
def AllowedSince (ops : List StoreOp) (door : UInt32) (role : Bytes) : Prop :=
  ∃ granted, cString granted = role ∧
    Since (fun _ op => op = .allowRole door granted) (· = .revokeRole door role) ops

section

variable [Sodium]

/-- The role of a card at a reader of key version `cur`: that of the row under this version, or
else, where this is allowed, under the one before. -/
def HoldsRole (srv : Server) (ops : List StoreOp) (cur : UInt32) (cardId role : Bytes) : Prop :=
  if srv.cfg.experiment.pepperMode = "static" then
    Enrolled ops (srv.keyManager.cardHmac 1 cardId) role
  else
    Enrolled ops (srv.keyManager.cardHmac cur cardId) role ∨
      ((∀ role', ¬ Enrolled ops (srv.keyManager.cardHmac cur cardId) role') ∧
        srv.cfg.frameHandler.allowPreviousKeyVersion = true ∧ 1 < cur.toNat ∧
        Enrolled ops (srv.keyManager.cardHmac (cur - 1) cardId) role)

/-- The operations performed entitle the card of a request at its reader, whose key version is
`cur`, and its door. -/
structure Entitled (srv : Server) (ops : List StoreOp) (req : HwUidRequest) (cur : UInt32) :
    Prop where
  registered : LastUpsert ops req.readerId cur
  positive : cur ≠ 0
  small : cur.toNat < 2 ^ 31
  bound : srv.cfg.frameHandler.enforceReaderDoorBinding = true →
    GrantedSince ops req.readerId req.doorId
  role : ∃ role, HoldsRole srv ops cur req.uid role ∧ AllowedSince ops req.doorId role

/-! ## The tables answer by history -/

omit [Sodium] in
theorem currentKeyVersion_run_iff (ops : List StoreOp) (reader : UInt32) {cur : UInt32}
    (hne : cur ≠ 0) :
    SqliteAccessStore.currentKeyVersionForReader reader (run StoreOp.step .empty ops) = cur ↔
      LastUpsert ops reader cur ∧ cur.toNat < 2 ^ 31 := by
  rw [(represents_run ops).currentKeyVersion, ← ReaderMap.version_run]
  cases (run ReaderMap.step .empty ops).version reader with
  | none => simp [hne.symm]
  | some keyVersion =>
    simp only [Option.some.injEq]
    split_ifs with hlarge
    · refine iff_of_false hne.symm ?_
      rintro ⟨rfl, hsmall⟩
      omega
    · constructor
      · rintro rfl
        exact ⟨rfl, by omega⟩
      · exact fun h => h.1

omit [Sodium] in
theorem isReaderAllowedDoor_run_iff (ops : List StoreOp) (reader door : UInt32) :
    SqliteAccessStore.isReaderAllowedDoor reader door (run StoreOp.step .empty ops) = true ↔
      GrantedSince ops reader door := by
  rw [SqliteAccessStore.isReaderAllowedDoor, decide_eq_true_eq, (represents_run ops).doors,
    ReaderMap.mem_doors_run]

omit [Sodium] in
theorem enrolled_iff (ops : List StoreOp) (cardHmac role : Bytes) :
    Enrolled ops cardHmac role ↔
      (run StoreOp.step .empty ops).answers.roleForCardHmac cardHmac = some role :=
  (roleForCardHmac_run_iff ops cardHmac role).symm

theorem holdsRole_iff (srv : Server) (ops : List StoreOp) (cur : UInt32) (cardId role : Bytes) :
    HoldsRole srv ops cur cardId role ↔
      (srv.app (run StoreOp.step .empty ops)).engine.HasRole
        (run StoreOp.step .empty ops).answers cur cardId role := by
  have hnone : ∀ {x : Option Bytes}, x = none ↔ ∀ role, ¬ x = some role := by
    intro x
    cases x <;> simp
  unfold HoldsRole Engine.HasRole
  simp only [enrolled_iff, hnone]
  rfl

/-- The history entitles exactly those that the tables entitle. -/
theorem entitled_iff (srv : Server) (ops : List StoreOp) (req : HwUidRequest) (cur : UInt32) :
    Entitled srv ops req cur ↔
      SqliteAccessStore.currentKeyVersionForReader req.readerId (run StoreOp.step .empty ops) =
          cur ∧ cur ≠ 0 ∧
        (srv.cfg.frameHandler.enforceReaderDoorBinding = true →
          SqliteAccessStore.isReaderAllowedDoor req.readerId req.doorId
            (run StoreOp.step .empty ops) = true) ∧
        ∃ role, (srv.app (run StoreOp.step .empty ops)).engine.HasRole
            (run StoreOp.step .empty ops).answers cur req.uid role ∧
          SqliteAccessStore.isAllowed req.doorId role (run StoreOp.step .empty ops) = true := by
  simp only [← holdsRole_iff, isReaderAllowedDoor_run_iff, isAllowed_run_iff]
  constructor
  · intro h
    exact ⟨(currentKeyVersion_run_iff ops _ h.positive).mpr ⟨h.registered, h.small⟩, h.positive,
      h.bound, h.role⟩
  · rintro ⟨hcur, hne, hbound, hrole⟩
    obtain ⟨hregistered, hsmall⟩ := (currentKeyVersion_run_iff ops _ hne).mp hcur
    exact ⟨hregistered, hne, hsmall, hbound, hrole⟩

/-! ## One decision -/

variable [JsonLib]

/-- The engine has nothing against the frame of a flight when the reader has key version `cur`. -/
structure Presentable (srv : Server) (s : EngineState) (now : UInt64) (flight : Flight)
    (cur : UInt32) : Prop where
  keyVersion : flight.kv = cur ∨ (srv.cfg.frameHandler.allowPreviousKeyVersion = true ∧
    1 < cur.toNat ∧ flight.kv.toNat + 1 = cur.toNat)
  fresh : srv.cfg.frameHandler.antiReplayEnabled = true →
    s.windows.contains flight.scan.req.readerId flight.scan.req.hwSeq = false
  inTime : srv.cfg.frameHandler.maxSkewMs ≠ 0 →
    ((now.toNat : Int) - (flight.scan.env.now .hwTimestamp).toNat).natAbs ≤
      srv.cfg.frameHandler.maxSkewMs.toNat
  fits : ∀ payload, buildPayloadJson flight.scan.req.uid flight.scan.req.action = .ok payload →
    payload.length ≤ srv.cfg.frameHandler.maxCtLen.toNat
  notQuarantined : srv.cfg.experiment.misuseDetectionEnabled = true →
    s.readers.isQuarantined flight.scan.req.readerId = false
  noRollback : srv.cfg.experiment.misuseDetectionEnabled = true → 0 < flight.scan.req.hwSeq →
    (s.readers.getState flight.scan.req.readerId).rollsBack (srv.app .empty).engine.config
      flight.scan.req.hwSeq = false

section

variable (hopen : OpenInvertsSeal) (hjson : RequestsRoundTrip) {srv : Server} {db : AccessDb}
  {flight : Flight} (hbuilt : buildEncryptedFrameBytes srv.keyManager
    ((srv.app .empty).sendRequest flight.scan flight.kv) = .ok flight.frameBytes)
  (huid : ValidUtf8 flight.scan.req.uid) (haction : ValidUtf8 flight.scan.req.action)

include hopen hjson hbuilt huid haction

/-- What authorizes a frame that the server has built, in terms of the scan. -/
theorem authorized_flight_iff {now : ClockSite → UInt64} {s : EngineState} :
    (∃ frame store plaintext members cardId role, (srv.app db).engine.Authorized now s
        flight.frameBytes frame store plaintext members cardId role) ↔
      flight.scan.req.action = bytesOf "open" ∧ flight.scan.req.uid ≠ [] ∧
      ∃ cur, SqliteAccessStore.currentKeyVersionForReader flight.scan.req.readerId db = cur ∧
        cur ≠ 0 ∧
        (srv.cfg.frameHandler.enforceReaderDoorBinding = true →
          SqliteAccessStore.isReaderAllowedDoor flight.scan.req.readerId flight.scan.req.doorId
            db = true) ∧
        (∃ role, (srv.app db).engine.HasRole db.answers cur flight.scan.req.uid role ∧
          SqliteAccessStore.isAllowed flight.scan.req.doorId role db = true) ∧
        Presentable srv s (now .skewCheck) flight cur := by
  obtain ⟨payload, hpayload, hframe⟩ := SendRequest.build_ok_iff.mp hbuilt
  obtain ⟨text, hdump, hparsed⟩ := hjson _ _ huid haction
  obtain rfl : payload = text := Except.ok.inj (hpayload.symm.trans hdump)
  have hshared : SharedModes (srv.app db).engine srv.keyManager
      ((srv.app .empty).sendRequest flight.scan flight.kv) := (srv.app db).sharedModes _ _
  have hopens := hshared.opens hopen payload
  have hopenne : bytesOf "open" ≠ [] := by decide
  constructor
  · rintro ⟨frame, store, plaintext, members, cardId, role, hauth⟩
    obtain ⟨hparse, hpasses, ⟨hobject, ⟨hcard, hcardne⟩, hact⟩, ⟨hrole, hallowed⟩, hcleared⟩ :=
      Engine.authorized_iff.mp hauth
    rw [hframe] at hparse
    obtain ⟨rfl, hlength⟩ := parseFrame_frame_iff.mp hparse
    obtain rfl : db.answers = store := Option.some.inj hpasses.store_eq
    obtain rfl : payload = plaintext := Option.some.inj (hopens.symm.trans hpasses.opens)
    have hrequest : parseAccessRequestJson payload = .ok ⟨cardId, bytesOf "open"⟩ :=
      parseAccessRequestJson_ok_iff.mpr ⟨members, hobject, hcard, hact, hcardne, hopenne⟩
    obtain ⟨heq, huidne, -⟩ := (parseAccessRequestJson_of_roundTrip hparsed).mp hrequest
    obtain ⟨rfl, hopenact⟩ := AccessRequest.mk.inj heq
    refine ⟨hopenact.symm, huidne, _, rfl, hpasses.registered, hpasses.bound,
      ⟨role, hrole, hallowed⟩, ?_⟩
    refine ⟨FrameHandler.keyOk_iff.mp hpasses.keyVersion, hpasses.fresh,
      FrameHandler.skew_eq_none_iff.mp hpasses.inTime, fun payload' hpayload' => ?_,
      fun hactive => (hcleared hactive).notQuarantined,
      fun hactive => (hcleared hactive).noRollback⟩
    obtain rfl : payload = payload' := Except.ok.inj (hpayload.symm.trans hpayload')
    exact hlength
  · rintro ⟨hact, hne, cur, rfl, hregistered, hbound, ⟨role, hrole, hallowed⟩, hpresentable⟩
    have hrequest : parseAccessRequestJson payload = .ok ⟨flight.scan.req.uid, bytesOf "open"⟩ :=
      (parseAccessRequestJson_of_roundTrip hparsed).mpr
        ⟨by rw [hact], hne, hact ▸ hopenne⟩
    obtain ⟨members, hobject, hcard, hactAt, hcardne, -⟩ :=
      parseAccessRequestJson_ok_iff.mp hrequest
    refine ⟨((srv.app .empty).sendRequest flight.scan flight.kv).frame srv.keyManager payload,
      db.answers, payload, members, flight.scan.req.uid, role, Engine.authorized_iff.mpr
        ⟨?_, ?_, ⟨hobject, ⟨hcard, hcardne⟩, hactAt⟩, ⟨hrole, hallowed⟩, fun hactive => ?_⟩⟩
    · rw [hframe]
      exact parseFrame_frame_iff.mpr ⟨rfl, hpresentable.fits payload hpayload⟩
    · exact ⟨rfl, hregistered, hbound, FrameHandler.keyOk_iff.mpr hpresentable.keyVersion,
        hpresentable.fresh, hopens, FrameHandler.skew_eq_none_iff.mpr hpresentable.inTime⟩
    · refine ⟨hpresentable.notQuarantined hactive, hpresentable.noRollback hactive, fun hmode => ?_⟩
      exact congrArg (fun nonce : ByteArr 24 => nonce.toList.take _)
        (hshared.nonceFor_eq hmode).symm

end

/-! ## Any interleaving -/

/-- The strings that the JSON library reads are valid UTF-8. -/
def ParsesUtf8 : Prop :=
  ∀ text j key s, JsonLib.parse text = .ok j → (Json.member j key).bind Json.getString = some s →
    ValidUtf8 s

variable [JsonIntegers]

omit [Sodium] [JsonLib] in
/-- The card and the action of a request are strings of its body, or the default. -/
theorem strings_of_request {j : Json} {req : HwUidRequest} (h : parseHwUidRequest j = some req) :
    (∃ key, (j.member key).bind Json.getString = some req.uid) ∧
      ((j.member "action").bind Json.getString = some req.action ∨
        req.action = bytesOf "open") := by
  unfold parseHwUidRequest at h
  cases huid : j.member "uid" <;> cases haction : j.member "action"
  all_goals
    simp [huid, haction, Option.bind_eq_some_iff] at h
    grind

theorem validUtf8_of_admitted (hutf8 : ParsesUtf8) {secret : Bytes} {request : SignedRequest}
    {req : HwUidRequest} (h : admitHwUid secret request = .ok req) :
    ValidUtf8 req.uid ∧ ValidUtf8 req.action := by
  unfold admitHwUid at h
  split at h
  · cases h
  split at h
  · cases h
  rename_i j hparse
  split at h
  · cases h
  rename_i parsed hreq
  split_ifs at h
  obtain rfl : parsed = req := Except.ok.inj h
  obtain ⟨⟨key, huid⟩, haction⟩ := strings_of_request hreq
  refine ⟨hutf8 _ j key _ hparse huid, ?_⟩
  rcases haction with haction | haction
  · exact hutf8 _ j "action" _ hparse haction
  · exact ⟨"open", haction.symm⟩

omit [JsonIntegers] in
/-- Without database faults a decision is answered. -/
theorem decideFlight_total {env : Env} (henv : env.NoFault) (app : AppState) (flight : Flight)
    (s : EngineState) : Total (app.decideFlight env flight) s :=
  total_bind (Engine.handleFrameBytes_total _ henv _ _) fun _ _ _ => total_pure _ _

section

variable (hopen : OpenInvertsSeal) (hjson : RequestsRoundTrip) (hutf8 : ParsesUtf8)

include hopen hjson hutf8

/-- A decision about what was launched, on tables that have the history `ops`. -/
theorem Server.Launched.granted_iff {srv : Server} {before ops : List StoreOp} {call : HwCall}
    {flight : Flight} (hlaunched : Server.Launched srv before call flight) {env : Env}
    {s t : EngineState} {resp : HwResponse}
    (h : Returns ((srv.app (run StoreOp.step .empty ops)).decideFlight env flight) s resp t) :
    resp.allow = true ↔ flight.scan.req.action = bytesOf "open" ∧ flight.scan.req.uid ≠ [] ∧
      ∃ cur, Entitled srv ops flight.scan.req cur ∧
        Presentable srv s (env.now .skewCheck) flight cur := by
  obtain ⟨req, hadm, hscan⟩ := hlaunched.admitted
  obtain ⟨huid, haction⟩ := validUtf8_of_admitted hutf8 hadm
  simp only [AppState.decideFlight, returns_bind, returns_pure] at h
  obtain ⟨r, _, hcall, rfl, rfl⟩ := h
  rw [Engine.allow_iff_authorized hcall, authorized_flight_iff hopen hjson hlaunched.built
    (by rwa [hscan]) (by rwa [hscan])]
  simp only [entitled_iff, and_assoc]

end

end

/-! ## What does not matter -/

theorem lookup_readers_step (db : AccessDb) (op : StoreOp) (reader : UInt32) (column : Int64) :
    (op.step db).readers.lookup (bindInt reader) = some column ↔
      (∃ keyVersion, op = .upsertReader reader keyVersion ∧ bindInt keyVersion = column) ∨
        (db.readers.lookup (bindInt reader) = some column ∧ ¬ SetsVersion reader op) := by
  unfold SetsVersion
  cases op with
  | upsertReader r keyVersion =>
    simp only [StoreOp.step, StoreOp.exec, SqliteAccessStore.upsertReader]
    by_cases hr : reader = r
    · subst hr
      simp
    · have hne : bindInt reader ≠ bindInt r := by simpa using hr
      rw [AList.lookup_insert_ne hne]
      grind
  | deleteReader r =>
    simp only [StoreOp.step, StoreOp.exec, SqliteAccessStore.deleteReader]
    by_cases hr : reader = r
    · subst hr
      simp
    · have hne : bindInt reader ≠ bindInt r := by simpa using hr
      rw [AList.lookup_erase_ne hne]
      grind
  | allowDoorForReader r d =>
    simp only [StoreOp.step, StoreOp.exec, SqliteAccessStore.allowDoorForReader]
    split_ifs <;> simp
  | _ => simp [StoreOp.step, StoreOp.exec, SqliteAccessStore.upsertCardHmac,
      SqliteAccessStore.deleteCardHmac, SqliteAccessStore.allowRole, SqliteAccessStore.revokeRole,
      SqliteAccessStore.revokeDoorForReader]

theorem mem_readerDoors_step (db : AccessDb) (op : StoreOp) (reader door : UInt32) :
    (bindInt reader, bindInt door) ∈ (op.step db).readerDoors ↔
      (op = .allowDoorForReader reader door ∧
        ∃ column, db.readers.lookup (bindInt reader) = some column) ∨
      ((bindInt reader, bindInt door) ∈ db.readerDoors ∧
        ¬ (op = .deleteReader reader ∨ op = .revokeDoorForReader reader door)) := by
  cases op with
  | allowDoorForReader r d =>
    have hmem : (∃ column, db.readers.lookup (bindInt reader) = some column) ↔
        bindInt reader ∈ db.readers := by
      rw [← AList.lookup_isSome, Option.isSome_iff_exists]
    simp only [StoreOp.step, StoreOp.exec, SqliteAccessStore.allowDoorForReader, hmem]
    split_ifs with hregistered
    · simp
      grind
    · grind
  | deleteReader r =>
    simp [StoreOp.step, StoreOp.exec, SqliteAccessStore.deleteReader, eq_comm]
  | revokeDoorForReader r d =>
    simp [StoreOp.step, StoreOp.exec, SqliteAccessStore.revokeDoorForReader]
    grind
  | _ => simp [StoreOp.step, StoreOp.exec, SqliteAccessStore.upsertCardHmac,
      SqliteAccessStore.deleteCardHmac, SqliteAccessStore.allowRole, SqliteAccessStore.revokeRole,
      SqliteAccessStore.upsertReader]

section

variable [Sodium]

/-- The operation is about the reader of a request, its door, or a row of its card. -/
noncomputable def Concerns (km : KeyManager) (req : HwUidRequest) : StoreOp → Bool
  | .upsertReader reader _ => reader = req.readerId
  | .deleteReader reader => reader = req.readerId
  | .allowDoorForReader reader door => reader = req.readerId ∧ door = req.doorId
  | .revokeDoorForReader reader door => reader = req.readerId ∧ door = req.doorId
  | .upsertCardHmac card _ =>
    @decide (∃ v, cString card = km.cardHmac v req.uid) (Classical.propDecidable _)
  | .deleteCardHmac card =>
    @decide (∃ v, card = km.cardHmac v req.uid) (Classical.propDecidable _)
  | .allowRole door _ => door = req.doorId
  | .revokeRole door _ => door = req.doorId

/-- The tables hold the same about the request. -/
structure SameRows (km : KeyManager) (req : HwUidRequest) (db db' : AccessDb) : Prop where
  reader : ∀ column, db.readers.lookup (bindInt req.readerId) = some column ↔
    db'.readers.lookup (bindInt req.readerId) = some column
  bound : (bindInt req.readerId, bindInt req.doorId) ∈ db.readerDoors ↔
    (bindInt req.readerId, bindInt req.doorId) ∈ db'.readerDoors
  cards : ∀ v text, db.cards.lookup (km.cardHmac v req.uid) = some text ↔
    db'.cards.lookup (km.cardHmac v req.uid) = some text
  roles : ∀ role, (bindInt req.doorId, role) ∈ db.doorRoles ↔
    (bindInt req.doorId, role) ∈ db'.doorRoles

theorem SameRows.step_other {km : KeyManager} {req : HwUidRequest} {op : StoreOp}
    (h : Concerns km req op = false) (db : AccessDb) : SameRows km req (op.step db) db where
  reader column := by
    rw [lookup_readers_step, SetsVersion]
    cases op <;> simp_all [Concerns]
  bound := by
    rw [mem_readerDoors_step]
    cases op <;> simp_all [Concerns]
  cards v text := by
    rw [lookup_cards_step, Overwrites]
    cases op <;> simp_all [Concerns]
  roles role := by
    rw [mem_doorRoles_step]
    cases op <;> simp_all [Concerns]

theorem SameRows.step_congr {km : KeyManager} {req : HwUidRequest} (op : StoreOp)
    {db db' : AccessDb} (h : SameRows km req db db') :
    SameRows km req (op.step db) (op.step db') where
  reader column := by rw [lookup_readers_step, lookup_readers_step, h.reader]
  bound := by simp only [mem_readerDoors_step, h.reader, h.bound]
  cards v text := by rw [lookup_cards_step, lookup_cards_step, h.cards]
  roles role := by rw [mem_doorRoles_step, mem_doorRoles_step, h.roles]

theorem SameRows.refl (km : KeyManager) (req : HwUidRequest) (db : AccessDb) :
    SameRows km req db db :=
  ⟨fun _ => Iff.rfl, Iff.rfl, fun _ _ => Iff.rfl, fun _ => Iff.rfl⟩

theorem SameRows.trans {km : KeyManager} {req : HwUidRequest} {db db' db'' : AccessDb}
    (h : SameRows km req db db') (h' : SameRows km req db' db'') : SameRows km req db db'' where
  reader column := (h.reader column).trans (h'.reader column)
  bound := h.bound.trans h'.bound
  cards v text := (h.cards v text).trans (h'.cards v text)
  roles role := (h.roles role).trans (h'.roles role)

/-- The operations that are not about the request can be left out. -/
theorem sameRows_filter (km : KeyManager) (req : HwUidRequest) (ops : List StoreOp)
    {db db' : AccessDb} (h : SameRows km req db db') :
    SameRows km req (run StoreOp.step db ops)
      (run StoreOp.step db' (ops.filter (Concerns km req))) := by
  induction ops generalizing db db' with
  | nil => exact h
  | cons op ops ih =>
    cases hop : Concerns km req op with
    | false =>
      rw [List.filter_cons_of_neg (by simp [hop])]
      exact ih ((SameRows.step_other hop db).trans h)
    | true =>
      rw [List.filter_cons_of_pos hop]
      exact ih (h.step_congr op)

/-- What is prescribed for the request depends on these rows only. -/
theorem SameRows.prescribed {srv : Server} {req : HwUidRequest} {db db' : AccessDb}
    (h : SameRows srv.keyManager req db db') :
    (srv.app db).prescribed req = (srv.app db').prescribed req := by
  have hreader : db.readers.lookup (bindInt req.readerId) =
      db'.readers.lookup (bindInt req.readerId) := Option.ext h.reader
  have hversion : db.answers.currentKeyVersionForReader req.readerId =
      db'.answers.currentKeyVersionForReader req.readerId := by
    simp only [AccessDb.answers, SqliteAccessStore.currentKeyVersionForReader, hreader]
  have hbound : db.answers.isReaderAllowedDoor req.readerId req.doorId =
      db'.answers.isReaderAllowedDoor req.readerId req.doorId := by
    simp only [AccessDb.answers, SqliteAccessStore.isReaderAllowedDoor, h.bound]
  have hcard : ∀ v, db.answers.roleForCardHmac (srv.keyManager.cardHmac v req.uid) =
      db'.answers.roleForCardHmac (srv.keyManager.cardHmac v req.uid) := by
    intro v
    simp only [AccessDb.answers, SqliteAccessStore.roleForCardHmac, Option.ext (h.cards v)]
  have hroleOf : ∀ kv, (srv.app db).engine.roleOf db.answers kv req.uid =
      (srv.app db').engine.roleOf db'.answers kv req.uid := by
    intro kv
    have hkeys : ∀ db, (srv.app db).engine.keyManager = srv.keyManager := fun _ => rfl
    simp only [Engine.roleOf, hkeys, hcard]
    rfl
  have hallowed : ∀ role, db.answers.isAllowed req.doorId role =
      db'.answers.isAllowed req.doorId role := by
    intro role
    simp only [AccessDb.answers, SqliteAccessStore.isAllowed, h.roles]
  have hstore : ∀ db, (srv.app db).store = db.answers := fun _ => rfl
  simp only [AppState.prescribed, hstore, hversion, hbound, hroleOf, hallowed]
  rfl

variable [JsonLib] [JsonIntegers]

/-- What is prescribed for a request is the same after two runs in which the same operations
were performed on its reader, its door and its card, whatever was done about others. -/
theorem prescribed_local (srv : Server) (ops : List StoreOp) (req : HwUidRequest)
    {sections sections' : List Section}
    (hsame : (srv.history sections).filter (Concerns srv.keyManager req) =
      (srv.history sections').filter (Concerns srv.keyManager req)) :
    (srv.app (run srv.step (Server.opened ops) sections).db).prescribed req =
      (srv.app (run srv.step (Server.opened ops) sections').db).prescribed req := by
  have hreduced : ∀ sections, (srv.app (run srv.step (Server.opened ops) sections).db).prescribed
      req = (srv.app (run StoreOp.step (run StoreOp.step .empty ops)
        ((srv.history sections).filter (Concerns srv.keyManager req)))).prescribed req := by
    intro sections
    rw [Server.db_run]
    exact (sameRows_filter _ req _ (.refl ..)).prescribed
  rw [hreduced, hreduced, hsame]

end

/-! ## A server -/

/-- The default configuration with a secret of zeros, and the detector on. -/
def scanServer : Server where
  cfg := {
    admin := {
      hwSharedSecretHex := "0000000000000000000000000000000000000000000000000000000000000000" }
    experiment := { misuseDetectionEnabled := true } }
  keyManager := ⟨zeros 32⟩
  windowSize := by decide
  keyVersion := by decide

/-- Reader 7 is bound to door 1, and a card may open it. -/
def enrolment (cardId : Bytes) : List StoreOp :=
  letI : Sodium := .transparent
  [.upsertReader 7 1, .allowDoorForReader 7 1,
    .upsertCardHmac (scanServer.keyManager.cardHmac 1 cardId) (bytesOf "user"),
    .allowRole 1 (bytesOf "user")]

def sampleOps : List StoreOp := enrolment (bytesOf "card")

/-- The strings of the members are valid UTF-8. -/
def StringsValid (j : Json) : Prop :=
  ∀ key s, (j.member key).bind Json.getString = some s → ValidUtf8 s

/-- What reads texts that are no requests, and only valid strings. -/
structure BodyReader where
  read : Bytes → Option Json
  valid : ∀ text j, read text = some j → StringsValid j
  foreign : ∀ cardId action, read (RequestText.dump cardId action) = none

open Classical in
/-- The parser of certain bodies, and of requests with valid strings. -/
noncomputable def BodyReader.parse (bodies : BodyReader) (text : Bytes) : Except Exn Json :=
  match bodies.read text with
  | some j => pure j
  | none =>
    if ∃ cardId action, ValidUtf8 cardId ∧ ValidUtf8 action ∧
      text = RequestText.dump cardId action then JsonLib.requests.parse text
    else throw ⟨"parse error"⟩

@[reducible] noncomputable def BodyReader.jsonLib (bodies : BodyReader) : JsonLib :=
  { JsonLib.requests with parse := bodies.parse }

namespace BodyReader

variable (bodies : BodyReader)

theorem parse_of_read {text : Bytes} {j : Json} (h : bodies.read text = some j) :
    bodies.parse text = .ok j := by
  rw [parse, h]
  rfl

theorem parse_dump {cardId action : Bytes} (hcard : ValidUtf8 cardId)
    (haction : ValidUtf8 action) :
    bodies.parse (RequestText.dump cardId action) = .ok (requestJson cardId action) := by
  rw [parse, bodies.foreign]
  dsimp only
  rw [if_pos ⟨cardId, action, hcard, haction, rfl⟩]
  change (RequestText.parse (RequestText.dump cardId action)).elim _ _ = _
  rw [RequestText.parse_dump]
  rfl

theorem roundTrip : @RequestsRoundTrip bodies.jsonLib := by
  intro uid action huid haction
  exact ⟨RequestText.dump uid action, rfl, bodies.parse_dump huid haction⟩

theorem stringsValid_request {cardId action : Bytes} (hcard : ValidUtf8 cardId)
    (haction : ValidUtf8 action) : StringsValid (requestJson cardId action) := by
  intro key s h
  simp only [requestJson, Json.member, List.lookup_cons, List.lookup_nil] at h
  split at h
  · obtain rfl := Option.some.inj h
    exact haction
  · split at h
    · obtain rfl := Option.some.inj h
      exact hcard
    · cases h

theorem parsesUtf8 : @ParsesUtf8 bodies.jsonLib := by
  intro text j key s hparse hstring
  change bodies.parse text = _ at hparse
  unfold parse at hparse
  split at hparse
  · rename_i j' hread
    obtain rfl : j' = j := Except.ok.inj hparse
    exact bodies.valid text _ hread key s hstring
  · split_ifs at hparse with hrequest
    obtain ⟨cardId, action, hcard, haction, rfl⟩ := hrequest
    change (RequestText.parse (RequestText.dump cardId action)).elim _ _ = _ at hparse
    rw [RequestText.parse_dump] at hparse
    obtain rfl : requestJson cardId action = j := Except.ok.inj hparse
    exact stringsValid_request hcard haction key s hstring

end BodyReader

/-- The body of one scan. -/
def sampleReader : BodyReader where
  read text := if text = sampleBody "1" then some (sampleJson "1") else none
  valid := by
    intro text j h key s hstring
    split_ifs at h
    obtain rfl := Option.some.inj h
    simp only [sampleJson, Json.member, List.lookup_cons, List.lookup_nil] at hstring
    split at hstring
    · cases hstring
    split at hstring
    · cases hstring
    split at hstring
    · cases hstring
    split at hstring
    · exact ⟨"card", Option.some.inj hstring⟩
    · cases hstring
  foreign := by
    intro cardId action
    have hne : RequestText.dump cardId action ≠ sampleBody "1" := by
      intro h
      have hhead : (bytesOf "\x7b\"action\":\"").take 3 = (sampleBody "1").take 3 := by
        rw [← h, RequestText.dump, List.take_append_of_le_length (by decide)]
      exact absurd hhead (by decide)
    rw [if_neg hne]

/-- The server after a signed scan of the card has been built. -/
noncomputable def sampleSections : SectionState :=
  letI : Sodium := .transparent
  letI : JsonLib := sampleReader.jsonLib
  letI : JsonIntegers := sampleJsonIntegers
  run scanServer.step (Server.opened sampleOps) [.build 0 (sampleCall "1")]

def readerEight : Digits := ⟨bytesOf "8", by decide +kernel, by decide +kernel⟩

/-- What is done about reader 8 does not matter for reader 7. -/
theorem prescribed_local_sample :
    letI : Sodium := .transparent
    letI : JsonLib := sampleReader.jsonLib
    letI : JsonIntegers := sampleJsonIntegers
    (scanServer.app (run scanServer.step (Server.opened sampleOps)
        [.admin ⟨.reader (.deleteReader readerEight), [], {}⟩]).db).prescribed
          ⟨bytesOf "card", 7, 1, 1, bytesOf "open"⟩ =
      (scanServer.app (run scanServer.step (Server.opened sampleOps) []).db).prescribed
          ⟨bytesOf "card", 7, 1, 1, bytesOf "open"⟩ := by
  refine @prescribed_local .transparent sampleReader.jsonLib sampleJsonIntegers scanServer sampleOps
    ⟨bytesOf "card", 7, 1, 1, bytesOf "open"⟩ _ _ ?_
  have hhistory : @Server.history .transparent sampleReader.jsonLib sampleJsonIntegers scanServer
      [.admin ⟨.reader (.deleteReader readerEight), [], {}⟩] =
        [.deleteReader 8] := by decide +kernel
  rw [hhistory]
  simp [Concerns, Server.history]

end AccessSecurity.Admin
