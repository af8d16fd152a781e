import AccessSecurity.Admin.CardsService
import AccessSecurity.Admin.Configuration
import AccessSecurity.Admin.ReaderRoutes

/-!
# Routes that change the access lists

The requests of `routes_api.cpp` that change the store or lift a quarantine, over
`readers_service.cpp`, `door_roles_service.cpp` and `cards_service.cpp`. A request performs at
most one operation on the store (`Server.change`): the one that it asks for, if it carries the
token, can be read, and its statement succeeds. Nothing else of it reaches the tables or the
replay windows (`Server.adminRoute_effect`).
-/

namespace AccessSecurity.Admin

open Foundation Crypto Core Decision Storage

/-! ## Services -/

/-- `ServiceResult`, with the HMAC in the body when a card was enrolled. -/
structure AdminReply extends ServiceReply where
  cardHmac : Option Bytes := none
  deriving DecidableEq, Repr

def roleEvent (env : ServiceEnv) (message : String) (doorId : UInt32) (role : Bytes) : Event :=
  { adminEvent env message 0 doorId with message := bytesOf message ++ role }

namespace Service

def upsertReader (env : ServiceEnv) (readerId keyVersion : UInt32) : AdminM ServiceReply :=
  changeStore env (.upsertReader readerId keyVersion) (adminEvent env "upsertReader" readerId 0)

def allowRole (env : ServiceEnv) (doorId : UInt32) (role : Bytes) : AdminM ServiceReply :=
  changeStore env (.allowRole doorId role) (roleEvent env "allowRole: " doorId role)

def revokeRole (env : ServiceEnv) (doorId : UInt32) (role : Bytes) : AdminM ServiceReply :=
  changeStore env (.revokeRole doorId role) (roleEvent env "revokeRole: " doorId role)

def upsertCard [Sodium] (km : KeyManager) (currentKeyVersion : UInt32) (env : ServiceEnv)
    (cardId role : Bytes) (keyVersion : Option UInt32) : AdminM AdminReply := do
  let kv := keyVersion.getD currentKeyVersion
  let pepper ← lift (km.deriveCardPepper kv)
  let hmacHex ← lift (CardIdHasher.hmacHex ⟨pepper⟩ cardId)
  let reply ← changeStore env (.upsertCardHmac hmacHex role)
    (roleEvent env "upsertCard role=" 0 role)
  return { toServiceReply := reply, cardHmac := some hmacHex }

def deleteCard (env : ServiceEnv) (cardHmac : Bytes) : AdminM ServiceReply :=
  changeStore env (.deleteCardHmac cardHmac) (adminEvent env "deleteCard" 0 0)

end Service

/-- A call of one of the services that change something. -/
inductive AdminOp where
  | reader (op : ReaderOp)
  | upsertReader (readerId keyVersion : UInt32)
  | allowRole (doorId : UInt32) (role : Bytes)
  | revokeRole (doorId : UInt32) (role : Bytes)
  | upsertCard (cardId role : Bytes) (keyVersion : Option UInt32)
  | deleteCard (cardHmac : Bytes)
  deriving DecidableEq, Repr

/-! ## Routes -/

/-- The routes, with the bodies of those that read one. -/
inductive AdminRoute where
  | reader (route : ReaderRoute)
  | upsertReader (body : Bytes)
  | allowRole (body : Bytes)
  | revokeRole (body : Bytes)
  | upsertCard (body : Bytes)
  | deleteCard (body : Bytes)

/-- The status when something throws. -/
def AdminRoute.errorStatus : AdminRoute → Nat
  | .reader route => route.errorStatus
  | _ => 400

/-- A request, with the value of the header `X-Admin-Token`, and what its processing meets. -/
structure AdminCall where
  route : AdminRoute
  header : Bytes
  env : ServiceEnv

section

variable [JsonLib] [JsonIntegers]

/-- `j.at(key).get<T>()` -/
def fieldOf {α : Type} (get : Json → Option α) (j : Json) (key : String) : Except Exn α :=
  match (j.member key).bind get with
  | some value => return value
  | none => throw ⟨"invalid request"⟩

/-- A field that need not be there. -/
def optionalField {α : Type} (get : Json → Option α) (j : Json) (key : String) :
    Except Exn (Option α) :=
  match j.member key with
  | some _ => some <$> fieldOf get j key
  | none => return none

/-- The arguments of the service. -/
def AdminRoute.op : AdminRoute → Except Exn AdminOp
  | .reader route => .reader <$> route.op
  | .upsertReader body => do
    let j ← JsonLib.parse body
    return .upsertReader (← fieldOf JsonIntegers.getUInt32 j "reader_id")
      (← fieldOf JsonIntegers.getUInt32 j "current_key_version")
  | .allowRole body => do
    let j ← JsonLib.parse body
    return .allowRole (← doorIdOf j) (← fieldOf Json.getString j "role")
  | .revokeRole body => do
    let j ← JsonLib.parse body
    return .revokeRole (← doorIdOf j) (← fieldOf Json.getString j "role")
  | .upsertCard body => do
    let j ← JsonLib.parse body
    let kv ← optionalField JsonIntegers.getUInt32 j "key_version"
    return .upsertCard (← fieldOf Json.getString j "card_id") (← fieldOf Json.getString j "role") kv
  | .deleteCard body => do
    let j ← JsonLib.parse body
    return .deleteCard (← fieldOf Json.getString j "card_hmac")

end

section

variable [Sodium]

/-- A reply without the HMAC of a card. -/
def plain (service : AdminM ServiceReply) : AdminM AdminReply := do
  let reply ← service
  return { toServiceReply := reply }

def AdminOp.service (srv : Server) (env : ServiceEnv) : AdminOp → AdminM AdminReply
  | .reader op => do
    let s ← get
    plain (op.service (srv.app s.db) env)
  | .upsertReader readerId keyVersion => plain (Service.upsertReader env readerId keyVersion)
  | .allowRole doorId role => plain (Service.allowRole env doorId role)
  | .revokeRole doorId role => plain (Service.revokeRole env doorId role)
  | .upsertCard cardId role keyVersion =>
    Service.upsertCard srv.keyManager srv.cfg.keyManagement.currentKeyVersion env cardId role
      keyVersion
  | .deleteCard cardHmac => plain (Service.deleteCard env cardHmac)

variable [JsonLib] [JsonIntegers]

def Server.adminRoute (srv : Server) (call : AdminCall) : AdminM AdminReply :=
  if checkAuth call.header (bytesOf srv.cfg.admin.adminToken) = false then
    return { toServiceReply := errorResult "unauthorized" 401 }
  else
    recover (fun e => { toServiceReply := errorResult e.what call.route.errorStatus }) do
      let op ← lift call.route.op
      op.service srv call.env

end

/-! ## What a service changes -/

/-- The operation is performed on the tables, and the engine is left alone up to the events. -/
structure Performs (op : Option StoreOp) (s t : AdminState) : Prop where
  db : t.db = op.elim s.db fun op => op.step s.db
  windows : t.engine.windows = s.engine.windows
  audit : t.engine.audit = s.engine.audit
  readers : t.engine.readers = s.engine.readers

theorem Performs.refl (s : AdminState) : Performs none s s := ⟨rfl, rfl, rfl, rfl⟩

theorem changeStore_performs (env : ServiceEnv) (op : StoreOp) (ev : Event) (s : AdminState) :
    Performs (if env.fault.isSome then none else some op) s (after (changeStore env op ev) s) := by
  cases hfault : env.fault with
  | some e =>
    obtain ⟨e', hthrows⟩ : ∃ e, Throws (changeStore env op ev) s e s :=
      changeStore_throws ev (.inl (by simp [hfault]))
    rw [hthrows.after_eq]
    exact .refl s
  | none =>
    cases hexec : op.exec s.db with
    | error e =>
      obtain ⟨e', hthrows⟩ : ∃ e, Throws (changeStore env op ev) s e s :=
        changeStore_throws ev (.inr ⟨e, hexec⟩)
      rw [hthrows.after_eq]
      exact ⟨by simp [StoreOp.step, hexec], rfl, rfl, rfl⟩
    | ok db =>
      rw [(changeStore_returns hfault hexec).after_eq]
      exact ⟨rfl, rfl, rfl, rfl⟩

section

variable [Sodium]

/-- The operation on the store; an enrolment is refused for the empty card and version zero. -/
def AdminOp.storeOp (srv : Server) : AdminOp → Option StoreOp
  | .reader (.deleteReader readerId) => some (.deleteReader readerId)
  | .reader (.bindDoor readerId doorId) => some (.allowDoorForReader readerId doorId)
  | .reader (.unbindDoor readerId doorId) => some (.revokeDoorForReader readerId doorId)
  | .reader (.unquarantineReader _) => none
  | .upsertReader readerId keyVersion => some (.upsertReader readerId keyVersion)
  | .allowRole doorId role => some (.allowRole doorId role)
  | .revokeRole doorId role => some (.revokeRole doorId role)
  | .upsertCard cardId role keyVersion =>
    let kv := keyVersion.getD srv.cfg.keyManagement.currentKeyVersion
    if cardId = [] ∨ kv = 0 then none
    else some (.upsertCardHmac (srv.keyManager.cardHmac kv cardId) role)
  | .deleteCard cardHmac => some (.deleteCardHmac cardHmac)

theorem upsertCard_performs (srv : Server) (env : ServiceEnv) (cardId role : Bytes)
    (keyVersion : Option UInt32) (s : AdminState) :
    Performs (if env.fault.isSome then none
        else AdminOp.storeOp srv (.upsertCard cardId role keyVersion)) s
      (after (Service.upsertCard srv.keyManager srv.cfg.keyManagement.currentKeyVersion env cardId
        role keyVersion) s) := by
  unfold Service.upsertCard AdminOp.storeOp
  dsimp only
  generalize keyVersion.getD srv.cfg.keyManagement.currentKeyVersion = kv
  by_cases hkv : kv = 0
  · simp only [hkv, or_true, if_true, ite_self]
    exact .refl s
  rw [after_bind_returns (returns_lift.mpr ⟨KeyManager.deriveCardPepper_ok _ hkv, rfl⟩)]
  by_cases hcard : cardId = []
  · simp only [hcard, true_or, if_true, ite_self]
    exact .refl s
  rw [after_bind_returns (returns_lift.mpr ⟨CardIdHasher.hmacHex_ok hcard, rfl⟩), after_bind_pure,
    if_neg (not_or.mpr ⟨hcard, hkv⟩)]
  exact changeStore_performs env _ _ s

/-- A service performs its operation unless its statement fails. -/
theorem service_performs_op (srv : Server) (env : ServiceEnv) (s : AdminState) {op : AdminOp}
    (hop : ∀ r, op ≠ .reader (.unquarantineReader r)) :
    Performs (if env.fault.isSome then none else op.storeOp srv) s
      (after (op.service srv env) s) := by
  have hplain : ∀ service, after (plain service) s = after service s :=
    fun service => after_bind_pure service _ s
  cases op with
  | upsertReader readerId keyVersion => exact hplain _ ▸ changeStore_performs env _ _ s
  | allowRole doorId role => exact hplain _ ▸ changeStore_performs env _ _ s
  | revokeRole doorId role => exact hplain _ ▸ changeStore_performs env _ _ s
  | upsertCard cardId role keyVersion => exact upsertCard_performs srv env cardId role keyVersion s
  | deleteCard cardHmac => exact hplain _ ▸ changeStore_performs env _ _ s
  | reader op =>
    have hafter : after ((AdminOp.reader op).service srv env) s =
        after (op.service (srv.app s.db) env) s := hplain _
    rw [hafter]
    cases op with
    | deleteReader readerId => exact changeStore_performs env _ _ s
    | bindDoor readerId doorId => exact changeStore_performs env _ _ s
    | unbindDoor readerId doorId => exact changeStore_performs env _ _ s
    | unquarantineReader readerId => exact absurd rfl (hop readerId)

/-- Lifting a quarantine is not an operation on the tables. -/
theorem unquarantine_effect (srv : Server) (env : ServiceEnv) (readerId : UInt32)
    (s : AdminState) : ∃ readers events,
    after ((AdminOp.reader (.unquarantineReader readerId)).service srv env) s =
        { s with engine := { s.engine with readers, events } } ∧
      (readers = s.engine.readers ∨ readers = (s.engine.readers.unquarantine readerId).2) := by
  have hplain : after ((AdminOp.reader (.unquarantineReader readerId)).service srv env) s =
      after (ReaderOp.service (srv.app s.db) env (.unquarantineReader readerId)) s :=
    after_bind_pure _ _ _
  rw [hplain]
  by_cases hrefused : (ReaderOp.unquarantineReader readerId).Refused (srv.app s.db) env s
  · obtain ⟨reply, -, hret⟩ := service_refuses hrefused (f := fun e => errorResult e.what 500)
      fun _ => rfl
    have hafter := hret.after_eq
    rw [after_recover] at hafter
    exact ⟨s.engine.readers, s.engine.events, hafter, .inl rfl⟩
  · obtain ⟨reply, -, hret⟩ := service_performs hrefused
    exact ⟨_, _, hret.after_eq, .inr rfl⟩

end

/-! ## What a request changes -/

section

variable [JsonLib] [JsonIntegers]

/-- The token is right, and the request can be read. -/
def Server.accepted (srv : Server) (call : AdminCall) : Option AdminOp :=
  if checkAuth call.header (bytesOf srv.cfg.admin.adminToken) then call.route.op.toOption else none

/-- The reader that a request takes out of quarantine, if it is in it. -/
def Server.lifts (srv : Server) (call : AdminCall) : Option UInt32 :=
  match srv.accepted call with
  | some (.reader (.unquarantineReader readerId)) => some readerId
  | _ => none

variable [Sodium]

/-- The operation on the store that a request performs. -/
def Server.change (srv : Server) (call : AdminCall) : Option StoreOp :=
  if call.env.fault.isSome then none else (srv.accepted call).bind (AdminOp.storeOp srv)

/-- The state after a request, up to the events. -/
structure AdminEffect (srv : Server) (call : AdminCall) (s t : AdminState) : Prop where
  db : t.db = (srv.change call).elim s.db fun op => op.step s.db
  windows : t.engine.windows = s.engine.windows
  audit : t.engine.audit = s.engine.audit
  readers : ∀ r, srv.lifts call ≠ some r → t.engine.readers r = s.engine.readers r

/-- Without the token, or with a request that cannot be read, nothing happens at all. -/
theorem Server.adminRoute_refused {srv : Server} {call : AdminCall}
    (h : srv.accepted call = none) (s : AdminState) : after (srv.adminRoute call) s = s := by
  unfold Server.accepted at h
  unfold Server.adminRoute
  cases hauth : checkAuth call.header (bytesOf srv.cfg.admin.adminToken) with
  | false => rfl
  | true =>
    rw [if_neg (by simp), after_recover]
    cases hop : call.route.op with
    | error e => rfl
    | ok op => simp [hauth, hop, Except.toOption] at h

theorem Server.adminRoute_accepted {srv : Server} {call : AdminCall} {op : AdminOp}
    (h : srv.accepted call = some op) (s : AdminState) :
    after (srv.adminRoute call) s = after (op.service srv call.env) s := by
  unfold Server.accepted at h
  unfold Server.adminRoute
  cases hauth : checkAuth call.header (bytesOf srv.cfg.admin.adminToken) with
  | false => simp [hauth] at h
  | true =>
    rw [if_neg (by simp), after_recover]
    cases hop : call.route.op with
    | error e => simp [hop, Except.toOption] at h
    | ok op' =>
      obtain rfl : op' = op := by simpa [hauth, hop, Except.toOption] using h
      rfl

/-- What a request does to the tables and to the engine. -/
theorem Server.adminRoute_effect (srv : Server) (call : AdminCall) (s : AdminState) :
    AdminEffect srv call s (after (srv.adminRoute call) s) := by
  cases hop : srv.accepted call with
  | none =>
    rw [adminRoute_refused hop]
    exact ⟨by simp [Server.change, hop], rfl, rfl, fun _ _ => rfl⟩
  | some op =>
    rw [adminRoute_accepted hop]
    by_cases hlift : ∃ r, op = .reader (.unquarantineReader r)
    · obtain ⟨r, rfl⟩ := hlift
      obtain ⟨readers, events, hafter, hreaders⟩ := unquarantine_effect srv call.env r s
      rw [hafter]
      refine ⟨by simp [Server.change, hop, AdminOp.storeOp], rfl, rfl, fun r' hr' => ?_⟩
      rcases hreaders with rfl | rfl
      · rfl
      · refine Readers.unquarantine_of_ne _ fun heq => hr' ?_
        rw [Server.lifts, hop, heq]
    · have hperforms := service_performs_op srv call.env s (not_exists.mp hlift)
      have hchange : srv.change call =
          if call.env.fault.isSome then none else op.storeOp srv := by
        simp [Server.change, hop]
      exact ⟨hchange ▸ hperforms.db, hperforms.windows, hperforms.audit,
        fun r _ => congrFun hperforms.readers r⟩

/-- At the detector a request lifts at most one quarantine. -/
theorem Server.adminRoute_readers (srv : Server) (call : AdminCall) (s : AdminState) :
    (after (srv.adminRoute call) s).engine.readers = s.engine.readers ∨ ∃ r,
      (after (srv.adminRoute call) s).engine.readers = (s.engine.readers.unquarantine r).2 := by
  cases hop : srv.accepted call with
  | none =>
    rw [adminRoute_refused hop]
    exact .inl rfl
  | some op =>
    rw [adminRoute_accepted hop]
    by_cases hlift : ∃ r, op = .reader (.unquarantineReader r)
    · obtain ⟨r, rfl⟩ := hlift
      obtain ⟨readers, events, hafter, hreaders⟩ := unquarantine_effect srv call.env r s
      rw [hafter]
      exact hreaders.imp_right fun h => ⟨r, h⟩
    · exact .inl (service_performs_op srv call.env s (not_exists.mp hlift)).readers

end

end AccessSecurity.Admin
