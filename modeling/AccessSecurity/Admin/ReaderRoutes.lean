import AccessSecurity.Admin.HwRoute
import AccessSecurity.Core.DetectorHistory
import AccessSecurity.Admin.Unquarantine
import AccessSecurity.Foundation.Decimal
import AccessSecurity.Storage.AccessStore

/-!
# Routes of the readers

The four routes of `routes_api.cpp` whose paths name a reader, over `readers_service.cpp`. An
id is a string of decimal digits of any length; it is converted to 64 bits, where larger
numbers are refused, and then cast to 32 bits. So a route works on the ids that are written,
or refuses, exactly when no number of the path is between the two sizes, as long as nothing
else refuses it (`route_exact_iff`).
-/

namespace AccessSecurity.Admin

open Foundation Crypto Core Decision Storage

/-! ## Services -/

/-- What the services work on: the tables, and the detector and the events of the engine. -/
structure AdminState where
  db : AccessDb
  engine : EngineState

abbrev AdminM := EStateM Exn AdminState

/-- The clock, and the exception that the statement meets, if there is one. -/
structure ServiceEnv where
  nowUnixMs : UInt64 := 0
  fault : Option Exn := none
  deriving DecidableEq, Repr

/-- `ServiceResult`: the status, and of the body the error or the reader. -/
structure ServiceReply where
  httpStatus : Nat := 200
  error : Option String := none
  readerId : Option UInt32 := none
  deriving DecidableEq, Repr

def errorResult (error : String) (httpStatus : Nat) : ServiceReply :=
  { httpStatus, error := some error }

/-- The event bus is always there. -/
def pushEvent (ev : Event) : AdminM Unit :=
  modify fun s => { s with engine := { s.engine with events := s.engine.events ++ [ev] } }

def adminEvent (env : ServiceEnv) (message : String) (readerId doorId : UInt32) : Event where
  tsUnixMs := env.nowUnixMs
  kind := "admin"
  message := bytesOf message
  readerId := readerId
  doorId := doorId

/-- A service that changes the tables and tells of it. -/
def changeStore (env : ServiceEnv) (op : StoreOp) (ev : Event) : AdminM ServiceReply := do
  match env.fault with
  | some e => throw e
  | none =>
    let db ← lift (op.exec (← get).db)
    modify fun s => { s with db }
    pushEvent ev
    return {}

def deleteReader (env : ServiceEnv) (readerId : UInt32) : AdminM ServiceReply :=
  changeStore env (.deleteReader readerId) (adminEvent env "deleteReader" readerId 0)

def bindDoor (env : ServiceEnv) (readerId doorId : UInt32) : AdminM ServiceReply :=
  changeStore env (.allowDoorForReader readerId doorId) (adminEvent env "bindDoor" readerId doorId)

def unbindDoor (env : ServiceEnv) (readerId doorId : UInt32) : AdminM ServiceReply :=
  changeStore env (.revokeDoorForReader readerId doorId)
    (adminEvent env "unbindDoor" readerId doorId)

def unquarantineReader (app : AppState) (env : ServiceEnv) (readerId : UInt32) :
    AdminM ServiceReply := do
  let refusal ← zoom AdminState.engine (fun engine s => { s with engine })
    (app.engine.unquarantineReader env.nowUnixMs readerId)
  match refusal with
  | some error => return errorResult error 400
  | none => return { readerId := some readerId }

/-- A call of one of the services. -/
inductive ReaderOp where
  | deleteReader (readerId : UInt32)
  | bindDoor (readerId doorId : UInt32)
  | unbindDoor (readerId doorId : UInt32)
  | unquarantineReader (readerId : UInt32)
  deriving DecidableEq, Repr

def ReaderOp.service (app : AppState) (env : ServiceEnv) : ReaderOp → AdminM ServiceReply
  | .deleteReader readerId => Admin.deleteReader env readerId
  | .bindDoor readerId doorId => Admin.bindDoor env readerId doorId
  | .unbindDoor readerId doorId => Admin.unbindDoor env readerId doorId
  | .unquarantineReader readerId => Admin.unquarantineReader app env readerId

/-! ## Routes -/

/-- What the group `(\d+)` of a path matches. -/
structure Digits where
  text : Bytes
  nonempty : text ≠ []
  isDigit : ∀ c ∈ text, 48 ≤ c ∧ c ≤ 57

def Digits.value (n : Digits) : Nat := Decimal.value n.text

/-- `std::stoul` -/
def stoul (n : Digits) : Except Exn UInt64 :=
  match Decimal.scan (2 ^ 64 - 1) 0 n.text with
  | none => throw ⟨"stoul"⟩
  | some v => return UInt64.ofNat v

/-- `static_cast<uint32_t>(std::stoul(..))` -/
def pathId (n : Digits) : Except Exn UInt32 := do
  let v ← stoul n
  return v.toUInt32

/-- The four routes, with the digits of the path and the body. -/
inductive ReaderRoute where
  | deleteReader (n : Digits)
  | bindDoor (n : Digits) (body : Bytes)
  | unbindDoor (n m : Digits)
  | unquarantine (n : Digits)

/-- The status when something throws. -/
def ReaderRoute.errorStatus : ReaderRoute → Nat
  | .bindDoor _ _ => 400
  | _ => 500

def checkAuth (header token : Bytes) : Bool := token.isEmpty || header == token

/-- A request, with the value of the header `X-Admin-Token` (empty when it is missing), and
what its processing meets. -/
structure ReaderCall where
  route : ReaderRoute
  header : Bytes
  env : ServiceEnv

section

variable [JsonLib] [JsonIntegers]

/-- `j.at("door_id").get<uint32_t>()` -/
def doorIdOf (j : Json) : Except Exn UInt32 :=
  match (j.member "door_id").bind JsonIntegers.getUInt32 with
  | some doorId => return doorId
  | none => throw ⟨"invalid request"⟩

/-- The arguments of the service; which of two errors is reported is left open in C++. -/
def ReaderRoute.op : ReaderRoute → Except Exn ReaderOp
  | .deleteReader n => do return .deleteReader (← pathId n)
  | .bindDoor n body => do
    let j ← JsonLib.parse body
    return .bindDoor (← pathId n) (← doorIdOf j)
  | .unbindDoor n m => do return .unbindDoor (← pathId n) (← pathId m)
  | .unquarantine n => do return .unquarantineReader (← pathId n)

def AppState.readerRoute (app : AppState) (adminToken : Bytes) (call : ReaderCall) :
    AdminM ServiceReply :=
  if checkAuth call.header adminToken = false then return errorResult "unauthorized" 401
  else
    recover (fun e => errorResult e.what call.route.errorStatus) do
      let op ← lift call.route.op
      op.service app call.env

end

/-! ## Performed and refused -/

def AdminState.changed (s : AdminState) (op : StoreOp) : AdminState :=
  { s with db := op.step s.db }

def AdminState.lifted (s : AdminState) (readerId : UInt32) : AdminState :=
  { s with engine := { s.engine with readers := (s.engine.readers.unquarantine readerId).2 } }

def AdminState.told (s : AdminState) (ev : Event) : AdminState :=
  { s with engine := { s.engine with events := s.engine.events ++ [ev] } }

/-- What a service tells of itself. -/
def ReaderOp.event (env : ServiceEnv) : ReaderOp → Event
  | .deleteReader readerId => adminEvent env "deleteReader" readerId 0
  | .bindDoor readerId doorId => adminEvent env "bindDoor" readerId doorId
  | .unbindDoor readerId doorId => adminEvent env "unbindDoor" readerId doorId
  | .unquarantineReader readerId => adminEvent env "unquarantine" readerId 0

def ReaderOp.effect (s : AdminState) : ReaderOp → AdminState
  | .deleteReader readerId => s.changed (.deleteReader readerId)
  | .bindDoor readerId doorId => s.changed (.allowDoorForReader readerId doorId)
  | .unbindDoor readerId doorId => s.changed (.revokeDoorForReader readerId doorId)
  | .unquarantineReader readerId => s.lifted readerId

/-- The state after an operation on exactly these ids. -/
def ReaderOp.perform (env : ServiceEnv) (s : AdminState) (op : ReaderOp) : AdminState :=
  (op.effect s).told (op.event env)

/-- The service does not perform the operation: its statement fails, the reader to bind is not
registered, the detector is off, or the reader is not in quarantine. -/
def ReaderOp.Refused (app : AppState) (env : ServiceEnv) (s : AdminState) : ReaderOp → Prop
  | .deleteReader _ => env.fault.isSome = true
  | .bindDoor readerId _ => env.fault.isSome = true ∨ bindInt readerId ∉ s.db.readers
  | .unbindDoor _ _ => env.fault.isSome = true
  | .unquarantineReader readerId =>
    app.engine.detectorActive = false ∨ s.engine.readers.isQuarantined readerId = false

theorem event_inj {env : ServiceEnv} {op op' : ReaderOp} (h : op.event env = op'.event env) :
    op = op' := by
  cases op <;> cases op' <;> simp_all [ReaderOp.event, adminEvent, bytesOf_inj]

/-- The event tells which ids the operation was on. -/
theorem perform_inj {env : ServiceEnv} {s : AdminState} {op op' : ReaderOp}
    (h : op.perform env s = op'.perform env s) : op = op' := by
  have hevents : ∀ op : ReaderOp,
      (op.perform env s).engine.events = s.engine.events ++ [op.event env] := by
    intro op
    cases op <;> rfl
  have heq := congrArg (fun t => t.engine.events) h
  simp only [hevents, List.append_cancel_left_eq, List.singleton_inj] at heq
  exact event_inj heq

theorem changeStore_returns {env : ServiceEnv} {op : StoreOp} {ev : Event} {s : AdminState}
    {db : AccessDb} (hfault : env.fault = none) (hexec : op.exec s.db = .ok db) :
    Returns (changeStore env op ev) s {} ((s.changed op).told ev) := by
  have hstep : op.step s.db = db := by simp [StoreOp.step, hexec]
  simp [changeStore, hfault, hexec, pushEvent, AdminState.changed, AdminState.told, hstep]

theorem changeStore_throws {env : ServiceEnv} {op : StoreOp} (ev : Event) {s : AdminState}
    (h : env.fault.isSome = true ∨ ∃ e, op.exec s.db = .error e) :
    ∃ e, Throws (changeStore env op ev) s e s := by
  unfold changeStore
  cases hfault : env.fault with
  | some e => exact ⟨e, throws_throw.mpr ⟨rfl, rfl⟩⟩
  | none =>
    obtain ⟨e, hexec⟩ : ∃ e, op.exec s.db = .error e := by simpa [hfault] using h
    refine ⟨e, throws_bind.mpr (.inr ⟨s, s, returns_get.mpr ⟨rfl, rfl⟩, ?_⟩)⟩
    exact throws_bind.mpr (.inl (throws_lift.mpr ⟨hexec, rfl⟩))

theorem returns_unquarantineReader {app : AppState} {nowUnixMs : UInt64} {readerId : UInt32}
    {s : EngineState} (hactive : app.engine.detectorActive = true)
    (hquar : s.readers.isQuarantined readerId = true) :
    Returns (app.engine.unquarantineReader nowUnixMs readerId) s none
      { s with
        readers := (s.readers.unquarantine readerId).2
        events := s.events ++ [{
          tsUnixMs := nowUnixMs
          kind := "admin"
          message := bytesOf "unquarantine"
          readerId }] } := by
  have hpublished : app.engine.published = true := rfl
  rw [← Readers.unquarantine_fst] at hquar
  simp [Engine.unquarantineReader, Engine.push, hactive, hquar, hpublished]

/-- A refusal leaves the detector as it is. -/
theorem returns_unquarantineReader_refused {app : AppState} {nowUnixMs : UInt64}
    {readerId : UInt32} {s : EngineState} (h : app.engine.detectorActive = false ∨
      s.readers.isQuarantined readerId = false) :
    ∃ error, Returns (app.engine.unquarantineReader nowUnixMs readerId) s (some error) s := by
  cases hactive : app.engine.detectorActive with
  | false => exact ⟨"misuse_detection_disabled", by simp [Engine.unquarantineReader, hactive]⟩
  | true =>
    have hquar : s.readers.isQuarantined readerId = false := by simpa [hactive] using h
    have hsame : (s.readers.unquarantine readerId).2 = s.readers := by
      rw [← Readers.unquarantine_fst] at hquar
      unfold Readers.unquarantine at *
      grind
    rw [← Readers.unquarantine_fst] at hquar
    exact ⟨"not_quarantined", by simp [Engine.unquarantineReader, hactive, hquar, hsame]⟩

theorem service_performs {app : AppState} {env : ServiceEnv} {s : AdminState} {op : ReaderOp}
    (h : ¬ op.Refused app env s) : ∃ reply : ServiceReply, reply.error = none ∧
      Returns (op.service app env) s reply (op.perform env s) := by
  cases op with
  | deleteReader readerId =>
    have hfault : env.fault = none := by simpa [ReaderOp.Refused] using h
    exact ⟨_, rfl, changeStore_returns hfault rfl⟩
  | bindDoor readerId doorId =>
    obtain ⟨hfault, hreader⟩ : env.fault = none ∧ bindInt readerId ∈ s.db.readers := by
      simpa [ReaderOp.Refused] using h
    exact ⟨_, rfl, changeStore_returns hfault (dif_pos hreader)⟩
  | unbindDoor readerId doorId =>
    have hfault : env.fault = none := by simpa [ReaderOp.Refused] using h
    exact ⟨_, rfl, changeStore_returns hfault rfl⟩
  | unquarantineReader readerId =>
    obtain ⟨hactive, hquar⟩ : app.engine.detectorActive = true ∧
        s.engine.readers.isQuarantined readerId = true := by
      simpa [ReaderOp.Refused] using h
    refine ⟨{ readerId := some readerId }, rfl, returns_bind.mpr ⟨none, _, ?_,
      returns_pure.mpr ⟨rfl, rfl⟩⟩⟩
    exact returns_zoom.mpr ⟨_, returns_unquarantineReader hactive hquar, rfl⟩

/-- A service that refuses leaves everything as it is, and the route reports an error. -/
theorem service_refuses {app : AppState} {env : ServiceEnv} {s : AdminState} {op : ReaderOp}
    (h : op.Refused app env s) {f : Exn → ServiceReply} (hf : ∀ e, (f e).error.isSome = true) :
    ∃ reply : ServiceReply, reply.error.isSome = true ∧
      Returns (recover f (op.service app env)) s reply s := by
  cases op with
  | deleteReader readerId =>
    obtain ⟨e, hthrows⟩ : ∃ e, Throws (deleteReader env readerId) s e s :=
      changeStore_throws _ (.inl h)
    exact ⟨f e, hf e, hthrows.recover f⟩
  | bindDoor readerId doorId =>
    obtain ⟨e, hthrows⟩ : ∃ e, Throws (bindDoor env readerId doorId) s e s :=
      changeStore_throws _ (h.imp_right fun hreader => ⟨_, dif_neg hreader⟩)
    exact ⟨f e, hf e, hthrows.recover f⟩
  | unbindDoor readerId doorId =>
    obtain ⟨e, hthrows⟩ : ∃ e, Throws (unbindDoor env readerId doorId) s e s :=
      changeStore_throws _ (.inl h)
    exact ⟨f e, hf e, hthrows.recover f⟩
  | unquarantineReader readerId =>
    obtain ⟨error, hrefusal⟩ := returns_unquarantineReader_refused h
    refine ⟨errorResult error 400, rfl, Returns.recover ?_ f⟩
    exact returns_bind.mpr ⟨some error, s, returns_zoom.mpr ⟨_, hrefusal, rfl⟩,
      returns_pure.mpr ⟨rfl, rfl⟩⟩

/-! ## Written ids -/

theorem toUInt32_ofNat (v : Nat) : (UInt64.ofNat v).toUInt32.toNat = v % 2 ^ 32 := by
  rw [UInt64.toNat_toUInt32, UInt64.toNat_ofNat']
  omega

theorem pathId_ok_iff {n : Digits} {id : UInt32} :
    pathId n = .ok id ↔ n.value < 2 ^ 64 ∧ id.toNat = n.value % 2 ^ 32 := by
  have hscan : Decimal.scan (2 ^ 64 - 1) 0 n.text =
      if n.value ≤ 2 ^ 64 - 1 then some n.value else none :=
    Decimal.scan_eq (Nat.zero_le _) n.text
  unfold pathId
  rw [except_bind_ok]
  unfold stoul
  rw [hscan]
  by_cases hle : n.value ≤ 2 ^ 64 - 1
  · have hlt : n.value < 2 ^ 64 := by omega
    simp only [if_pos hle, except_pure_ok, exists_eq_left, hlt, true_and]
    rw [← toUInt32_ofNat, UInt32.toNat_inj]
  · have hge : ¬ n.value < 2 ^ 64 := by omega
    simp only [if_neg hle, hge, false_and, iff_false]
    rintro ⟨v, hthrow, -⟩
    cases hthrow

/-- The numbers in the path. -/
def ReaderRoute.numbers : ReaderRoute → List Digits
  | .deleteReader n => [n]
  | .bindDoor n _ => [n]
  | .unbindDoor n m => [n, m]
  | .unquarantine n => [n]

section

variable [JsonLib] [JsonIntegers]

/-- The door that the body names. -/
def doorOf (body : Bytes) : Option UInt32 :=
  (JsonLib.parse body).toOption.bind fun j => (doorIdOf j).toOption

/-- The operation that the route asks for, when the numbers of its path are read by `read`. -/
def ReaderRoute.Asks (read : Nat → Nat) : ReaderRoute → ReaderOp → Prop
  | .deleteReader n, .deleteReader readerId => readerId.toNat = read n.value
  | .bindDoor n body, .bindDoor readerId doorId =>
    readerId.toNat = read n.value ∧ doorOf body = some doorId
  | .unbindDoor n m, .unbindDoor readerId doorId =>
    readerId.toNat = read n.value ∧ doorId.toNat = read m.value
  | .unquarantine n, .unquarantineReader readerId => readerId.toNat = read n.value
  | _, _ => False

theorem doorOf_eq_some_iff {body : Bytes} {doorId : UInt32} : doorOf body = some doorId ↔
    ∃ j, JsonLib.parse body = .ok j ∧ doorIdOf j = .ok doorId := by
  unfold doorOf
  cases JsonLib.parse body with
  | error e => simp [Except.toOption]
  | ok j =>
    cases hdoor : doorIdOf j <;> simp [Except.toOption, hdoor]

/-- The conversions of a route succeed up to 64 bits, and keep 32 of them. -/
theorem op_eq_ok_iff {route : ReaderRoute} {op : ReaderOp} : route.op = .ok op ↔
    (∀ n ∈ route.numbers, n.value < 2 ^ 64) ∧ route.Asks (· % 2 ^ 32) op := by
  cases route with
  | deleteReader n =>
    cases op <;> simp [ReaderRoute.op, ReaderRoute.numbers, ReaderRoute.Asks, except_map_ok,
      pathId_ok_iff]
  | bindDoor n body =>
    cases op with
    | bindDoor readerId doorId =>
      simp only [ReaderRoute.op, ReaderRoute.numbers, ReaderRoute.Asks, except_bind_ok,
        except_pure_ok, pathId_ok_iff, doorOf_eq_some_iff]
      grind
    | _ => simp [ReaderRoute.op, ReaderRoute.Asks, except_bind_ok, except_map_ok]
  | unbindDoor n m =>
    cases op with
    | unbindDoor readerId doorId =>
      simp only [ReaderRoute.op, ReaderRoute.numbers, ReaderRoute.Asks, except_bind_ok,
        except_pure_ok, pathId_ok_iff]
      grind
    | _ => simp [ReaderRoute.op, ReaderRoute.Asks, except_bind_ok, except_map_ok]
  | unquarantine n =>
    cases op <;> simp [ReaderRoute.op, ReaderRoute.numbers, ReaderRoute.Asks, except_map_ok,
      pathId_ok_iff]

/-- The request is refused and nothing has changed, or the operation on exactly the ids that
are written is performed. -/
def ReaderCall.RefusedOrExact (call : ReaderCall) (s : AdminState) (reply : ServiceReply)
    (t : AdminState) : Prop :=
  (reply.error.isSome = true ∧ t = s) ∨
    ∃ op, call.route.Asks id op ∧ reply.error = none ∧ t = op.perform call.env s

/-- The request is not authorized, a number is refused by `stoul`, the service refuses the
operation on the ids modulo 2^32 (if the body names a door, where one is needed), or no number
is cut. -/
def ReaderCall.Unaliased (call : ReaderCall) (app : AppState) (adminToken : Bytes)
    (s : AdminState) : Prop :=
  checkAuth call.header adminToken = false ∨
    (∃ n ∈ call.route.numbers, 2 ^ 64 ≤ n.value) ∨
    (∀ op, call.route.Asks (· % 2 ^ 32) op → op.Refused app call.env s) ∨
    ∀ n ∈ call.route.numbers, n.value < 2 ^ 32

/-- The operation on the ids that are kept is the one that is written, if nothing is cut. -/
theorem asks_id_iff {route : ReaderRoute} {op : ReaderOp} (h : route.Asks (· % 2 ^ 32) op) :
    route.Asks id op ↔ ∀ n ∈ route.numbers, n.value < 2 ^ 32 := by
  unfold ReaderRoute.Asks at *
  cases route <;> cases op <;> simp only at h <;> simp [ReaderRoute.numbers, h]

/-- An operation that was performed is the one that is written. -/
theorem refusedOrExact_perform_iff {call : ReaderCall} {s : AdminState} {reply : ServiceReply}
    {op : ReaderOp} (herror : reply.error = none) :
    call.RefusedOrExact s reply (op.perform call.env s) ↔ call.route.Asks id op := by
  constructor
  · rintro (⟨hsome, -⟩ | ⟨op', hexact, -, hperform⟩)
    · simp [herror] at hsome
    · rwa [perform_inj hperform]
  · intro hexact
    exact .inr ⟨op, hexact, herror, rfl⟩

section

variable {app : AppState} {adminToken : Bytes} {call : ReaderCall}

theorem readerRoute_of_error (hauth : checkAuth call.header adminToken = true) {e : Exn}
    (hop : call.route.op = .error e) (s : AdminState) :
    Returns (app.readerRoute adminToken call) s (errorResult e.what call.route.errorStatus) s := by
  rw [AppState.readerRoute, if_neg (by simp [hauth]), hop]
  apply Throws.recover
  exact throws_bind.mpr (.inl (throws_lift.mpr ⟨rfl, rfl⟩))

theorem readerRoute_of_ok (hauth : checkAuth call.header adminToken = true) {op : ReaderOp}
    (hop : call.route.op = .ok op) : app.readerRoute adminToken call =
      recover (fun e => errorResult e.what call.route.errorStatus) (op.service app call.env) := by
  rw [AppState.readerRoute, if_neg (by simp [hauth]), hop]
  rfl

/-- A route always answers. It refuses, or performs exactly what is written, if and only if no
number of the path is cut or something else refuses the request. -/
theorem route_exact_iff (app : AppState) (adminToken : Bytes) (call : ReaderCall)
    (s : AdminState) :
    ∃ reply t, Returns (app.readerRoute adminToken call) s reply t ∧
      (call.RefusedOrExact s reply t ↔ call.Unaliased app adminToken s) := by
  cases hauth : checkAuth call.header adminToken with
  | false =>
    refine ⟨errorResult "unauthorized" 401, s, ?_, iff_of_true (.inl ⟨rfl, rfl⟩) (.inl hauth)⟩
    rw [AppState.readerRoute, if_pos hauth]
    exact returns_pure.mpr ⟨rfl, rfl⟩
  | true =>
    cases hop : call.route.op with
    | error e =>
      refine ⟨_, s, readerRoute_of_error hauth hop s, iff_of_true (.inl ⟨rfl, rfl⟩) (.inr ?_)⟩
      by_cases hbig : ∃ n ∈ call.route.numbers, 2 ^ 64 ≤ n.value
      · exact .inl hbig
      · refine .inr (.inl fun op hasks => ?_)
        have hsmall : ∀ n ∈ call.route.numbers, n.value < 2 ^ 64 := by simpa using hbig
        rw [op_eq_ok_iff.mpr ⟨hsmall, hasks⟩] at hop
        cases hop
    | ok op =>
      obtain ⟨hsmall, hasks⟩ := op_eq_ok_iff.mp hop
      rw [readerRoute_of_ok hauth hop]
      by_cases hrefused : op.Refused app call.env s
      · obtain ⟨reply, herror, hret⟩ := service_refuses hrefused
          fun e => (rfl : (errorResult e.what call.route.errorStatus).error.isSome = true)
        refine ⟨reply, s, hret, iff_of_true (.inl ⟨herror, rfl⟩) (.inr (.inr (.inl ?_)))⟩
        intro op' hasks'
        have hop' : call.route.op = .ok op' := op_eq_ok_iff.mpr ⟨hsmall, hasks'⟩
        rwa [← Except.ok.inj (hop.symm.trans hop')]
      · obtain ⟨reply, herror, hret⟩ := service_performs hrefused
        refine ⟨reply, _, hret.recover _, ?_⟩
        rw [refusedOrExact_perform_iff herror, asks_id_iff hasks]
        constructor
        · intro hall
          exact .inr (.inr (.inr hall))
        · rintro (hno | ⟨n, hn, hbig⟩ | hnone | hall)
          · simp [hauth] at hno
          · exact absurd (hsmall n hn) (by omega)
          · exact absurd (hnone op hasks) hrefused
          · exact hall

end

end

/-! ## A number between the two sizes -/

/-- 2^32 + 7 -/
def farDigits : Digits where
  text := bytesOf "4294967303"
  nonempty := by decide
  isDigit := by decide +kernel

/-- Reader 7 is the only one. -/
def oneReader : AdminState where
  db := SqliteAccessStore.upsertReader 7 1 .empty
  engine := .initial

def farDelete : ReaderCall where
  route := .deleteReader farDigits
  header := []
  env := {}

/-- The deletion of reader 4294967303 deletes reader 7. -/
theorem far_delete_deletes_another :
    letI : JsonLib := .requests
    letI : JsonIntegers := ⟨fun _ => none, fun _ => none⟩
    ∃ reply t, Returns (AppState.readerRoute sampleApp [] farDelete) oneReader reply t ∧
      bindInt 7 ∈ oneReader.db.readers ∧ bindInt 7 ∉ t.db.readers ∧
      ¬ farDelete.RefusedOrExact oneReader reply t := by
  let _ : JsonLib := .requests
  let _ : JsonIntegers := ⟨fun _ => none, fun _ => none⟩
  have hop : farDelete.route.op = .ok (.deleteReader 7) :=
    op_eq_ok_iff.mpr ⟨by decide +kernel, rfl⟩
  have hserved : ¬ (ReaderOp.deleteReader 7).Refused sampleApp farDelete.env oneReader := nofun
  obtain ⟨reply, herror, hret⟩ := service_performs hserved
  refine ⟨reply, (ReaderOp.deleteReader 7).perform farDelete.env oneReader, ?_, ?_, ?_, ?_⟩
  · rw [readerRoute_of_ok rfl hop]
    exact hret.recover _
  · simp [oneReader, SqliteAccessStore.upsertReader]
  · simp [ReaderOp.perform, ReaderOp.effect, AdminState.told, AdminState.changed, StoreOp.step,
      StoreOp.exec, SqliteAccessStore.deleteReader]
  · rw [refusedOrExact_perform_iff herror]
    intro (hexact : (7 : UInt32).toNat = 4294967303)
    exact absurd hexact (by decide)

end AccessSecurity.Admin
