import AccessSecurity.Core.AnomalyDetector
import AccessSecurity.Core.FrameHandler
import AccessSecurity.Decision.Payload

/-!
# Decision engine

`engine.cpp`. The engine runs the frame handler on the caller's replay windows, then
the detector's checks, then the access policy, and writes the audit log and the event
bus on the way. What a call changes is one state; the store, the keys and the
configuration stay fixed. The event bus is represented by the events pushed to it, in
order.
-/

namespace AccessSecurity.Decision

open Foundation Protocol Crypto Core

variable [Sodium] [JsonLib]

structure AuditEvent where
  tsUnixMs : UInt64 := 0
  readerId : UInt32 := 0
  doorId : UInt32 := 0
  seq : UInt64 := 0
  allow : Bool := false
  reason : Bytes := []
  cardId : Bytes := []
  action : Bytes := []
  deriving DecidableEq, Repr

/-- An event as it is pushed; the bus assigns the id. -/
structure Event where
  tsUnixMs : UInt64 := 0
  kind : String
  message : Bytes
  readerId : UInt32 := 0
  doorId : UInt32 := 0
  seq : UInt64 := 0
  allow : Bool := false
  reason : String := ""
  deriving DecidableEq, Repr

structure DecisionResult where
  allow : Bool := false
  reason : String := ""
  deriving DecidableEq, Repr

structure EngineState where
  windows : ReplayWindowMap
  readers : Readers
  audit : List AuditEvent
  events : List Event

def EngineState.initial : EngineState where
  windows := .empty
  readers _ := none
  audit := []
  events := []

abbrev EngineM := EStateM Exn EngineState

/-- `DecisionEngine`; the detector is given by its configuration, and `audited` and
`published` say whether an audit log and an event bus are attached. -/
structure Engine where
  store : Option AccessStore
  keyManager : KeyManager
  frameHandlerCfg : FrameHandlerConfig := {}
  detector : Option DetectorConfig := none
  audited : Bool := true
  published : Bool := true

namespace Engine

def handler (en : Engine) : FrameHandler where
  keyManager := en.keyManager
  store := en.store
  config := en.frameHandlerCfg

/-- The configuration of the detector; without a detector, one that is not enabled. -/
def config (en : Engine) : DetectorConfig := en.detector.getD {}

def detectorActive (en : Engine) : Bool := en.config.enabled

/-! ## Audit log and events -/

def push (en : Engine) (ev : Event) : EngineM Unit :=
  if en.published then modify fun s => { s with events := s.events ++ [ev] } else pure ()

def outcome (allow : Bool) : String := if allow then "ALLOW " else "DENY "

def logAuditEvent (en : Engine) (env : Env) (header : Header) (allow : Bool) (reason : String)
    (cardId action : Bytes) : EngineM Unit := do
  if en.audited then
    let event : AuditEvent := {
      tsUnixMs := header.tsUnixMs
      readerId := header.readerId
      doorId := header.doorId
      seq := header.seq
      allow
      reason := bytesOf reason
      cardId
      action }
    lift (env.access .auditAppend ())
    modify fun s => { s with audit := s.audit ++ [event] }
    en.push {
      tsUnixMs := env.now .auditEvent
      kind := "audit"
      message := bytesOf ("audit append: " ++ outcome allow ++ reason)
      readerId := header.readerId
      doorId := header.doorId
      seq := header.seq
      allow
      reason }

def publishFrameEvent (en : Engine) (env : Env) (frameSize : Nat) : EngineM Unit :=
  en.push {
    tsUnixMs := env.now .frameEvent
    kind := "frame"
    message := bytesOf ("frame received, bytes=" ++ toString frameSize) }

def publishDecisionEvent (en : Engine) (env : Env) (frameResult : HandleResult) : EngineM Unit :=
  en.push {
    tsUnixMs := env.now .decisionEvent
    kind := "decision"
    readerId := frameResult.header.readerId
    doorId := frameResult.header.doorId
    seq := frameResult.header.seq
    allow := frameResult.allow
    reason := frameResult.reason
    message := bytesOf ("frame handler: " ++ outcome frameResult.allow ++ frameResult.reason) }

/-- Every caller passes an empty detail. -/
def publishAnomalyEvent (en : Engine) (env : Env) (readerId : UInt32) (type : AnomalyType) :
    EngineM Unit :=
  en.push {
    tsUnixMs := env.now .anomalyEvent
    kind := "anomaly"
    readerId
    message := bytesOf ("anomaly: " ++ anomalyTypeToString type)
    reason := anomalyTypeToString type }

def createDeniedResult (reason : String) : DecisionResult := { allow := false, reason }

/-! ## Access policy -/

/-- The HMAC of the card and the role it has, trying the previous pepper when allowed. -/
def resolveCardHmac (en : Engine) (env : Env) (store : AccessStore) (cardId : Bytes)
    (currentKv : UInt32) : Except Exn (Bytes × Option Bytes) := do
  if en.frameHandlerCfg.pepperMode = "static" then
    let pepper ← en.keyManager.deriveCardPepper 1
    let cardHmac ← CardIdHasher.hmacHex ⟨pepper⟩ cardId
    let role ← env.access .cardRole (store.roleForCardHmac cardHmac)
    return (cardHmac, role)
  else
    let pepperCur ← en.keyManager.deriveCardPepper currentKv
    let cardHmac ← CardIdHasher.hmacHex ⟨pepperCur⟩ cardId
    let role ← env.access .cardRole (store.roleForCardHmac cardHmac)
    if role.isNone ∧ en.frameHandlerCfg.allowPreviousKeyVersion ∧ 1 < currentKv then
      let pepperPrev ← en.keyManager.deriveCardPepper (currentKv - 1)
      let cardHmacPrev ← CardIdHasher.hmacHex ⟨pepperPrev⟩ cardId
      let rolePrev ← env.access .previousCardRole (store.roleForCardHmac cardHmacPrev)
      return (if rolePrev.isSome then cardHmacPrev else cardHmac, rolePrev)
    else return (cardHmac, role)

def checkRoleAccess (env : Env) (store : AccessStore) (doorId : UInt32) (role : Bytes) :
    Except Exn DecisionResult := do
  let allowed ← env.access .roleAllowed (store.isAllowed doorId role)
  if allowed then return { allow := true, reason := "ok" }
  else return { allow := false, reason := "forbidden" }

/-- A denial that is logged without a card. -/
def deny (en : Engine) (env : Env) (header : Header) (reason : String) :
    EngineM DecisionResult := do
  en.logAuditEvent env header false reason [] []
  return createDeniedResult reason

def checkAccessPolicy (en : Engine) (env : Env) (frameResult : HandleResult)
    (request : AccessRequest) : EngineM DecisionResult := do
  if request.action ≠ bytesOf "open" then
    en.deny env frameResult.header "bad_action"
  else
    match en.store with
    | none => en.deny env frameResult.header "no_store"
    | some store =>
      let currentKv ← lift (env.access .policyKeyVersion
        (store.currentKeyVersionForReader frameResult.header.readerId))
      if currentKv = 0 then
        en.deny env frameResult.header "unknown_reader"
      else
        let (cardHmac, role) ← lift (en.resolveCardHmac env store request.cardId currentKv)
        match role with
        | none =>
          en.logAuditEvent env frameResult.header false "unknown_card" cardHmac request.action
          return createDeniedResult "unknown_card"
        | some role =>
          let result ← lift (checkRoleAccess env store frameResult.header.doorId role)
          en.logAuditEvent env frameResult.header result.allow result.reason cardHmac request.action
          return result

/-! ## Detector checks -/

/-- An operation of the detector on one reader. -/
def report {α : Type} (readerId : UInt32) (op : ReaderState → α × ReaderState) : EngineM α := do
  let (a, readers) := (← get).readers.report readerId op
  modify fun s => { s with readers }
  return a

/-- Rollback check of a frame; `true` when the reader was quarantined for it. -/
def checkRollback (en : Engine) (env : Env) (header : Header) : EngineM Bool := do
  if en.detectorActive ∧ 0 < header.seq then
    let anomaly ← report header.readerId
      (ReaderState.reportSeq en.config header.seq (env.now .reportSeq))
    match anomaly with
    | some anomaly =>
      en.publishAnomalyEvent env header.readerId anomaly
      return true
    | none => return false
  else return false

/-- The nonce the sender should have used: the context is the header without its nonce. -/
def expectedNonce (en : Engine) (header : Header) : Except Exn (ByteArr 24) := do
  let nonceKey ← en.keyManager.deriveNonceKey header.readerId header.keyVersion
  let ctxHeader := { header with nonce := zeros 24 }
  return hmacNonce nonceKey (.ofString en.frameHandlerCfg.cipherMode) ctxHeader.toBytes

/-- Nonce check of a frame; `true` when the reader was quarantined for it. -/
def checkNonce (en : Engine) (env : Env) (header : Header) : EngineM Bool := do
  if en.detectorActive ∧ en.frameHandlerCfg.nonceMode = "deterministic" then
    let expected ← lift (en.expectedNonce header)
    if nonceEqual header.nonce expected
        (nonceLenFor (.ofString en.frameHandlerCfg.cipherMode)) then
      return false
    else
      let _ ← report header.readerId
        (ReaderState.reportNonceMismatch (env.now .reportNonceMismatch))
      en.publishAnomalyEvent env header.readerId .nonceMismatch
      return true
  else return false

/-- The answer for a reader in quarantine. -/
def refuseQuarantined (en : Engine) (env : Env) (frameResult : HandleResult) :
    EngineM DecisionResult := do
  en.logAuditEvent env frameResult.header false "quarantined" [] []
  en.publishDecisionEvent env frameResult
  return createDeniedResult "quarantined"

/-- Reports replays and authentication failures to the detector. -/
def reportDenied (en : Engine) (env : Env) (frameResult : HandleResult) : EngineM Unit := do
  if en.detectorActive then
    let readerId := frameResult.header.readerId
    if frameResult.reason = "replay" then
      let anomaly ← report readerId
        (ReaderState.reportReplay frameResult.header.seq (env.now .reportReplay))
      en.publishAnomalyEvent env readerId anomaly
    else if frameResult.reason = "mac_verification_failed" ∨
        frameResult.reason = "decrypt_failed" then
      let anomaly ← report readerId
        (ReaderState.reportTagFailure en.config (env.now .reportTagFailure))
      match anomaly with
      | some anomaly => en.publishAnomalyEvent env readerId anomaly
      | none => pure ()

/-- Reports an accepted frame to the detector. -/
def reportAllowed (en : Engine) (frameResult : HandleResult) : EngineM Unit :=
  if en.detectorActive then
    report frameResult.header.readerId (ReaderState.reportSuccess frameResult.header.seq)
  else pure ()

/-! ## Processing a frame -/

/-- The request in the plaintext of an accepted frame, and the policy on it. -/
def checkPayload (en : Engine) (env : Env) (frameResult : HandleResult) :
    EngineM DecisionResult :=
  match parseAccessRequestJson frameResult.plaintext with
  | .error _ => en.deny env frameResult.header "bad_payload"
  | .ok request => en.checkAccessPolicy env frameResult request

/-- The part of `handleFrameBytes` after the detector's checks. -/
def finish (en : Engine) (env : Env) (frameResult : HandleResult) : EngineM DecisionResult := do
  en.publishDecisionEvent env frameResult
  if frameResult.allow = false then
    en.reportDenied env frameResult
    en.deny env frameResult.header frameResult.reason
  else
    en.reportAllowed frameResult
    en.checkPayload env frameResult

def handleFrameBytes (en : Engine) (env : Env) (frameBytes : Bytes) : EngineM DecisionResult := do
  let frameResult ← zoom EngineState.windows (fun windows s => { s with windows })
    (en.handler.handle env frameBytes)
  en.publishFrameEvent env frameBytes.length
  if en.detectorActive ∧ (← get).readers.isQuarantined frameResult.header.readerId then
    en.refuseQuarantined env frameResult
  else if ← en.checkRollback env frameResult.header then
    en.refuseQuarantined env frameResult
  else if ← en.checkNonce env frameResult.header then
    en.refuseQuarantined env frameResult
  else
    en.finish env frameResult

/-! ## A permissive engine -/

/-- An engine with a permissive store and a detector that does not look at nonces. -/
def permissive : Engine where
  store := some .permissive
  keyManager := ⟨zeros 32⟩
  frameHandlerCfg := { nonceMode := "random" }
  detector := some { enabled := true }

/-- A frame that the permissive engine grants when nothing is encrypted. -/
def knock : Frame where
  header := { readerId := 7, doorId := 1, seq := 1, keyVersion := 1 }
  ct := RequestText.dump (bytesOf "card") (bytesOf "open")

end Engine

end AccessSecurity.Decision
