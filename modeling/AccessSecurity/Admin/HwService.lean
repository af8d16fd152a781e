import AccessSecurity.Decision.Engine

/-!
# Hardware scans

`hw_service.cpp`: a scan of a card is turned into an encrypted frame (`buildEncryptedFrameBytes`)
and decided by the engine, in process or through the decision endpoint of `main.cpp`
(`processHwUid`). The configuration is the part of `config.hpp` that the sender and the
engine share, and `AppState.engine` is the engine that `openOrCreate` builds from it.
-/

namespace AccessSecurity.Admin

open Foundation Protocol Crypto Core Decision

/-! ## Configuration -/

structure ExperimentConfig where
  cipherMode : String := "xchacha20"
  nonceMode : String := "deterministic"
  keyDerivationMode : String := "hkdf"
  aadMode : String := "full"
  pepperMode : String := "versioned"
  misuseDetectionEnabled : Bool := false
  rollbackThreshold : UInt64 := 100
  tagFailStreakLimit : UInt32 := 5
  deriving DecidableEq, Repr

structure Config where
  frameHandler : FrameHandlerConfig := {}
  decisionMode : String := "local"
  experiment : ExperimentConfig := {}
  deriving DecidableEq, Repr

/-- The parts of the application that do not change while scans are processed. -/
structure AppState where
  cfg : Config
  keyManager : KeyManager
  store : AccessStore

/-- The engine that `openOrCreate` builds: the modes are those of the experiment. -/
def AppState.engine (app : AppState) : Engine where
  store := some app.store
  keyManager := app.keyManager
  frameHandlerCfg := { app.cfg.frameHandler with
    keyDerivationMode := app.cfg.experiment.keyDerivationMode
    aadMode := app.cfg.experiment.aadMode
    pepperMode := app.cfg.experiment.pepperMode
    cipherMode := app.cfg.experiment.cipherMode
    nonceMode := app.cfg.experiment.nonceMode }
  detector := some {
    enabled := app.cfg.experiment.misuseDetectionEnabled
    rollbackThreshold := app.cfg.experiment.rollbackThreshold
    tagFailStreakLimit := app.cfg.experiment.tagFailStreakLimit }
  audited := true
  published := true

/-! ## Sender -/

/-- The arguments of `buildEncryptedFrameBytes`, and the bytes that the random number
generator delivers if it is asked. -/
structure SendRequest where
  readerId : UInt32
  doorId : UInt32
  seq : UInt64
  keyVersion : UInt32
  tsUnixMs : UInt64
  uid : Bytes
  action : Bytes
  keyDerivationMode : String
  aadMode : String
  cipherMode : String
  nonceMode : String
  random : Bytes
  deriving DecidableEq, Repr

variable [Sodium] [JsonLib]

def buildPayloadJson (uid action : Bytes) : Except Exn Bytes :=
  JsonLib.dump (requestJson uid action)

def buildPacketHeader (readerId doorId : UInt32) (seq : UInt64) (keyVersion : UInt32)
    (tsUnixMs : UInt64) (nonce : ByteArr 24) : Header where
  readerId := readerId
  doorId := doorId
  tsUnixMs := tsUnixMs
  seq := seq
  keyVersion := keyVersion
  nonce := nonce

inductive NonceGenerator where
  | random (cm : CipherMode)
  | hmac (nonceKey : AeadKey) (cm : CipherMode)

def NonceGenerator.generate (gen : NonceGenerator) (random context : Bytes) : ByteArr 24 :=
  match gen with
  | .random cm => randomNonce cm random
  | .hmac nonceKey cm => hmacNonce nonceKey cm context

def createNonceGenerator (nonceMode : String) (cm : CipherMode) (km : KeyManager)
    (readerId keyVersion : UInt32) : Except Exn NonceGenerator := do
  if nonceMode = "random" then return .random cm
  else
    let nonceKey ← km.deriveNonceKey readerId keyVersion
    return .hmac nonceKey cm

def buildNonceContext (readerId doorId : UInt32) (tsUnixMs seq : UInt64) (keyVersion : UInt32) :
    Bytes :=
  let h : Header := { readerId, doorId, tsUnixMs, seq, keyVersion, nonce := zeros 24 }
  h.toBytes

def encryptAndSerialize (aead : SecureAead) (header : Header) (payloadText : Bytes)
    (nonce : ByteArr 24) (aadMode : String) : Bytes :=
  let aad := if aadMode ≠ "none" then header.toBytes else []
  let c := aead.sealWithNonce payloadText aad nonce
  serialize { header, ct := c.ct, tag := c.tag }

def buildEncryptedFrameBytes (km : KeyManager) (req : SendRequest) : Except Exn Bytes := do
  let payloadText ← buildPayloadJson req.uid req.action
  let aeadKey ←
    if req.keyDerivationMode = "direct" then pure km.masterAsAeadKey
    else km.deriveAeadKey req.readerId req.keyVersion
  let cm := CipherMode.ofString req.cipherMode
  let nonceGen ← createNonceGenerator req.nonceMode cm km req.readerId req.keyVersion
  let context := buildNonceContext req.readerId req.doorId req.tsUnixMs req.seq req.keyVersion
  let nonce := nonceGen.generate req.random context
  let header := buildPacketHeader req.readerId req.doorId req.seq req.keyVersion req.tsUnixMs nonce
  return encryptAndSerialize ⟨aeadKey, cm⟩ header payloadText nonce req.aadMode

/-! ## Decision endpoint -/

/-- The answer of `/api/decision/frame`; its JSON carries the two fields unchanged. -/
structure DecisionReply where
  status : Nat
  allow : Bool
  reason : String
  deriving DecidableEq, Repr

def decisionEndpoint (en : Engine) (env : Env) (body : Bytes) : EngineM DecisionReply :=
  if body.isEmpty then pure { status := 400, allow := false, reason := "empty_frame" }
  else
    recover (fun _ => { status := 500, allow := false, reason := "internal_error" }) do
      let result ← en.handleFrameBytes env body
      return { status := 200, allow := result.allow, reason := result.reason }

/-- What becomes of a POST. -/
inductive Delivery where
  | requestLost
  | responseLost
  | answered
  deriving DecidableEq, Repr

/-- An attempt of the client, and what the endpoint meets if the request arrives. -/
structure Attempt where
  delivery : Delivery
  env : Env

/-- The reply that the client receives. -/
def Attempt.post (attempt : Attempt) (en : Engine) (body : Bytes) :
    EngineM (Option DecisionReply) :=
  match attempt.delivery with
  | .requestLost => pure none
  | .responseLost => do
    let _ ← decisionEndpoint en attempt.env body
    return none
  | .answered => do
    let reply ← decisionEndpoint en attempt.env body
    return some reply

/-- The loop over the attempts; all send the same frame. -/
def remoteDecision (en : Engine) (body : Bytes) : List Attempt → EngineM DecisionResult
  | [] => return { allow := false, reason := "remote_unavailable" }
  | attempt :: attempts => do
    match ← attempt.post en body with
    | some reply =>
      if reply.status = 200 then return { allow := reply.allow, reason := reply.reason }
      else remoteDecision en body attempts
    | none => remoteDecision en body attempts

/-! ## processHwUid -/

structure HwUidRequest where
  uid : Bytes
  readerId : UInt32
  doorId : UInt32
  hwSeq : UInt64
  action : Bytes := bytesOf "open"
  deriving DecidableEq, Repr

/-- A request, and what the call meets: the environment, random bytes, and the three
attempts to reach a remote endpoint. -/
structure Scan where
  req : HwUidRequest
  env : Env
  random : Bytes
  attempts : Vector Attempt 3

/-- `details` are the reader, the door, the sequence number and the key version. -/
structure HwResponse where
  allow : Bool
  reason : String
  details : Option (UInt32 × UInt32 × UInt64 × UInt32) := none
  deriving DecidableEq, Repr

def pushHwEvent (en : Engine) (env : Env) (message : Bytes) (readerId doorId : UInt32)
    (seq : UInt64) : EngineM Unit :=
  en.push {
    tsUnixMs := env.now .hwEvent
    kind := "hw"
    message
    readerId
    doorId
    seq }

/-- The frame that a scan sends at the reader's key version. -/
def AppState.sendRequest (app : AppState) (scan : Scan) (kv : UInt32) : SendRequest where
  readerId := scan.req.readerId
  doorId := scan.req.doorId
  seq := scan.req.hwSeq
  keyVersion := kv
  tsUnixMs := scan.env.now .hwTimestamp
  uid := scan.req.uid
  action := scan.req.action
  keyDerivationMode := app.cfg.experiment.keyDerivationMode
  aadMode := app.cfg.experiment.aadMode
  cipherMode := app.cfg.experiment.cipherMode
  nonceMode := app.cfg.experiment.nonceMode
  random := scan.random

def AppState.processHwUid (app : AppState) (scan : Scan) : EngineM HwResponse := do
  let req := scan.req
  let kv ← lift (scan.env.access .hwKeyVersion (app.store.currentKeyVersionForReader req.readerId))
  if kv = 0 then
    pushHwEvent app.engine scan.env (bytesOf "hw uid: unknown_reader") req.readerId req.doorId 0
    return { allow := false, reason := "unknown_reader" }
  else
    pushHwEvent app.engine scan.env (bytesOf "uid=" ++ req.uid) req.readerId req.doorId req.hwSeq
    let frameBytes ← lift (buildEncryptedFrameBytes app.keyManager (app.sendRequest scan kv))
    let r ←
      if app.cfg.decisionMode = "remote" then
        remoteDecision app.engine frameBytes scan.attempts.toList
      else app.engine.handleFrameBytes scan.env frameBytes
    return {
      allow := r.allow
      reason := r.reason
      details := some (req.readerId, req.doorId, req.hwSeq, kv) }

/-! ## An application -/

/-- Default modes with the detector on, and a store in which everything is allowed. -/
def sampleApp : AppState where
  cfg := { experiment := { misuseDetectionEnabled := true } }
  keyManager := ⟨zeros 32⟩
  store := .permissive

/-- A scan at reader 7 and door 1; every attempt has the same outcome. -/
def sampleScan (hwSeq : UInt64) (delivery : Delivery) : Scan where
  req := { uid := bytesOf "card", readerId := 7, doorId := 1, hwSeq }
  env := .quiet
  random := []
  attempts := Vector.replicate 3 ⟨delivery, .quiet⟩

end AccessSecurity.Admin
