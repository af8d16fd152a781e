import AccessSecurity.Admin.HwService

/-!
# Hardware endpoint

The route `/api/hw/uid` of `routes_api.cpp`, with `verifyHwSignature` and `parseHwUidRequest`
of `hw_service.cpp`. The signature covers the method, the path and the body; what the server
remembers of earlier requests is looked at by the engine only.
-/

namespace AccessSecurity.Decision.Json

/-- The member that `at` finds; it throws on other values than objects. -/
def member (j : Json) (key : String) : Option Json :=
  match j with
  | .object members => members.lookup (bytesOf key)
  | _ => none

/-- `get<std::string>` -/
def getString (j : Json) : Option Bytes :=
  match j with
  | .string value => some value
  | _ => none

end AccessSecurity.Decision.Json

namespace AccessSecurity.Admin

open Foundation Crypto Core Decision

/-! ## Signatures -/

/-- A character that is not a hexadecimal digit counts as zero. -/
def hexNibble (c : UInt8) : UInt8 :=
  if 48 ≤ c ∧ c ≤ 57 then c - 48
  else if 97 ≤ c ∧ c ≤ 102 then 10 + (c - 97)
  else if 65 ≤ c ∧ c ≤ 70 then 10 + (c - 65)
  else 0

/-- The loop over the pairs of characters. -/
def hexPairs : Bytes → Bytes
  | hi :: lo :: rest => (hexNibble hi <<< 4 ||| hexNibble lo) :: hexPairs rest
  | _ => []

def hexToBytesLoose (hex : Bytes) : Bytes :=
  if hex.length % 2 ≠ 0 then [] else hexPairs hex

/-- Bytes of a fixed length, or the error. -/
def parseHexOfLength (length : Nat) (err : String) (hex : Bytes) : Except String Bytes :=
  let bytes := hexToBytesLoose hex
  if bytes.length ≠ length then throw err else return bytes

def parseHmacKey (hex : Bytes) : Except String Bytes := parseHexOfLength 32 "bad_hw_secret_len" hex

def parseSignature (hex : Bytes) : Except String Bytes :=
  parseHexOfLength 32 "bad_signature_len" hex

variable [Sodium]

def verifyHmac (msg key expectedSig : Bytes) : Bool := (hmacSha256 key msg).toList = expectedSig

/-- The error that the caller reports; `sodium_init` has succeeded at the start of the process
and does not fail later. -/
def verifyHwSignature (signatureHex body hwSecretHex : Bytes) : Except String Unit := do
  if hwSecretHex.isEmpty then throw "misconfigured"
  else if signatureHex.isEmpty then throw "missing_signature"
  else
    let key ← parseHmacKey hwSecretHex
    let sig ← parseSignature signatureHex
    let msg := bytesOf "POST /api/hw/uid\n" ++ body
    if verifyHmac msg key sig then return () else throw "bad_signature"

/-! ## Requests -/

/-- The library's conversions of JSON values to integers; `none` where they throw. -/
class JsonIntegers where
  getUInt32 : Json → Option UInt32
  getUInt64 : Json → Option UInt64

/-- `none` where something throws. -/
def parseHwUidRequest [JsonIntegers] (j : Json) : Option HwUidRequest := do
  let uid ←
    match j.member "uid" with
    | some value => value.getString
    | none => (← j.member "card_id").getString
  let readerId ← JsonIntegers.getUInt32 (← j.member "reader_id")
  let doorId ← JsonIntegers.getUInt32 (← j.member "door_id")
  let hwSeq ← JsonIntegers.getUInt64 (← j.member "hw_seq")
  let action ←
    match j.member "action" with
    | some value => value.getString
    | none => some (bytesOf "open")
  return { uid, readerId, doorId, hwSeq, action }

/-! ## The route -/

/-- What the hardware sends: the signature header and the body. -/
structure SignedRequest where
  signature : Bytes
  body : Bytes
  deriving DecidableEq, Repr

/-- A request that arrives, and what its processing meets. -/
structure HwCall where
  request : SignedRequest
  env : Env
  random : Bytes
  attempts : Vector Attempt 3

/-- The answers: a bad signature, an error, or the result of the processing (status 200). -/
inductive HwReply where
  | refused (status : Nat) (reason : String)
  | failed (status : Nat) (error : String)
  | processed (resp : HwResponse)
  deriving DecidableEq, Repr

def HwReply.allow : HwReply → Bool
  | .processed resp => resp.allow
  | _ => false

variable [JsonLib] [JsonIntegers]

/-- The part of the route before `processHwUid`: it does not look at the server's state. -/
def admitHwUid (hwSharedSecretHex : Bytes) (request : SignedRequest) :
    Except HwReply HwUidRequest :=
  match verifyHwSignature request.signature request.body hwSharedSecretHex with
  | .error sigErr => .error (.refused (if sigErr = "misconfigured" then 500 else 401) sigErr)
  | .ok () =>
    match JsonLib.parse request.body with
    | .error e => .error (.failed 400 e.what)
    | .ok j =>
      match parseHwUidRequest j with
      | none => .error (.failed 400 "invalid request")
      | some req =>
        if req.hwSeq = 0 then .error (.failed 400 "hw_seq must be > 0") else .ok req

def HwCall.scan (call : HwCall) (req : HwUidRequest) : Scan where
  req := req
  env := call.env
  random := call.random
  attempts := call.attempts

def AppState.hwUidRoute (app : AppState) (hwSharedSecretHex : Bytes) (call : HwCall) :
    EngineM HwReply :=
  match admitHwUid hwSharedSecretHex call.request with
  | .error reply => pure reply
  | .ok req =>
    recover (fun e => .failed 400 e.what) do
      let resp ← app.processHwUid (call.scan req)
      return .processed resp

end AccessSecurity.Admin
