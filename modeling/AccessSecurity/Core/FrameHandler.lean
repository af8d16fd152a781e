import AccessSecurity.Core.ReplayWindowMap
import AccessSecurity.Crypto.KeyManager
import AccessSecurity.Environment
import AccessSecurity.Protocol.FrameParser

/-!
# Frame handler

`handle_frame.cpp` and `frame_decryptor.cpp`: parse, look the reader up, check the key
version, check for a replay, decrypt, check the timestamp, and only then record the
sequence number. A check that fails gives an error result; only an access to the
database can throw.
-/

namespace AccessSecurity.Core

open Foundation Protocol Crypto

structure FrameHandlerConfig where
  antiReplayEnabled : Bool := true
  replayWindowSize : UInt64 := 256
  maxCtLen : UInt32 := 4096
  maxSkewMs : UInt64 := 0
  allowPreviousKeyVersion : Bool := true
  enforceReaderDoorBinding : Bool := true
  keyDerivationMode : String := "hkdf"
  aadMode : String := "full"
  pepperMode : String := "versioned"
  cipherMode : String := "xchacha20"
  nonceMode : String := "deterministic"
  deriving DecidableEq, Repr

structure HandleResult where
  allow : Bool := false
  reason : String := ""
  plaintext : Bytes := []
  header : Header := {}
  deriving DecidableEq, Repr

/-! ## Error codes -/

/-- `what.find(part) != npos` -/
def mentions (what part : String) : Bool := decide (part.toList <:+: what.toList)

def parseErrorToCode (what : String) : String :=
  if mentions what "too small" then "frame_too_small"
  else if mentions what "bad magic" then "bad_magic"
  else if mentions what "bad version" then "bad_protocol_version"
  else if mentions what "ctLen exceeds" then "ciphertext_too_large"
  else if mentions what "length mismatch" then "frame_truncated"
  else if mentions what "trailing bytes" then "frame_trailing_bytes"
  else "parse_error"

def makeError (reason : String) (header : Header) : HandleResult :=
  { allow := false, reason, header }

/-! ## FrameDecryptor -/

variable [Sodium]

structure DecryptorConfig where
  maxSkewMs : UInt64 := 0
  aadMode : String := "full"

def decryptFrame (aead : SecureAead) (config : DecryptorConfig) (frame : Frame) :
    Except Exn Bytes :=
  let aad := if config.aadMode ≠ "none" then frame.header.toBytes else []
  aead.openWithNonce frame.ct frame.tag aad frame.header.nonce

/-- The error code for a frame whose timestamp is too far from the clock. -/
def checkTimestamp (config : DecryptorConfig) (now frameTimestamp : UInt64) : Option String :=
  if config.maxSkewMs = 0 then none
  else
    let diff := if frameTimestamp ≤ now then now - frameTimestamp else frameTimestamp - now
    if config.maxSkewMs < diff then
      some (if frameTimestamp ≤ now then "too_old" else "too_future")
    else none

/-- The plaintext, or the error code of the failed decryption. -/
def decrypt (aead : SecureAead) (config : DecryptorConfig) (now : UInt64) (frame : Frame) :
    Except String Bytes :=
  match decryptFrame aead config frame with
  | .error _ => .error "decrypt_failed"
  | .ok plaintext =>
    match checkTimestamp config now frame.header.tsUnixMs with
    | some error => .error error
    | none => .ok plaintext

/-! ## FrameHandler -/

structure FrameHandler where
  keyManager : KeyManager
  store : Option AccessStore
  config : FrameHandlerConfig := {}

abbrev HandlerM := EStateM Exn ReplayWindowMap

namespace FrameHandler

/-- A read outside the input would not be an exception; there is none (`parse_eq`). -/
def parseFrame (fh : FrameHandler) (frameBytes : Bytes) : Except HandleResult Frame :=
  match Protocol.parseFrame frameBytes fh.config.maxCtLen with
  | .ok frame => .ok frame
  | .error (.error what) => .error (makeError (parseErrorToCode what) .empty)
  | .error .outOfBounds => .error (makeError "parse_error" .empty)

/-- The reader's current key version, or the error result. -/
def validateReader (fh : FrameHandler) (env : Env) (frame : Frame) :
    Except Exn (Except HandleResult UInt32) := do
  match fh.store with
  | none => return .error (makeError "no_store" frame.header)
  | some store =>
    let keyVersion ← env.access .handlerKeyVersion
      (store.currentKeyVersionForReader frame.header.readerId)
    if keyVersion = 0 then
      return .error (makeError "unknown_reader" frame.header)
    else if fh.config.enforceReaderDoorBinding then
      let bound ← env.access .readerDoor
        (store.isReaderAllowedDoor frame.header.readerId frame.header.doorId)
      if bound then return .ok keyVersion
      else return .error (makeError "reader_door_forbidden" frame.header)
    else return .ok keyVersion

def keyOk (fh : FrameHandler) (kv currentKv : UInt32) : Bool :=
  kv == currentKv || (fh.config.allowPreviousKeyVersion && 1 < currentKv && kv + 1 == currentKv)

def validateKeyVersion (fh : FrameHandler) (frame : Frame) (currentKv : UInt32) :
    Option HandleResult :=
  if fh.keyOk frame.header.keyVersion currentKv then none
  else some (makeError "bad_key_version" frame.header)

/-- The error result, if any, and the window pointer: the key of the window in the map. -/
def checkReplay (fh : FrameHandler) (frame : Frame) :
    HandlerM (Option HandleResult × Option UInt32) := do
  if fh.config.antiReplayEnabled then
    modify (·.getOrCreateWindow fh.config.replayWindowSize frame.header.readerId)
    if (← get).contains frame.header.readerId frame.header.seq then
      return (some (makeError "replay" frame.header), some frame.header.readerId)
    else return (none, some frame.header.readerId)
  else return (none, none)

def deriveKey (fh : FrameHandler) (frame : Frame) : Except HandleResult AeadKey :=
  if fh.config.keyDerivationMode = "direct" then .ok fh.keyManager.masterAsAeadKey
  else
    match fh.keyManager.deriveAeadKey frame.header.readerId frame.header.keyVersion with
    | .ok key => .ok key
    | .error _ => .error (makeError "key_derivation_failed" frame.header)

/-- The decryptor catches everything the decryption throws, so the handler's own
`mac_verification_failed` is never produced. -/
def tryDecrypt (fh : FrameHandler) (env : Env) (frame : Frame) (window : Option UInt32) :
    HandlerM HandleResult := do
  match fh.deriveKey frame with
  | .error err => return err
  | .ok key =>
    let aead : SecureAead := { key, cipherMode := .ofString fh.config.cipherMode }
    let config : DecryptorConfig :=
      { maxSkewMs := fh.config.maxSkewMs, aadMode := fh.config.aadMode }
    match decrypt aead config (env.now .skewCheck) frame with
    | .error error => return makeError error frame.header
    | .ok plaintext =>
      if fh.config.antiReplayEnabled then
        if let some readerId := window then
          modify (·.remember readerId frame.header.seq)
      return { allow := true, reason := "ok", plaintext, header := frame.header }

def handle (fh : FrameHandler) (env : Env) (frameBytes : Bytes) : HandlerM HandleResult := do
  match fh.parseFrame frameBytes with
  | .error err => return err
  | .ok frame =>
    match ← lift (fh.validateReader env frame) with
    | .error err => return err
    | .ok currentKeyVersion =>
      match fh.validateKeyVersion frame currentKeyVersion with
      | some err => return err
      | none =>
        match ← fh.checkReplay frame with
        | (some err, _) => return err
        | (none, window) => fh.tryDecrypt env frame window

end FrameHandler

end AccessSecurity.Core
