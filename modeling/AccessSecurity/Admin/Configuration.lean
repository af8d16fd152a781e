import AccessSecurity.Admin.HexText
import AccessSecurity.Storage.AccessStore

/-!
# Configuration

`config.cpp` over an arbitrary YAML library, and the start of `main.cpp`. Each field has one
key in one section, and a default where the file does not have the key. A server that starts has
keys, and a replay window that is not empty when the replay check is on
(`loadFromYaml_windowSize`).
-/

namespace AccessSecurity.Admin

open Foundation Crypto Core Storage

/-! ## Structures -/

structure StorageConfig where
  sqlitePath : String := "data/access.db"
  deriving DecidableEq, Repr

structure AdminConfig where
  bindHost : String := "127.0.0.1"
  port : UInt16 := 8080
  adminToken : String := ""
  hwSharedSecretHex : String := ""
  maxUploadBytes : UInt64 := 20 * 1024 * 1024
  maxEvents : UInt64 := 1024
  decisionMode : String := "local"
  decisionUrl : String := "http://127.0.0.1:8081"
  deriving DecidableEq, Repr

structure KeyManagementYaml where
  currentKeyVersion : UInt32 := 1
  allowPreviousKeyVersion : Bool := true
  masterKeyPath : String := "secrets/master_key.hex"
  deriving DecidableEq, Repr

/-- `ExperimentConfig` with the field that only the audit log reads. -/
structure ExperimentYaml extends ExperimentConfig where
  auditChainEnabled : Bool := true
  deriving DecidableEq, Repr

/-- `config_loader::Config`; the modes in `frameHandler` are not loaded. -/
structure LoadedConfig where
  frameHandler : FrameHandlerConfig := {}
  storage : StorageConfig := {}
  admin : AdminConfig := {}
  keyManagement : KeyManagementYaml := {}
  experiment : ExperimentYaml := {}
  deriving DecidableEq, Repr

/-! ## YAML -/

/-- A node; the members of a map have different keys. -/
inductive Yaml where
  | undefined
  | null
  | scalar (text : String)
  | sequence (items : List Yaml)
  | map (members : List (String × Yaml))

/-- The YAML library: `LoadFile`, the exception of a subscript on a scalar, and `as<T>`. -/
class YamlLib where
  loadFile : String → Except Exn Yaml
  badSubscript : String → Exn
  asBool : Yaml → Except Exn Bool
  asUInt16 : Yaml → Except Exn UInt16
  asUInt32 : Yaml → Except Exn UInt32
  asUInt64 : Yaml → Except Exn UInt64
  asString : Yaml → Except Exn String

/-- `!node` -/
def Yaml.isUndefined : Yaml → Bool
  | .undefined => true
  | _ => false

section

variable [YamlLib]

/-- `node[key]` -/
def Yaml.get (key : String) : Yaml → Except Exn Yaml
  | .map members => return (members.lookup key).getD .undefined
  | .scalar _ => throw (YamlLib.badSubscript key)
  | _ => return .undefined

def readValue {α : Type} (as : Yaml → Except Exn α) (node : Yaml) (key : String)
    (defaultValue : α) : Except Exn α := do
  if node.isUndefined then return defaultValue
  else
    let value ← node.get key
    if value.isUndefined then return defaultValue else as value

/-! ## Sections -/

def loadFrameHandler (node : Yaml) : Except Exn FrameHandlerConfig := do
  let cfg : FrameHandlerConfig := {}
  let antiReplayEnabled ←
    readValue YamlLib.asBool node "anti_replay_enabled" cfg.antiReplayEnabled
  let replayWindowSize ← readValue YamlLib.asUInt64 node "replay_window_size" cfg.replayWindowSize
  let maxCtLen ← readValue YamlLib.asUInt32 node "max_ct_len" cfg.maxCtLen
  let maxSkewMs ← readValue YamlLib.asUInt64 node "max_skew_ms" cfg.maxSkewMs
  let allowPreviousKeyVersion ←
    readValue YamlLib.asBool node "allow_previous_key_version" cfg.allowPreviousKeyVersion
  let enforceReaderDoorBinding ←
    readValue YamlLib.asBool node "enforce_reader_door_binding" cfg.enforceReaderDoorBinding
  if antiReplayEnabled && replayWindowSize == 0 then
    throw ⟨"config: replay_window_size must be > 0 when anti_replay_enabled"⟩
  else
    return { cfg with
      antiReplayEnabled, replayWindowSize, maxCtLen, maxSkewMs, allowPreviousKeyVersion,
      enforceReaderDoorBinding }

def loadStorage (node : Yaml) : Except Exn StorageConfig := do
  let cfg : StorageConfig := {}
  let sqlitePath ← readValue YamlLib.asString node "sqlite_path" cfg.sqlitePath
  return { sqlitePath }

def loadAdmin (node : Yaml) : Except Exn AdminConfig := do
  let cfg : AdminConfig := {}
  let bindHost ← readValue YamlLib.asString node "bind_host" cfg.bindHost
  let port ← readValue YamlLib.asUInt16 node "port" cfg.port
  let adminToken ← readValue YamlLib.asString node "admin_token" cfg.adminToken
  let hwSharedSecretHex ←
    readValue YamlLib.asString node "hw_shared_secret_hex" cfg.hwSharedSecretHex
  let maxUploadBytes ← readValue YamlLib.asUInt64 node "max_upload_bytes" cfg.maxUploadBytes
  let maxEvents ← readValue YamlLib.asUInt64 node "max_events" cfg.maxEvents
  let decisionMode ← readValue YamlLib.asString node "decision_mode" cfg.decisionMode
  let decisionUrl ← readValue YamlLib.asString node "decision_url" cfg.decisionUrl
  return {
    bindHost, port, adminToken, hwSharedSecretHex, maxUploadBytes, maxEvents, decisionMode,
    decisionUrl }

def loadKeyManagement (node : Yaml) : Except Exn KeyManagementYaml := do
  let cfg : KeyManagementYaml := {}
  let currentKeyVersion ←
    readValue YamlLib.asUInt32 node "current_key_version" cfg.currentKeyVersion
  let allowPreviousKeyVersion ←
    readValue YamlLib.asBool node "allow_previous_key_version" cfg.allowPreviousKeyVersion
  let masterKeyPath ← readValue YamlLib.asString node "master_key_path" cfg.masterKeyPath
  return { currentKeyVersion, allowPreviousKeyVersion, masterKeyPath }

def loadExperiment (node : Yaml) : Except Exn ExperimentYaml := do
  let cfg : ExperimentYaml := {}
  let cipherMode ← readValue YamlLib.asString node "cipher_mode" cfg.cipherMode
  let nonceMode ← readValue YamlLib.asString node "nonce_mode" cfg.nonceMode
  let keyDerivationMode ←
    readValue YamlLib.asString node "key_derivation_mode" cfg.keyDerivationMode
  let aadMode ← readValue YamlLib.asString node "aad_mode" cfg.aadMode
  let pepperMode ← readValue YamlLib.asString node "pepper_mode" cfg.pepperMode
  let auditChainEnabled ←
    readValue YamlLib.asBool node "audit_chain_enabled" cfg.auditChainEnabled
  let misuseDetectionEnabled ←
    readValue YamlLib.asBool node "misuse_detection_enabled" cfg.misuseDetectionEnabled
  let rollbackThreshold ←
    readValue YamlLib.asUInt64 node "rollback_threshold" cfg.rollbackThreshold
  let tagFailStreakLimit ←
    readValue YamlLib.asUInt32 node "tag_fail_streak_limit" cfg.tagFailStreakLimit
  return {
    cipherMode, nonceMode, keyDerivationMode, aadMode, pepperMode, auditChainEnabled,
    misuseDetectionEnabled, rollbackThreshold, tagFailStreakLimit }

def loadFromYaml (path : String) : Except Exn LoadedConfig := do
  match YamlLib.loadFile path with
  | .error e => throw ⟨"config: failed to load yaml: " ++ e.what⟩
  | .ok root =>
    let frameHandler ← loadFrameHandler (← root.get "frame_handler")
    let storage ← loadStorage (← root.get "storage")
    let admin ← loadAdmin (← root.get "admin")
    let keyManagement ← loadKeyManagement (← root.get "key_management")
    let experiment ← loadExperiment (← root.get "experiment")
    return { frameHandler, storage, admin, keyManagement, experiment }

end

/-! ## Start -/

/-- What `main` has built when the servers begin to listen. -/
structure Server where
  cfg : LoadedConfig
  keyManager : KeyManager
  windowSize : cfg.frameHandler.antiReplayEnabled = true → cfg.frameHandler.replayWindowSize ≠ 0
  keyVersion : cfg.keyManagement.currentKeyVersion ≠ 0

/-- `files` has the contents of the files that can be opened. -/
def loadMasterKeyHexFile (files : String → Option Bytes) (path : String) :
    Except Exn (ByteArr 32) :=
  match files path with
  | none => throw ⟨"loadMasterKeyHexFile: failed to open file: " ++ path⟩
  | some content => parseHex content

theorem loadFrameHandler_windowSize [YamlLib] {node : Yaml} {cfg : FrameHandlerConfig}
    (h : loadFrameHandler node = .ok cfg) (hreplay : cfg.antiReplayEnabled = true) :
    cfg.replayWindowSize ≠ 0 := by
  simp only [loadFrameHandler, except_bind_ok] at h
  obtain ⟨enabled, -, size, -, maxCtLen, -, maxSkewMs, -, allow, -, enforce, -, h⟩ := h
  split at h
  · cases h
  · rename_i hbad
    rw [except_pure_ok.mp h] at hreplay ⊢
    simpa [show enabled = true from hreplay] using hbad

theorem loadFromYaml_windowSize [YamlLib] {path : String} {cfg : LoadedConfig}
    (h : loadFromYaml path = .ok cfg) (hreplay : cfg.frameHandler.antiReplayEnabled = true) :
    cfg.frameHandler.replayWindowSize ≠ 0 := by
  unfold loadFromYaml at h
  cases hfile : YamlLib.loadFile path with
  | error e => simp [hfile, throw, throwThe, MonadExceptOf.throw] at h
  | ok root =>
    simp only [hfile, except_bind_ok, except_pure_ok] at h
    obtain ⟨_, -, _, hframe, _, -, _, -, _, -, _, -, _, -, _, -, _, -, _, -, rfl⟩ := h
    exact loadFrameHandler_windowSize hframe hreplay

/-- `main` up to the construction of `AppState`. -/
def start [YamlLib] (files : String → Option Bytes) (cfgPath : String) : Except Exn Server :=
  match hload : loadFromYaml cfgPath with
  | .error e => throw e
  | .ok cfg => do
    let master ← loadMasterKeyHexFile files cfg.keyManagement.masterKeyPath
    if hversion : cfg.keyManagement.currentKeyVersion = 0 then
      throw ⟨"KeyManager: currentKeyVersion must be > 0"⟩
    else return ⟨cfg, ⟨master⟩, loadFromYaml_windowSize hload, hversion⟩

def Server.config (srv : Server) : Config where
  frameHandler := srv.cfg.frameHandler
  decisionMode := srv.cfg.admin.decisionMode
  experiment := srv.cfg.experiment.toExperimentConfig

/-- The application on tables with these contents. -/
def Server.app (srv : Server) (db : AccessDb) : AppState where
  cfg := srv.config
  keyManager := srv.keyManager
  store := db.answers

end AccessSecurity.Admin
