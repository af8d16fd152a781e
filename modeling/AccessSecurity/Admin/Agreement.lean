import AccessSecurity.Admin.HwService
import AccessSecurity.Decision.Outcome

/-!
# Agreement of sender and receiver

The frame that the sender builds, as data (`build_eq`), and that the receiver gets back
from it what was put in: the header, the payload, the request, and the nonce that the
detector recomputes (`sender_receiver_agree`). The two sides share nothing but the modes
of the configuration and the master key.
-/

namespace AccessSecurity.Admin

open Foundation Protocol Crypto Core Decision

/-- Valid UTF-8, the strings that the JSON library accepts. -/
def ValidUtf8 (b : Bytes) : Prop := ∃ s : String, bytesOf s = b

/-- The JSON library writes requests with valid strings, and reads back what it wrote. -/
def RequestsRoundTrip [JsonLib] : Prop :=
  ∀ uid action, ValidUtf8 uid → ValidUtf8 action → ∃ text,
    JsonLib.dump (requestJson uid action) = .ok text ∧
      JsonLib.parse text = .ok (requestJson uid action)

/-- A written request is parsed as the request it is, if its strings are not empty. -/
theorem parseAccessRequestJson_of_roundTrip [JsonLib] {uid action text : Bytes}
    (h : JsonLib.parse text = .ok (requestJson uid action)) {request : AccessRequest} :
    parseAccessRequestJson text = .ok request ↔
      request = ⟨uid, action⟩ ∧ uid ≠ [] ∧ action ≠ [] := by
  have hcard : Json.stringAt [(bytesOf "action", .string action), (bytesOf "card_id", .string uid)]
      "card_id" = some uid := by
    have hne : (bytesOf "card_id" == bytesOf "action") = false := by decide
    simp [Json.stringAt, List.lookup_cons, hne]
  have haction : Json.stringAt
      [(bytesOf "action", .string action), (bytesOf "card_id", .string uid)] "action" =
        some action := by
    simp [Json.stringAt]
  rw [parseAccessRequestJson_ok_iff, h]
  constructor
  · rintro ⟨members, hmembers, hc, ha, hcne, hane⟩
    obtain rfl : _ = members := by simpa [requestJson] using hmembers
    rw [hcard, Option.some.injEq] at hc
    rw [haction, Option.some.injEq] at ha
    subst hc ha
    exact ⟨rfl, hcne, hane⟩
  · rintro ⟨rfl, hcne, hane⟩
    exact ⟨_, rfl, hcard, haction, hcne, hane⟩

/-- The cipher of a request. -/
def SendRequest.mode (req : SendRequest) : CipherMode := .ofString req.cipherMode

/-- The receiver has the sender's key and modes. -/
structure SharedModes (en : Engine) (km : KeyManager) (req : SendRequest) : Prop where
  keyManager : en.keyManager = km
  keyDerivationMode : en.frameHandlerCfg.keyDerivationMode = req.keyDerivationMode
  aadMode : en.frameHandlerCfg.aadMode = req.aadMode
  cipherMode : en.frameHandlerCfg.cipherMode = req.cipherMode
  nonceMode : en.frameHandlerCfg.nonceMode = req.nonceMode

theorem AppState.sharedModes (app : AppState) (scan : Scan) (kv : UInt32) :
    SharedModes app.engine app.keyManager (app.sendRequest scan kv) :=
  ⟨rfl, rfl, rfl, rfl, rfl⟩

theorem SharedModes.mode_eq {en : Engine} {km : KeyManager} {req : SendRequest}
    (h : SharedModes en km req) : en.handler.mode = req.mode := by
  unfold FrameHandler.mode SendRequest.mode
  rw [← h.cipherMode]
  rfl

section

variable [Sodium]

/-! ## The frame of a request -/

namespace SendRequest

def key (req : SendRequest) (km : KeyManager) : AeadKey :=
  if req.keyDerivationMode = "direct" then km.masterAsAeadKey
  else km.aeadKey req.readerId req.keyVersion

def nonce (req : SendRequest) (km : KeyManager) : ByteArr 24 :=
  if req.nonceMode = "random" then randomNonce req.mode req.random
  else hmacNonce (km.nonceKey req.readerId req.keyVersion) req.mode
    (buildNonceContext req.readerId req.doorId req.tsUnixMs req.seq req.keyVersion)

def header (req : SendRequest) (km : KeyManager) : Header :=
  buildPacketHeader req.readerId req.doorId req.seq req.keyVersion req.tsUnixMs (req.nonce km)

def aad (req : SendRequest) (km : KeyManager) : Bytes :=
  if req.aadMode ≠ "none" then (req.header km).toBytes else []

def frame (req : SendRequest) (km : KeyManager) (payload : Bytes) : Frame :=
  let c := aeadSeal req.mode (req.key km) (effectiveNonce req.mode (req.nonce km)) (req.aad km)
    payload
  { header := req.header km, ct := c.1, tag := c.2 }

@[simp] theorem length_ct (req : SendRequest) (km : KeyManager) (payload : Bytes) :
    (req.frame km payload).ct.length = payload.length :=
  length_aeadSeal ..

variable [JsonLib]

/-- The sender fails only when the payload cannot be written. -/
theorem build_eq (km : KeyManager) (req : SendRequest) : buildEncryptedFrameBytes km req =
    (buildPayloadJson req.uid req.action).map fun payload => serialize (req.frame km payload) := by
  unfold buildEncryptedFrameBytes
  cases hpayload : buildPayloadJson req.uid req.action with
  | error e => rfl
  | ok payload =>
    have hgen : ∃ gen, createNonceGenerator req.nonceMode (.ofString req.cipherMode) km
        req.readerId req.keyVersion = .ok gen ∧ ∀ context, context = buildNonceContext req.readerId
          req.doorId req.tsUnixMs req.seq req.keyVersion →
            gen.generate req.random context = req.nonce km := by
      unfold createNonceGenerator nonce
      split_ifs with hrandom
      · exact ⟨_, rfl, fun _ _ => rfl⟩
      · rw [KeyManager.deriveNonceKey_ok]
        exact ⟨_, rfl, fun context hcontext => by rw [hcontext]; rfl⟩
    obtain ⟨gen, hgen, hnonce⟩ := hgen
    simp only [bind, Except.bind, hgen, hnonce _ rfl, Except.map, frame]
    by_cases hdirect : req.keyDerivationMode = "direct"
    · have hkey : req.key km = km.masterAsAeadKey := if_pos hdirect
      rw [if_pos hdirect, hkey]
      rfl
    · have hkey : req.key km = km.aeadKey req.readerId req.keyVersion := if_neg hdirect
      rw [if_neg hdirect, hkey, KeyManager.deriveAeadKey_ok]
      rfl

theorem build_ok_iff {km : KeyManager} {req : SendRequest} {frameBytes : Bytes} :
    buildEncryptedFrameBytes km req = .ok frameBytes ↔ ∃ payload,
      buildPayloadJson req.uid req.action = .ok payload ∧
        frameBytes = serialize (req.frame km payload) := by
  rw [build_eq]
  cases buildPayloadJson req.uid req.action with
  | error e => simp [Except.map]
  | ok payload => simp [Except.map, eq_comm]

/-- Whatever is built for a request is parsed as a frame with its reader and number. -/
theorem header_of_parse {km : KeyManager} {req : SendRequest} {frameBytes : Bytes}
    (hbuild : buildEncryptedFrameBytes km req = .ok frameBytes) {maxCtLen : UInt32} {f : Frame}
    (hparse : parseFrame frameBytes maxCtLen = .ok f) :
    f.header.readerId = req.readerId ∧ f.header.seq = req.seq := by
  obtain ⟨payload, -, rfl⟩ := build_ok_iff.mp hbuild
  obtain ⟨rfl, -⟩ := parseFrame_serialize_iff.mp hparse
  exact ⟨rfl, rfl⟩

end SendRequest

/-! ## The receiver -/

variable {en : Engine} {km : KeyManager} {req : SendRequest} (h : SharedModes en km req)

include h

theorem SharedModes.key_eq : en.handler.key (req.header km) = req.key km := by
  unfold FrameHandler.key SendRequest.key
  rw [← h.keyManager, ← h.keyDerivationMode]
  rfl

/-- The receiver opens the frame to the payload that was sealed. -/
theorem SharedModes.opens (hopen : OpenInvertsSeal) (payload : Bytes) :
    en.handler.opens (req.frame km payload) = some payload := by
  have haad : en.handler.aad (req.header km) = req.aad km := by
    unfold FrameHandler.aad SendRequest.aad
    rw [← h.aadMode]
    rfl
  have hkey : en.handler.key (req.frame km payload).header = req.key km := h.key_eq
  unfold FrameHandler.opens
  rw [h.mode_eq, hkey]
  have hheader : (req.frame km payload).header = req.header km := rfl
  rw [hheader, haad]
  exact hopen req.mode (req.key km) (effectiveNonce req.mode (req.nonce km)) (req.aad km) payload

/-- The detector recomputes the nonce that the sender used. -/
theorem SharedModes.nonceFor_eq (hmode : en.frameHandlerCfg.nonceMode = "deterministic") :
    en.nonceFor (req.header km) = (req.header km).nonce := by
  have hmode' : ¬ req.nonceMode = "random" := by
    rw [← h.nonceMode, hmode]
    decide
  have hnonce : (req.header km).nonce = req.nonce km := rfl
  rw [hnonce, SendRequest.nonce, if_neg hmode', ← h.keyManager]
  unfold Engine.nonceFor SendRequest.mode
  rw [← h.cipherMode]
  rfl

theorem SharedModes.nonceOk : en.nonceOk (req.header km) = true := by
  by_cases hmode : en.frameHandlerCfg.nonceMode = "deterministic"
  · simp [Engine.nonceOk, nonceEqual, h.nonceFor_eq hmode]
  · simp [Engine.nonceOk, hmode]

omit h in
/-- The frame is parsed when its payload is not too long. -/
theorem parseFrame_frame_iff {payload : Bytes} {maxCtLen : UInt32} {f : Frame} :
    parseFrame (serialize (req.frame km payload)) maxCtLen = .ok f ↔
      f = req.frame km payload ∧ payload.length ≤ maxCtLen.toNat := by
  rw [parseFrame_serialize_iff, SendRequest.length_ct]

variable [JsonLib]

/-- The receiver gets back what the sender put into a frame. -/
theorem sender_receiver_agree (hopen : OpenInvertsSeal) (hjson : RequestsRoundTrip)
    (huid : ValidUtf8 req.uid) (haction : ValidUtf8 req.action)
    (hfit : ∀ payload, buildPayloadJson req.uid req.action = .ok payload →
      payload.length ≤ en.frameHandlerCfg.maxCtLen.toNat)
    {now : UInt64} (htime : en.frameHandlerCfg.maxSkewMs ≠ 0 →
      ((now.toNat : Int) - req.tsUnixMs.toNat).natAbs ≤ en.frameHandlerCfg.maxSkewMs.toNat) :
    ∃ payload frameBytes frame,
      buildPayloadJson req.uid req.action = .ok payload ∧
      buildEncryptedFrameBytes km req = .ok frameBytes ∧
      parseFrame frameBytes en.frameHandlerCfg.maxCtLen = .ok frame ∧
      (frame.header.readerId = req.readerId ∧ frame.header.doorId = req.doorId ∧
        frame.header.tsUnixMs = req.tsUnixMs ∧ frame.header.seq = req.seq ∧
        frame.header.keyVersion = req.keyVersion ∧ frame.header.nonce = req.nonce km) ∧
      (∃ key, en.handler.deriveKey frame = .ok key ∧
        decrypt { key, cipherMode := .ofString en.frameHandlerCfg.cipherMode }
          { maxSkewMs := en.frameHandlerCfg.maxSkewMs, aadMode := en.frameHandlerCfg.aadMode }
          now frame = .ok payload) ∧
      (req.uid ≠ [] → req.action ≠ [] →
        parseAccessRequestJson payload = .ok ⟨req.uid, req.action⟩) ∧
      (en.frameHandlerCfg.nonceMode = "deterministic" → ∃ expected,
        en.expectedNonce frame.header = .ok expected ∧
          nonceEqual frame.header.nonce expected
            (nonceLenFor (.ofString en.frameHandlerCfg.cipherMode)) = true) := by
  obtain ⟨payload, hdump, hparse⟩ := hjson req.uid req.action huid haction
  have hbuild : buildEncryptedFrameBytes km req = .ok (serialize (req.frame km payload)) :=
    SendRequest.build_ok_iff.mpr ⟨payload, hdump, rfl⟩
  have hskew : en.handler.skew now (req.frame km payload) = none :=
    FrameHandler.skew_eq_none_iff.mpr htime
  refine ⟨payload, _, req.frame km payload, hdump, hbuild,
    parseFrame_frame_iff.mpr ⟨rfl, hfit payload hdump⟩, ⟨rfl, rfl, rfl, rfl, rfl, rfl⟩, ?_, ?_, ?_⟩
  · refine ⟨_, FrameHandler.deriveKey_ok _ _, ?_⟩
    have hdecrypt := FrameHandler.decrypt_eq en.handler now (req.frame km payload)
    rw [h.opens hopen, hskew] at hdecrypt
    exact hdecrypt
  · intro hcard hact
    exact (parseAccessRequestJson_of_roundTrip hparse).mpr ⟨rfl, hcard, hact⟩
  · intro hmode
    refine ⟨_, Engine.expectedNonce_ok en _, ?_⟩
    have hnonce : en.nonceFor (req.frame km payload).header = (req.frame km payload).header.nonce :=
      h.nonceFor_eq hmode
    simp [nonceEqual, hnonce]

end

/-! ## Scans -/

theorem pushHwEvent_control {en : Engine} {env : Env} {message : Bytes} {readerId doorId : UInt32}
    {seq : UInt64} {s t : EngineState} {a : Unit}
    (h : Returns (pushHwEvent en env message readerId doorId seq) s a t) :
    Engine.SameControl s t :=
  Engine.push_control h

section

variable [Sodium] [JsonLib] {app : AppState} {scan : Scan} {s t : EngineState}

/-- A scan that returns was made at an unknown reader, or its frame was decided. -/
theorem returns_processHwUid {resp : HwResponse} (h : Returns (app.processHwUid scan) s resp t) :
    (app.store.currentKeyVersionForReader scan.req.readerId = 0 ∧
      resp = { allow := false, reason := "unknown_reader" } ∧ Engine.SameControl s t) ∨
    (app.store.currentKeyVersionForReader scan.req.readerId ≠ 0 ∧ ∃ frameBytes u r,
      buildEncryptedFrameBytes app.keyManager (app.sendRequest scan
        (app.store.currentKeyVersionForReader scan.req.readerId)) = .ok frameBytes ∧
      Engine.SameControl s u ∧ resp.allow = r.allow ∧ resp.reason = r.reason ∧
      Returns (if app.cfg.decisionMode = "remote" then
          remoteDecision app.engine frameBytes scan.attempts.toList
        else app.engine.handleFrameBytes scan.env frameBytes) u r t) := by
  unfold AppState.processHwUid at h
  simp only [returns_bind, returns_lift] at h
  obtain ⟨kv, _, ⟨hkv, rfl⟩, h⟩ := h
  obtain ⟨rfl, -⟩ := Env.access_ok hkv
  split_ifs at h with hzero hremote
  · simp only [returns_bind, returns_pure] at h
    obtain ⟨_, u, hpush, rfl, rfl⟩ := h
    exact .inl ⟨hzero, rfl, pushHwEvent_control hpush⟩
  all_goals
    simp only [returns_bind, returns_lift, returns_pure] at h
    obtain ⟨_, u, hpush, frameBytes, _, ⟨hbuild, rfl⟩, r, _, hdecide, rfl, rfl⟩ := h
    refine .inr ⟨hzero, frameBytes, _, r, hbuild, pushHwEvent_control hpush, rfl, rfl, ?_⟩
  · rwa [if_pos hremote]
  · rwa [if_neg hremote]

end

/-! ## A sample scan -/

theorem requests_roundTrip : @RequestsRoundTrip .requests := by
  intro uid action _ _
  refine ⟨RequestText.dump uid action, rfl, ?_⟩
  have hparse := RequestText.parse_dump uid action
  show (RequestText.parse (RequestText.dump uid action)).elim _ _ = _
  rw [hparse]
  rfl

/-- A scan of the sample application, with the nonce checked and encryption that hides nothing. -/
theorem sender_receiver_agree_sample :
    letI : Sodium := .transparent
    letI : JsonLib := .requests
    let req := sampleApp.sendRequest (sampleScan 1 .answered) 1
    ∃ payload frameBytes frame, buildEncryptedFrameBytes sampleApp.keyManager req = .ok frameBytes ∧
      parseFrame frameBytes 4096 = .ok frame ∧ frame.header.seq = 1 ∧
      parseAccessRequestJson payload = .ok ⟨bytesOf "card", bytesOf "open"⟩ := by
  let _ : Sodium := .transparent
  let _ : JsonLib := .requests
  let req := sampleApp.sendRequest (sampleScan 1 .answered) 1
  have hshared : SharedModes sampleApp.engine sampleApp.keyManager req :=
    sampleApp.sharedModes (sampleScan 1 .answered) 1
  have hfit : ∀ payload, buildPayloadJson req.uid req.action = .ok payload →
      payload.length ≤ sampleApp.engine.frameHandlerCfg.maxCtLen.toNat := by
    intro payload hpayload
    obtain rfl : RequestText.dump (bytesOf "card") (bytesOf "open") = payload :=
      Except.ok.inj hpayload
    decide +kernel
  have htime : sampleApp.engine.frameHandlerCfg.maxSkewMs ≠ 0 →
      (((0 : UInt64).toNat : Int) - req.tsUnixMs.toNat).natAbs ≤
        sampleApp.engine.frameHandlerCfg.maxSkewMs.toNat := by decide
  obtain ⟨payload, frameBytes, frame, -, hbuild, hparse, hheader, -, hrequest, -⟩ :=
    sender_receiver_agree hshared Sodium.transparent_openInvertsSeal requests_roundTrip
      ⟨"card", rfl⟩ ⟨"open", rfl⟩ hfit htime
  exact ⟨payload, frameBytes, frame, hbuild, hparse, hheader.2.2.2.1,
    hrequest (by decide) (by decide)⟩

end AccessSecurity.Admin
