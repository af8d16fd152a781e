import AccessSecurity.Core.FrameHandler

/-!
# Verdicts of the frame handler

The handler as a pure decision table: `returns_handle` says that a call that returns
gives the verdict of the table and what it does to the replay windows, and
`handle_total` that it returns unless the database fails. `Accepts` lists what holds
of the frames the table allows. The rest of the development uses these facts and never
the handler's code.
-/

namespace AccessSecurity.Core.FrameHandler

open Foundation Protocol Crypto

/-! ## The single checks -/

theorem parseFrame_error {fh : FrameHandler} {frameBytes : Bytes} {err : HandleResult}
    (h : fh.parseFrame frameBytes = .error err) : err.allow = false ∧ err.header = .empty := by
  unfold parseFrame at h
  split at h
  · simp at h
  · obtain rfl : _ = err := by simpa using h
    exact ⟨rfl, rfl⟩
  · obtain rfl : _ = err := by simpa using h
    exact ⟨rfl, rfl⟩

/-- The codes that parse errors are mapped to. -/
def parseErrorCodes : List String :=
  ["frame_too_small", "bad_magic", "bad_protocol_version", "ciphertext_too_large",
    "frame_truncated", "frame_trailing_bytes", "parse_error"]

theorem parseErrorToCode_mem (what : String) : parseErrorToCode what ∈ parseErrorCodes := by
  unfold parseErrorToCode
  split_ifs <;> simp [parseErrorCodes]

theorem parseFrame_reason_mem {fh : FrameHandler} {frameBytes : Bytes} {err : HandleResult}
    (h : fh.parseFrame frameBytes = .error err) : err.reason ∈ parseErrorCodes := by
  unfold parseFrame at h
  split at h
  · simp at h
  · obtain rfl : _ = err := by simpa using h
    exact parseErrorToCode_mem _
  · obtain rfl : _ = err := by simpa using h
    simp [makeError, parseErrorCodes]

theorem parseFrame_reason_ne {fh : FrameHandler} {frameBytes : Bytes} {err : HandleResult}
    {reason : String} (h : fh.parseFrame frameBytes = .error err)
    (hreason : reason ∉ parseErrorCodes) : err.reason ≠ reason := by
  rintro rfl
  exact hreason (parseFrame_reason_mem h)

/-- The codes of parse errors mean neither a replay nor a failed authentication. -/
theorem parseFrame_reason {fh : FrameHandler} {frameBytes : Bytes} {err : HandleResult}
    (h : fh.parseFrame frameBytes = .error err) : err.reason ≠ "replay" ∧
      err.reason ≠ "mac_verification_failed" ∧ err.reason ≠ "decrypt_failed" :=
  ⟨parseFrame_reason_ne h (by decide), parseFrame_reason_ne h (by decide),
    parseFrame_reason_ne h (by decide)⟩

theorem parseFrame_ok {fh : FrameHandler} {frameBytes : Bytes} {frame : Frame} :
    fh.parseFrame frameBytes = .ok frame ↔
      Protocol.parseFrame frameBytes fh.config.maxCtLen = .ok frame := by
  unfold parseFrame
  split <;> simp_all

theorem parseFrame_ne_ok {fh : FrameHandler} {frameBytes : Bytes} {err : HandleResult}
    (h : fh.parseFrame frameBytes = .error err) (frame : Frame) :
    Protocol.parseFrame frameBytes fh.config.maxCtLen ≠ .ok frame := by
  intro hparse
  rw [parseFrame_ok.mpr hparse] at h
  cases h

theorem validateReader_noFault (fh : FrameHandler) {env : Env} (henv : env.NoFault)
    (frame : Frame) : ∃ r, fh.validateReader env frame = .ok r := by
  unfold validateReader
  cases fh.store with
  | none => exact ⟨_, rfl⟩
  | some store =>
    simp only [henv.access, bind, Except.bind]
    split_ifs <;> exact ⟨_, rfl⟩

/-- The accepted key versions, in exact arithmetic: the wrap-around of `kv + 1` is never
taken for the current version because that is above one. -/
theorem keyOk_iff {fh : FrameHandler} {kv currentKv : UInt32} :
    fh.keyOk kv currentKv = true ↔ kv = currentKv ∨
      (fh.config.allowPreviousKeyVersion = true ∧ 1 < currentKv.toNat ∧
        kv.toNat + 1 = currentKv.toNat) := by
  have hkv := kv.toNat_lt
  have hcur := currentKv.toNat_lt
  have hsucc : kv + 1 = currentKv ↔ (kv.toNat + 1) % 2 ^ 32 = currentKv.toNat := by
    rw [← UInt32.toNat_inj, UInt32.toNat_add]
    rfl
  have hone : (1 : UInt32) < currentKv ↔ 1 < currentKv.toNat := UInt32.lt_iff_toNat_lt
  simp only [keyOk, Bool.or_eq_true, Bool.and_eq_true, beq_iff_eq, decide_eq_true_eq, hsucc, hone,
    and_assoc]
  refine or_congr_right (and_congr_right fun _ => ⟨fun h => ?_, fun h => ?_⟩)
  · omega
  · omega

def skew (fh : FrameHandler) (now : UInt64) (frame : Frame) : Option String :=
  checkTimestamp { maxSkewMs := fh.config.maxSkewMs, aadMode := fh.config.aadMode } now
    frame.header.tsUnixMs

theorem skew_eq_none_iff {fh : FrameHandler} {now : UInt64} {frame : Frame} :
    fh.skew now frame = none ↔ (fh.config.maxSkewMs ≠ 0 →
      ((now.toNat : Int) - frame.header.tsUnixMs.toNat).natAbs ≤ fh.config.maxSkewMs.toNat) := by
  unfold skew checkTimestamp
  by_cases hoff : fh.config.maxSkewMs = 0
  · simp [hoff]
  by_cases hle : frame.header.tsUnixMs ≤ now
  · have hsub := UInt64.toNat_sub_of_le _ _ hle
    rw [UInt64.le_iff_toNat_le] at hle
    simp only [hoff, if_false, hle, if_true, UInt64.le_iff_toNat_le]
    split_ifs with hdiff <;> rw [UInt64.lt_iff_toNat_lt, hsub] at hdiff
    · simp [hoff]
      omega
    · simp [hoff]
      omega
  · have hge : now ≤ frame.header.tsUnixMs := by
      rw [UInt64.le_iff_toNat_le] at hle ⊢
      omega
    have hsub := UInt64.toNat_sub_of_le _ _ hge
    rw [UInt64.le_iff_toNat_le] at hge
    simp only [hoff, if_false, hle]
    split_ifs with hdiff <;> rw [UInt64.lt_iff_toNat_lt, hsub] at hdiff
    · simp [hoff]
      omega
    · simp [hoff]
      omega

theorem skew_code {fh : FrameHandler} {now : UInt64} {frame : Frame} {error : String}
    (h : fh.skew now frame = some error) : error = "too_old" ∨ error = "too_future" := by
  unfold skew checkTimestamp at h
  dsimp only at h
  split_ifs at h with hoff hskew hpast
  · left
    simpa [eq_comm] using h
  · right
    simpa [eq_comm] using h

/-! ## What the handler does to the windows -/

/-- The windows after an accepted frame. -/
def recordFrame (fh : FrameHandler) (windows : ReplayWindowMap) (header : Header) :
    ReplayWindowMap :=
  if fh.config.antiReplayEnabled then
    windows.record fh.config.replayWindowSize header.readerId header.seq
  else windows

theorem recordFrame_on {fh : FrameHandler} (h : fh.config.antiReplayEnabled = true)
    (windows : ReplayWindowMap) (header : Header) : fh.recordFrame windows header =
      windows.record fh.config.replayWindowSize header.readerId header.seq := if_pos h

theorem recordFrame_off {fh : FrameHandler} (h : ¬ fh.config.antiReplayEnabled = true)
    (windows : ReplayWindowMap) (header : Header) : fh.recordFrame windows header = windows :=
  if_neg h

/-- What a call of the handler does to the windows: an accepted frame is recorded, a
refused one changes no window. -/
def WindowsAfter (fh : FrameHandler) (windows after : ReplayWindowMap) (res : HandleResult) :
    Prop :=
  (res.allow = true → after = fh.recordFrame windows res.header) ∧
    (res.allow = false → windows.Same fh.config.replayWindowSize after)

theorem windowsAfter_refused {fh : FrameHandler} {windows after : ReplayWindowMap}
    {res : HandleResult} (hres : res.allow = false)
    (h : ∀ r, after.windowOf fh.config.replayWindowSize r =
      windows.windowOf fh.config.replayWindowSize r) : fh.WindowsAfter windows after res :=
  ⟨fun hallow => by simp [hres] at hallow, fun _ => h⟩

theorem windowsAfter_tryDecrypt {fh : FrameHandler} {frame : Frame}
    {windows after : ReplayWindowMap} {res : HandleResult} (hheader : res.header = frame.header)
    (h : after = if res.allow = true ∧ fh.config.antiReplayEnabled = true then
      (windows.getOrCreateWindow fh.config.replayWindowSize frame.header.readerId).remember
        frame.header.readerId frame.header.seq
      else if fh.config.antiReplayEnabled = true then
        windows.getOrCreateWindow fh.config.replayWindowSize frame.header.readerId
      else windows) : fh.WindowsAfter windows after res := by
  constructor
  · intro hallow
    rw [h, recordFrame, hheader]
    by_cases hreplay : fh.config.antiReplayEnabled = true
    · simp [hallow, hreplay, ReplayWindowMap.record]
    · simp [hreplay]
  · intro hdeny r
    rw [h]
    by_cases hreplay : fh.config.antiReplayEnabled = true
    · simp [hdeny, hreplay]
    · simp [hreplay]

variable [Sodium]

/-! ## The handler as a decision table -/

/-- The key the handler decrypts a frame with. -/
def key (fh : FrameHandler) (header : Header) : AeadKey :=
  if fh.config.keyDerivationMode = "direct" then fh.keyManager.masterAsAeadKey
  else fh.keyManager.aeadKey header.readerId header.keyVersion

def aad (fh : FrameHandler) (header : Header) : Bytes :=
  if fh.config.aadMode ≠ "none" then header.toBytes else []

def mode (fh : FrameHandler) : CipherMode := .ofString fh.config.cipherMode

/-- The plaintext of a frame, when it is authentic. -/
def opens (fh : FrameHandler) (frame : Frame) : Option Bytes :=
  aeadOpen fh.mode (fh.key frame.header) (effectiveNonce fh.mode frame.header.nonce)
    (fh.aad frame.header) frame.ct frame.tag

/-- The result of the last two checks, on the plaintext and on the timestamp. -/
def decryption (fh : FrameHandler) (now : UInt64) (frame : Frame) : HandleResult :=
  match fh.opens frame, fh.skew now frame with
  | none, _ => makeError "decrypt_failed" frame.header
  | some _, some error => makeError error frame.header
  | some plaintext, none => { allow := true, reason := "ok", plaintext, header := frame.header }

/-- The checks made on a parsed frame, in order. -/
def verdictOn (fh : FrameHandler) (now : UInt64) (windows : ReplayWindowMap) (frame : Frame) :
    HandleResult :=
  match fh.store with
  | none => makeError "no_store" frame.header
  | some store =>
    if store.currentKeyVersionForReader frame.header.readerId = 0 then
      makeError "unknown_reader" frame.header
    else if fh.config.enforceReaderDoorBinding ∧
        store.isReaderAllowedDoor frame.header.readerId frame.header.doorId = false then
      makeError "reader_door_forbidden" frame.header
    else if fh.keyOk frame.header.keyVersion
        (store.currentKeyVersionForReader frame.header.readerId) = false then
      makeError "bad_key_version" frame.header
    else if fh.config.antiReplayEnabled ∧
        windows.contains frame.header.readerId frame.header.seq = true then
      makeError "replay" frame.header
    else fh.decryption now frame

def verdict (fh : FrameHandler) (now : UInt64) (windows : ReplayWindowMap) (frameBytes : Bytes) :
    HandleResult :=
  match fh.parseFrame frameBytes with
  | .error err => err
  | .ok frame => fh.verdictOn now windows frame

theorem deriveKey_ok (fh : FrameHandler) (frame : Frame) :
    fh.deriveKey frame = .ok (fh.key frame.header) := by
  unfold deriveKey key
  split_ifs with h
  · rfl
  · simp

theorem decrypt_eq (fh : FrameHandler) (now : UInt64) (frame : Frame) :
    decrypt { key := fh.key frame.header, cipherMode := .ofString fh.config.cipherMode }
      { maxSkewMs := fh.config.maxSkewMs, aadMode := fh.config.aadMode } now frame =
    match fh.opens frame, fh.skew now frame with
    | none, _ => .error "decrypt_failed"
    | some _, some error => .error error
    | some plaintext, none => .ok plaintext := by
  unfold decrypt decryptFrame SecureAead.openWithNonce
  cases hopens : fh.opens frame with
  | none =>
    unfold opens mode aad at hopens
    simp only [hopens]
    rfl
  | some plaintext =>
    unfold opens mode aad at hopens
    simp only [hopens]
    unfold skew
    cases checkTimestamp _ now frame.header.tsUnixMs <;> rfl

/-- The reader lookup agrees with the decision table. -/
theorem validateReader_ok {fh : FrameHandler} {env : Env} {frame : Frame}
    {r : Except HandleResult UInt32} (h : fh.validateReader env frame = .ok r) :
    (∃ err, r = .error err ∧ err.allow = false ∧
      ∀ now windows, fh.verdictOn now windows frame = err) ∨
    (∃ store, fh.store = some store ∧
      r = .ok (store.currentKeyVersionForReader frame.header.readerId) ∧
      store.currentKeyVersionForReader frame.header.readerId ≠ 0 ∧
      ¬ (fh.config.enforceReaderDoorBinding ∧
        store.isReaderAllowedDoor frame.header.readerId frame.header.doorId = false)) := by
  unfold validateReader at h
  cases hstore : fh.store with
  | none =>
    left
    simp [hstore, pure, Except.pure] at h
    exact ⟨_, h.symm, rfl, fun now windows => by simp [verdictOn, hstore]⟩
  | some store =>
    simp only [hstore, bind, Except.bind] at h
    cases hkv : env.access .handlerKeyVersion
        (store.currentKeyVersionForReader frame.header.readerId) with
    | error e => simp [hkv] at h
    | ok kv =>
      obtain ⟨rfl, -⟩ := Env.access_ok hkv
      simp only [hkv] at h
      split_ifs at h with hzero hbind
      · left
        obtain rfl : r = _ := by simpa [pure, Except.pure, eq_comm] using h
        exact ⟨_, rfl, rfl, fun now windows => by simp [verdictOn, hstore, hzero]⟩
      · cases hdoor : env.access .readerDoor
            (store.isReaderAllowedDoor frame.header.readerId frame.header.doorId) with
        | error e => simp [hdoor] at h
        | ok bound =>
          obtain ⟨rfl, -⟩ := Env.access_ok hdoor
          simp only [hdoor] at h
          split_ifs at h with hbound
          · right
            obtain rfl : r = _ := by simpa [pure, Except.pure, eq_comm] using h
            exact ⟨store, rfl, rfl, hzero, by simp [hbound]⟩
          · left
            obtain rfl : r = _ := by simpa [pure, Except.pure, eq_comm] using h
            exact ⟨_, rfl, rfl, fun now windows => by
              simp [verdictOn, hstore, hzero, hbind, hbound]⟩
      · right
        obtain rfl : r = _ := by simpa [pure, Except.pure, eq_comm] using h
        exact ⟨store, rfl, rfl, hzero, by simp [hbind]⟩

/-- Decryption and the recording of the sequence number. -/
theorem returns_tryDecrypt {fh : FrameHandler} {env : Env} {frame : Frame} {window : Option UInt32}
    (hw : window = if fh.config.antiReplayEnabled then some frame.header.readerId else none)
    {windows after : ReplayWindowMap} {res : HandleResult} :
    Returns (fh.tryDecrypt env frame window) windows res after ↔
    res = fh.decryption (env.now .skewCheck) frame ∧
    after = (if res.allow = true ∧ fh.config.antiReplayEnabled = true then
      windows.remember frame.header.readerId frame.header.seq else windows) := by
  unfold tryDecrypt decryption
  rw [deriveKey_ok]
  simp only [decrypt_eq]
  cases fh.opens frame with
  | none => simp +contextual [makeError]
  | some plaintext =>
    cases fh.skew (env.now .skewCheck) frame with
    | some error => simp +contextual [makeError]
    | none =>
      by_cases hreplay : fh.config.antiReplayEnabled = true
      · simp +contextual [hw, hreplay, and_comm]
      · simp +contextual [hreplay]

theorem decryption_header (fh : FrameHandler) (now : UInt64) (frame : Frame) :
    (fh.decryption now frame).header = frame.header := by
  unfold decryption
  split <;> rfl

theorem tryDecrypt_total {fh : FrameHandler} (env : Env) (frame : Frame)
    (window : Option UInt32) (windows : ReplayWindowMap) :
    Total (fh.tryDecrypt env frame window) windows := by
  unfold tryDecrypt
  rw [deriveKey_ok]
  dsimp only
  split
  · exact total_pure _ _
  · split_ifs
    · cases window with
      | none => exact total_pure _ _
      | some readerId => exact total_bind (total_modify _ _) fun _ _ _ => total_pure _ _
    · exact total_pure _ _

/-- A call of the handler that returns gives the verdict of the decision table. -/
theorem returns_handle {fh : FrameHandler} {env : Env} {frameBytes : Bytes}
    {windows after : ReplayWindowMap} {res : HandleResult}
    (h : Returns (fh.handle env frameBytes) windows res after) :
    res = fh.verdict (env.now .skewCheck) windows frameBytes ∧
      fh.WindowsAfter windows after res := by
  unfold handle at h
  unfold verdict
  cases hparse : fh.parseFrame frameBytes with
  | error err =>
    obtain ⟨rfl, hafter⟩ : res = err ∧ after = windows := by simpa [hparse] using h
    exact ⟨rfl, windowsAfter_refused (parseFrame_error hparse).1 fun _ => by rw [hafter]⟩
  | ok frame =>
    simp only [hparse, returns_bind, returns_lift] at h
    obtain ⟨r, u, ⟨hreader, hu⟩, h⟩ := h
    rw [hu] at h
    obtain ⟨err, rfl, hdeny, hverdict⟩ | ⟨store, hstore, rfl, hzero, hbound⟩ :=
      validateReader_ok hreader
    · obtain ⟨rfl, hafter⟩ : res = err ∧ after = windows := by simpa using h
      exact ⟨(hverdict _ _).symm, windowsAfter_refused hdeny fun _ => by rw [hafter]⟩
    simp only [validateKeyVersion] at h
    simp only [verdictOn, hstore, hzero, hbound, if_false]
    cases hkey : fh.keyOk frame.header.keyVersion
        (store.currentKeyVersionForReader frame.header.readerId) with
    | false =>
      obtain ⟨rfl, hafter⟩ : res = makeError "bad_key_version" frame.header ∧
          after = windows := by simpa [hkey] using h
      exact ⟨by simp, windowsAfter_refused rfl fun _ => by rw [hafter]⟩
    | true =>
      have hdec := fh.decryption_header (env.now .skewCheck) frame
      simp only [hkey, if_true, checkReplay] at h
      by_cases hreplay : fh.config.antiReplayEnabled = true
      · by_cases hseen : windows.contains frame.header.readerId frame.header.seq = true
        · obtain ⟨rfl, hafter⟩ : res = makeError "replay" frame.header ∧
              after = windows.getOrCreateWindow fh.config.replayWindowSize
                frame.header.readerId := by simpa [hreplay, hseen] using h
          exact ⟨by simp [hreplay, hseen], windowsAfter_refused rfl (by simp [hafter])⟩
        · simp [hreplay, hseen] at h
          obtain ⟨rfl, hafter⟩ := (returns_tryDecrypt (by simp [hreplay])).mp h
          exact ⟨by simp [hseen], windowsAfter_tryDecrypt hdec (by simp [hafter, hreplay])⟩
      · simp [hreplay] at h
        obtain ⟨rfl, hafter⟩ := (returns_tryDecrypt (by simp [hreplay])).mp h
        exact ⟨by simp [hreplay], windowsAfter_tryDecrypt hdec (by simp [hafter, hreplay])⟩

/-- Once the reader has been looked up, the handler returns. -/
theorem handle_total_of_reader {fh : FrameHandler} {env : Env} {frameBytes : Bytes}
    (h : ∀ frame, Protocol.parseFrame frameBytes fh.config.maxCtLen = .ok frame →
      ∃ r, fh.validateReader env frame = .ok r)
    (windows : ReplayWindowMap) : Total (fh.handle env frameBytes) windows := by
  unfold handle
  cases hparse : fh.parseFrame frameBytes with
  | error err => exact total_pure _ _
  | ok frame =>
    obtain ⟨r, hreader⟩ := h frame (parseFrame_ok.mp hparse)
    refine total_bind (total_lift hreader _) fun r t _ => ?_
    cases r with
    | error err => exact total_pure _ _
    | ok kv =>
      dsimp only
      cases fh.validateKeyVersion frame kv with
      | some err => exact total_pure _ _
      | none =>
        refine total_bind ?_ fun r t _ => ?_
        · unfold checkReplay
          split_ifs
          · refine total_bind (total_modify _ _) fun _ _ _ => ?_
            refine total_bind (total_get _) fun _ _ _ => ?_
            split_ifs <;> exact total_pure _ _
          · exact total_pure _ _
        · obtain ⟨err, window⟩ := r
          cases err with
          | some err => exact total_pure _ _
          | none => exact tryDecrypt_total env frame window t

/-- Without database faults the handler always returns. -/
theorem handle_total {fh : FrameHandler} {env : Env} (henv : env.NoFault) (frameBytes : Bytes)
    (windows : ReplayWindowMap) : Total (fh.handle env frameBytes) windows :=
  handle_total_of_reader (fun frame _ => validateReader_noFault fh henv frame) windows

/-- The lookup of the frame's reader throws. -/
def LookupThrows (fh : FrameHandler) (env : Env) (frameBytes : Bytes) : Prop :=
  ∃ frame e, Protocol.parseFrame frameBytes fh.config.maxCtLen = .ok frame ∧
    fh.validateReader env frame = .error e

theorem handle_total_iff {fh : FrameHandler} {env : Env} {frameBytes : Bytes}
    {windows : ReplayWindowMap} :
    Total (fh.handle env frameBytes) windows ↔ ¬ fh.LookupThrows env frameBytes := by
  constructor
  · rintro ⟨res, after, h⟩ ⟨frame, e, hparse, hreader⟩
    unfold handle at h
    simp [parseFrame_ok.mpr hparse, hreader] at h
  · intro h
    refine handle_total_of_reader (fun frame hparse => ?_) windows
    cases hreader : fh.validateReader env frame with
    | ok r => exact ⟨r, rfl⟩
    | error e => exact absurd ⟨frame, e, hparse, hreader⟩ h

/-- A call of the handler that throws has changed nothing: only the lookup of the reader
throws, and it comes first. -/
theorem after_handle_of_throws {fh : FrameHandler} {env : Env} {frameBytes : Bytes}
    {windows : ReplayWindowMap} (h : ¬ Total (fh.handle env frameBytes) windows) :
    after (fh.handle env frameBytes) windows = windows := by
  obtain ⟨frame, e, hparse, hreader⟩ := not_not.mp (mt handle_total_iff.mpr h)
  unfold handle
  simp only [parseFrame_ok.mpr hparse, hreader]
  rfl

/-- Whether the handler returns or throws, it only creates the window of the frame's
reader and remembers the frame's number in it. -/
theorem handle_keeps {fh : FrameHandler} {P : ReplayWindowMap → Prop} {frameBytes : Bytes}
    {frame : Frame} (hparse : Protocol.parseFrame frameBytes fh.config.maxCtLen = .ok frame)
    (hcreate : ∀ m, P m →
      P (m.getOrCreateWindow fh.config.replayWindowSize frame.header.readerId))
    (hremember : ∀ m, P m → P (m.remember frame.header.readerId frame.header.seq)) (env : Env) :
    Keeps P (fh.handle env frameBytes) := by
  unfold handle
  rw [parseFrame_ok.mpr hparse]
  refine keeps_bind (keeps_lift _) fun r => ?_
  cases r with
  | error err => exact keeps_pure _
  | ok kv =>
    dsimp only
    cases fh.validateKeyVersion frame kv with
    | some err => exact keeps_pure _
    | none =>
      have hreplay : Keeps P (fh.checkReplay frame) := by
        unfold checkReplay
        split_ifs
        · refine keeps_bind (keeps_modify hcreate) fun _ => keeps_get_bind fun m _ => ?_
          split_ifs <;> exact keeps_pure _
        · exact keeps_pure _
      refine keeps_bind_returns hreplay fun r m u hr => ?_
      obtain ⟨err, window⟩ := r
      cases err with
      | some err => exact keeps_pure _
      | none =>
        have hwindow : ∀ r ∈ window, r = frame.header.readerId := by
          intro r hmem
          unfold checkReplay at hr
          split_ifs at hr
          · simp only [returns_bind, returns_modify, returns_get] at hr
            obtain ⟨_, _, rfl, _, _, ⟨rfl, rfl⟩, hr⟩ := hr
            split_ifs at hr
            · simp at hr
            · simp at hr
              grind
          · simp at hr
            grind
        unfold tryDecrypt
        rw [deriveKey_ok]
        dsimp only
        split
        · exact keeps_pure _
        · split_ifs
          · cases window with
            | none => exact keeps_pure _
            | some r =>
              obtain rfl := hwindow r rfl
              exact keeps_bind (keeps_modify hremember) fun _ => keeps_pure _
          · exact keeps_pure _

/-! ## The checks before the decryption -/

/-- The reader is known and may use the door, and the key version is one of its own. -/
def Admits (fh : FrameHandler) (header : Header) : Prop :=
  ∃ store, fh.store = some store ∧ store.currentKeyVersionForReader header.readerId ≠ 0 ∧
    ¬ (fh.config.enforceReaderDoorBinding ∧
      store.isReaderAllowedDoor header.readerId header.doorId = false) ∧
    fh.keyOk header.keyVersion (store.currentKeyVersionForReader header.readerId) = true

/-- The replay check is on, and it knows the number. -/
def Known (fh : FrameHandler) (windows : ReplayWindowMap) (header : Header) : Prop :=
  fh.config.antiReplayEnabled ∧ windows.contains header.readerId header.seq = true

/-- The codes of a frame that is refused by its header. -/
def headerCodes : List String :=
  ["no_store", "unknown_reader", "reader_door_forbidden", "bad_key_version"]

/-- A frame is refused by its header, refused as a replay, or decrypted. -/
theorem verdictOn_cases (fh : FrameHandler) (now : UInt64) (windows : ReplayWindowMap)
    (frame : Frame) :
    (¬ fh.Admits frame.header ∧
      ∃ code ∈ headerCodes, fh.verdictOn now windows frame = makeError code frame.header) ∨
    (fh.Admits frame.header ∧ fh.Known windows frame.header ∧
      fh.verdictOn now windows frame = makeError "replay" frame.header) ∨
    (fh.Admits frame.header ∧ ¬ fh.Known windows frame.header ∧
      fh.verdictOn now windows frame = fh.decryption now frame) := by
  unfold FrameHandler.verdictOn Admits Known
  cases fh.store with
  | none => exact .inl ⟨by simp, "no_store", by simp [headerCodes], rfl⟩
  | some store =>
    dsimp only
    split_ifs with hzero hdoor hkey hknown
    · exact .inl ⟨by simp [hzero], "unknown_reader", by simp [headerCodes], rfl⟩
    · exact .inl ⟨by simp [hdoor], "reader_door_forbidden", by simp [headerCodes], rfl⟩
    · exact .inl ⟨by simp [hkey], "bad_key_version", by simp [headerCodes], rfl⟩
    · simp_all
    · simp_all

theorem verdictOn_header (fh : FrameHandler) (now : UInt64) (windows : ReplayWindowMap)
    (frame : Frame) : (fh.verdictOn now windows frame).header = frame.header := by
  rcases fh.verdictOn_cases now windows frame with ⟨-, _, -, heq⟩ | ⟨-, -, heq⟩ | ⟨-, -, heq⟩
  · rw [heq]
    rfl
  · rw [heq]
    rfl
  · rw [heq, decryption_header]

/-! ## Reasons -/

/-- The codes a verdict can carry. -/
def verdictCodes : List String :=
  parseErrorCodes ++ headerCodes ++ ["replay", "decrypt_failed", "too_old", "too_future", "ok"]

theorem decryption_reason_mem (fh : FrameHandler) (now : UInt64) (frame : Frame) :
    (fh.decryption now frame).reason ∈ verdictCodes := by
  unfold decryption
  split
  · simp [makeError, verdictCodes]
  · rename_i error hskew
    obtain rfl | rfl := skew_code hskew <;> simp [makeError, verdictCodes]
  · simp [verdictCodes]

theorem verdict_reason_mem (fh : FrameHandler) (now : UInt64) (windows : ReplayWindowMap)
    (frameBytes : Bytes) : (fh.verdict now windows frameBytes).reason ∈ verdictCodes := by
  unfold FrameHandler.verdict
  cases hparse : fh.parseFrame frameBytes with
  | error err =>
    exact List.mem_append_left _ (List.mem_append_left _ (parseFrame_reason_mem hparse))
  | ok frame =>
    dsimp only
    rcases fh.verdictOn_cases now windows frame with ⟨-, code, hcode, heq⟩ | ⟨-, -, heq⟩ |
      ⟨-, -, heq⟩
    · rw [heq]
      exact List.mem_append_left _ (List.mem_append_right _ hcode)
    · rw [heq]
      simp [makeError, verdictCodes]
    · rw [heq]
      exact fh.decryption_reason_mem now frame

/-- The bytes are a frame that is taken for a replay. -/
def Replays (fh : FrameHandler) (windows : ReplayWindowMap) (frameBytes : Bytes) : Prop :=
  ∃ frame, Protocol.parseFrame frameBytes fh.config.maxCtLen = .ok frame ∧
    fh.Admits frame.header ∧ fh.Known windows frame.header

/-- The bytes are a frame that comes to be decrypted and is not authentic. -/
def Unauthentic (fh : FrameHandler) (windows : ReplayWindowMap) (frameBytes : Bytes) : Prop :=
  ∃ frame, Protocol.parseFrame frameBytes fh.config.maxCtLen = .ok frame ∧
    fh.Admits frame.header ∧ ¬ fh.Known windows frame.header ∧ fh.opens frame = none

theorem decryption_reason_ne_replay (fh : FrameHandler) (now : UInt64) (frame : Frame) :
    (fh.decryption now frame).reason ≠ "replay" := by
  unfold decryption
  split
  · simp [makeError]
  · rename_i error hskew
    rcases skew_code hskew with rfl | rfl <;> simp [makeError]
  · simp

theorem decryption_failed_iff {fh : FrameHandler} {now : UInt64} {frame : Frame} :
    (fh.decryption now frame).reason = "decrypt_failed" ↔ fh.opens frame = none := by
  unfold decryption
  split
  · simp_all [makeError]
  · rename_i error hopens hskew
    rcases skew_code hskew with rfl | rfl <;> simp [makeError, hopens]
  · simp_all

/-- A code that belongs neither to the parser nor to the checks of the header is given by the
replay check or by the decryption of a frame that passes these. -/
theorem verdict_reason_iff {fh : FrameHandler} {now : UInt64} {windows : ReplayWindowMap}
    {frameBytes : Bytes} {code : String} (hparser : code ∉ parseErrorCodes)
    (hheader : code ∉ headerCodes) :
    (fh.verdict now windows frameBytes).reason = code ↔
      ∃ frame, Protocol.parseFrame frameBytes fh.config.maxCtLen = .ok frame ∧
        fh.Admits frame.header ∧
          ((fh.Known windows frame.header ∧ code = "replay") ∨
            (¬ fh.Known windows frame.header ∧ (fh.decryption now frame).reason = code)) := by
  unfold FrameHandler.verdict
  cases hparse : fh.parseFrame frameBytes with
  | error err =>
    refine iff_of_false (parseFrame_reason_ne hparse hparser) ?_
    rintro ⟨frame, hframe, -⟩
    exact parseFrame_ne_ok hparse frame hframe
  | ok frame =>
    simp only [parseFrame_ok.mp hparse, Except.ok.injEq, exists_eq_left']
    rcases fh.verdictOn_cases now windows frame with ⟨hadmits, given, hgiven, heq⟩ |
      ⟨hadmits, hknown, heq⟩ | ⟨hadmits, hknown, heq⟩
    · rw [heq]
      refine iff_of_false ?_ fun hall => hadmits hall.1
      rintro rfl
      exact hheader hgiven
    · rw [heq]
      simp [makeError, hadmits, hknown, eq_comm]
    · rw [heq]
      simp [hadmits, hknown]

theorem verdict_replay_iff {fh : FrameHandler} {now : UInt64} {windows : ReplayWindowMap}
    {frameBytes : Bytes} :
    (fh.verdict now windows frameBytes).reason = "replay" ↔ fh.Replays windows frameBytes := by
  rw [verdict_reason_iff (by decide) (by decide)]
  refine exists_congr fun frame => and_congr_right fun _ => and_congr_right fun _ => ?_
  simp [decryption_reason_ne_replay]

/-- Of the two codes of a failed authentication only one is ever given. -/
theorem verdict_unauthentic_iff {fh : FrameHandler} {now : UInt64} {windows : ReplayWindowMap}
    {frameBytes : Bytes} :
    ((fh.verdict now windows frameBytes).reason = "mac_verification_failed" ∨
      (fh.verdict now windows frameBytes).reason = "decrypt_failed") ↔
    fh.Unauthentic windows frameBytes := by
  have hmac : (fh.verdict now windows frameBytes).reason ≠ "mac_verification_failed" := by
    intro hreason
    have hmem := fh.verdict_reason_mem now windows frameBytes
    rw [hreason] at hmem
    exact absurd hmem (by decide)
  rw [or_iff_right hmac, verdict_reason_iff (by decide) (by decide)]
  refine exists_congr fun frame => and_congr_right fun _ => and_congr_right fun _ => ?_
  simp [decryption_failed_iff]

/-! ## What is accepted -/

/-- Everything the handler checks about a parsed frame, for one that passes. -/
structure Passes (fh : FrameHandler) (now : UInt64) (windows : ReplayWindowMap) (frame : Frame)
    (store : AccessStore) (plaintext : Bytes) : Prop where
  store_eq : fh.store = some store
  registered : store.currentKeyVersionForReader frame.header.readerId ≠ 0
  bound : fh.config.enforceReaderDoorBinding = true →
    store.isReaderAllowedDoor frame.header.readerId frame.header.doorId = true
  keyVersion : fh.keyOk frame.header.keyVersion
    (store.currentKeyVersionForReader frame.header.readerId) = true
  fresh : fh.config.antiReplayEnabled = true →
    windows.contains frame.header.readerId frame.header.seq = false
  opens : fh.opens frame = some plaintext
  inTime : fh.skew now frame = none

theorem Passes.verdictOn {fh : FrameHandler} {now : UInt64} {windows : ReplayWindowMap}
    {frame : Frame} {store : AccessStore} {plaintext : Bytes}
    (h : fh.Passes now windows frame store plaintext) :
    fh.verdictOn now windows frame =
      { allow := true, reason := "ok", plaintext, header := frame.header } := by
  have hbound := h.bound
  have hfresh := h.fresh
  simp only [FrameHandler.verdictOn, h.store_eq, if_neg h.registered]
  rw [if_neg (by grind), if_neg (by simp [h.keyVersion]), if_neg (by grind)]
  simp [decryption, h.opens, h.inTime]

theorem passes_of_allow {fh : FrameHandler} {now : UInt64} {windows : ReplayWindowMap}
    {frame : Frame} (h : (fh.verdictOn now windows frame).allow = true) :
    ∃ store plaintext, fh.Passes now windows frame store plaintext := by
  unfold FrameHandler.verdictOn at h
  cases hstore : fh.store with
  | none => simp [hstore, makeError] at h
  | some store =>
    simp only [hstore] at h
    split_ifs at h with hzero hbound hkey hreplay
    · simp [makeError] at h
    · simp [makeError] at h
    · simp [makeError] at h
    · simp [makeError] at h
    · unfold decryption at h
      split at h
      · simp [makeError] at h
      · simp [makeError] at h
      · rename_i plaintext hopens hskew
        exact ⟨store, plaintext, hstore, hzero, by grind, by grind, by grind, hopens, hskew⟩

/-- The bytes are accepted as a frame with this plaintext. -/
def Accepts (fh : FrameHandler) (now : UInt64) (windows : ReplayWindowMap) (frameBytes : Bytes)
    (frame : Frame) (plaintext : Bytes) : Prop :=
  Protocol.parseFrame frameBytes fh.config.maxCtLen = .ok frame ∧
    ∃ store, fh.Passes now windows frame store plaintext

theorem Accepts.verdict {fh : FrameHandler} {now : UInt64} {windows : ReplayWindowMap}
    {frameBytes : Bytes} {frame : Frame} {plaintext : Bytes}
    (h : fh.Accepts now windows frameBytes frame plaintext) :
    fh.verdict now windows frameBytes =
      { allow := true, reason := "ok", plaintext, header := frame.header } := by
  obtain ⟨hparse, store, hpasses⟩ := h
  simp only [FrameHandler.verdict, parseFrame_ok.mpr hparse]
  exact hpasses.verdictOn

theorem accepts_of_allow {fh : FrameHandler} {now : UInt64} {windows : ReplayWindowMap}
    {frameBytes : Bytes} (h : (fh.verdict now windows frameBytes).allow = true) :
    ∃ frame plaintext, fh.Accepts now windows frameBytes frame plaintext := by
  unfold FrameHandler.verdict at h
  cases hparse : fh.parseFrame frameBytes with
  | error err => simp [hparse, parseFrame_error hparse] at h
  | ok frame =>
    simp only [hparse] at h
    obtain ⟨store, plaintext, hpasses⟩ := passes_of_allow h
    exact ⟨frame, plaintext, parseFrame_ok.mp hparse, store, hpasses⟩

/-- The bytes are a frame that is accepted. -/
def AcceptsBytes (fh : FrameHandler) (now : UInt64) (windows : ReplayWindowMap)
    (frameBytes : Bytes) : Prop :=
  ∃ frame plaintext, fh.Accepts now windows frameBytes frame plaintext

theorem verdict_allow_iff {fh : FrameHandler} {now : UInt64} {windows : ReplayWindowMap}
    {frameBytes : Bytes} : (fh.verdict now windows frameBytes).allow = true ↔
      fh.AcceptsBytes now windows frameBytes := by
  refine ⟨accepts_of_allow, ?_⟩
  rintro ⟨frame, plaintext, haccepts⟩
  rw [haccepts.verdict]

theorem verdict_header {fh : FrameHandler} {now : UInt64} {windows : ReplayWindowMap}
    {frameBytes : Bytes} {frame : Frame}
    (h : Protocol.parseFrame frameBytes fh.config.maxCtLen = .ok frame) :
    (fh.verdict now windows frameBytes).header = frame.header := by
  simp only [FrameHandler.verdict, parseFrame_ok.mpr h, verdictOn_header]

/-- Of the windows, a verdict depends on the answer of the replay check alone. -/
theorem verdictOn_congr (fh : FrameHandler) (now : UInt64) {windows windows' : ReplayWindowMap}
    {frame : Frame} (h : windows'.contains frame.header.readerId frame.header.seq =
      windows.contains frame.header.readerId frame.header.seq) :
    fh.verdictOn now windows' frame = fh.verdictOn now windows frame := by
  unfold FrameHandler.verdictOn
  rw [h]

theorem verdict_congr (fh : FrameHandler) (now : UInt64) {windows windows' : ReplayWindowMap}
    (h : ∀ r q, windows'.contains r q = windows.contains r q) (frameBytes : Bytes) :
    fh.verdict now windows' frameBytes = fh.verdict now windows frameBytes := by
  unfold FrameHandler.verdict
  cases fh.parseFrame frameBytes with
  | error err => rfl
  | ok frame => exact fh.verdictOn_congr now (h _ _)

/-- The header a verdict carries: that of the frame, an empty one when there is none. -/
def headerOf (fh : FrameHandler) (frameBytes : Bytes) : Header :=
  match Protocol.parseFrame frameBytes fh.config.maxCtLen with
  | .ok frame => frame.header
  | .error _ => .empty

omit [Sodium] in
theorem headerOf_eq {fh : FrameHandler} {frameBytes : Bytes} {frame : Frame}
    (h : Protocol.parseFrame frameBytes fh.config.maxCtLen = .ok frame) :
    fh.headerOf frameBytes = frame.header := by
  unfold headerOf
  rw [h]

omit [Sodium] in
theorem headerOf_unparsed {fh : FrameHandler} {frameBytes : Bytes} {fault : ParseFault}
    (h : Protocol.parseFrame frameBytes fh.config.maxCtLen = .error fault) :
    fh.headerOf frameBytes = .empty := by
  unfold headerOf
  rw [h]

theorem headerOf_verdict (fh : FrameHandler) (now : UInt64) (windows : ReplayWindowMap)
    (frameBytes : Bytes) :
    (fh.verdict now windows frameBytes).header = fh.headerOf frameBytes := by
  cases hparse : Protocol.parseFrame frameBytes fh.config.maxCtLen with
  | ok frame => rw [headerOf_eq hparse, verdict_header hparse]
  | error fault =>
    rw [headerOf_unparsed hparse]
    unfold FrameHandler.verdict
    cases herr : fh.parseFrame frameBytes with
    | error err => exact (parseFrame_error herr).2
    | ok frame => simp [parseFrame_ok.mp herr] at hparse

/-! ## Refused frames -/

/-- A refused frame changes no answer of the replay check. An accepted one changes, with
replay protection, the window of its reader only, by the recording of its number. -/
theorem refused_frame_without_effect {fh : FrameHandler} {env : Env} {frameBytes : Bytes}
    {windows after : ReplayWindowMap} {res : HandleResult}
    (h : Returns (fh.handle env frameBytes) windows res after) :
    (res.allow = false → ∀ r q, after.contains r q = windows.contains r q) ∧
    (res.allow = true → fh.config.antiReplayEnabled = true →
      ∃ frame, Protocol.parseFrame frameBytes fh.config.maxCtLen = .ok frame ∧
        (∀ r, r ≠ frame.header.readerId → after.find r = windows.find r) ∧
        after.find frame.header.readerId =
          some ((windows.windowOf fh.config.replayWindowSize frame.header.readerId).remember
            frame.header.seq)) := by
  obtain ⟨hres, hrecord, hrefuse⟩ := returns_handle h
  refine ⟨fun hdeny => (hrefuse hdeny).contains, fun hallow hreplay => ?_⟩
  obtain ⟨frame, plaintext, haccepts⟩ := accepts_of_allow (hres ▸ hallow)
  have hheader : res.header = frame.header := by rw [hres, haccepts.verdict]
  rw [hrecord hallow, recordFrame_on hreplay, hheader]
  refine ⟨frame, haccepts.1, fun r hr => ?_, ?_⟩
  · rw [ReplayWindowMap.find_record, if_neg hr]
  · rw [ReplayWindowMap.find_record, if_pos rfl]

/-- A frame in the name of reader 7 whose tag is wrong. -/
def forged (seq : UInt64) : Frame where
  header := { readerId := 7, doorId := 1, seq, keyVersion := 1 }
  tag := Vector.replicate 16 1

omit [Sodium] in
theorem refused_frame_without_effect_forged :
    letI : Sodium := .transparent
    let fh : FrameHandler := { keyManager := ⟨zeros 32⟩, store := some .permissive }
    ∃ after, Returns (fh.handle .quiet (serialize (forged 5))) .empty
        (makeError "decrypt_failed" (forged 5).header) after ∧
      ∀ r q, after.contains r q = ReplayWindowMap.empty.contains r q := by
  let _ : Sodium := .transparent
  let fh : FrameHandler := { keyManager := ⟨zeros 32⟩, store := some .permissive }
  obtain ⟨res, after, h⟩ : Total (fh.handle .quiet (serialize (forged 5))) .empty :=
    handle_total Env.quiet_noFault _ _
  have hverdict : fh.verdict 0 .empty (serialize (forged 5)) =
      makeError "decrypt_failed" (forged 5).header := by decide +kernel
  obtain rfl : res = makeError "decrypt_failed" (forged 5).header :=
    (returns_handle h).1.trans hverdict
  exact ⟨after, h, (refused_frame_without_effect h).1 rfl⟩

end AccessSecurity.Core.FrameHandler
