import AccessSecurity.Admin.Authenticity

/-!
# Reuse of deterministic nonces

In deterministic mode the nonce is an HMAC over the header fields, so two calls with the same
header fields encrypt under the same nonce, whatever their payloads are. Where the truncated
HMAC does not collide, this is the only way a nonce is used twice (`nonce_unique_iff`).
-/

namespace AccessSecurity.Admin

open Foundation Protocol Crypto Core Decision

/-- The header fields from which the nonce is derived. -/
structure SameContext (q q' : SendRequest) : Prop where
  readerId : q.readerId = q'.readerId
  doorId : q.doorId = q'.doorId
  tsUnixMs : q.tsUnixMs = q'.tsUnixMs
  seq : q.seq = q'.seq
  keyVersion : q.keyVersion = q'.keyVersion

def SendRequest.context (q : SendRequest) : Bytes :=
  buildNonceContext q.readerId q.doorId q.tsUnixMs q.seq q.keyVersion

theorem context_eq_iff {q q' : SendRequest} : q.context = q'.context ↔ SameContext q q' := by
  constructor
  · intro h
    have hheader := Header.toBytes_inj h
    simp only [Header.mk.injEq] at hheader
    obtain ⟨hreader, hdoor, hts, hseq, hversion, -⟩ := hheader
    exact ⟨hreader, hdoor, hts, hseq, hversion⟩
  · rintro ⟨hreader, hdoor, hts, hseq, hversion⟩
    unfold SendRequest.context
    rw [hreader, hdoor, hts, hseq, hversion]

section

variable [Sodium]

/-- One key and one effective nonce. -/
def SameNonce (s s' : Sealing) : Prop :=
  s.key = s'.key ∧ s.nonce.toList = s'.nonce.toList

/-- The truncated HMACs of the two calls are equal only for one nonce key and one context. -/
def HmacSeparates (km : KeyManager) (q q' : SendRequest) : Prop :=
  (effectiveNonce q.mode (q.nonce km)).toList = (effectiveNonce q'.mode (q'.nonce km)).toList →
    km.nonceKey q.readerId q.keyVersion = km.nonceKey q'.readerId q'.keyVersion ∧
      q.context = q'.context

omit [Sodium] in
/-- A nonce is as long as its cipher wants it. -/
theorem mode_eq_of_nonce_eq {mode mode' : CipherMode} {nonce nonce' : ByteArr 24}
    (h : (effectiveNonce mode nonce).toList = (effectiveNonce mode' nonce').toList) :
    mode = mode' := by
  have hlength := congrArg List.length h
  simp only [Vector.length_toList] at hlength
  cases mode <;> cases mode' <;> simp_all [nonceLenFor]

theorem nonce_of_sameContext {km : KeyManager} {q q' : SendRequest} (hdet : q.nonceMode ≠ "random")
    (hdet' : q'.nonceMode ≠ "random") (hcontext : SameContext q q') (hmode : q.mode = q'.mode) :
    q.nonce km = q'.nonce km := by
  unfold SendRequest.nonce
  rw [if_neg hdet, if_neg hdet', hmode, hcontext.readerId, hcontext.keyVersion, hcontext.doorId,
    hcontext.tsUnixMs, hcontext.seq]

theorem sameNonce_iff {km : KeyManager} {q q' : SendRequest} {payload payload' : Bytes}
    (hdet : q.nonceMode ≠ "random") (hdet' : q'.nonceMode ≠ "random")
    (hseparates : HmacSeparates km q q') :
    SameNonce (q.sealing km payload) (q'.sealing km payload') ↔
      SameContext q q' ∧ q.mode = q'.mode ∧ q.key km = q'.key km := by
  constructor
  · rintro ⟨hkey, hnonce⟩
    exact ⟨context_eq_iff.mp (hseparates hnonce).2, mode_eq_of_nonce_eq hnonce, hkey⟩
  · rintro ⟨hcontext, hmode, hkey⟩
    refine ⟨hkey, ?_⟩
    change (effectiveNonce q.mode (q.nonce km)).toList =
      (effectiveNonce q'.mode (q'.nonce km)).toList
    rw [nonce_of_sameContext hdet hdet' hcontext hmode, hmode]

/-- Over one header, the associated data is the same when both calls use it or neither. -/
theorem aad_eq_iff {km : KeyManager} {q q' : SendRequest} (hheader : q.header km = q'.header km) :
    q.aad km = q'.aad km ↔ (q.aadMode = "none" ↔ q'.aadMode = "none") := by
  have hne : (q'.header km).toBytes ≠ [] := by
    intro hnil
    have hlength := congrArg List.length hnil
    simp at hlength
  unfold SendRequest.aad
  rw [hheader]
  split_ifs with h h'
  · simp [h, h']
  · grind
  · grind
  · grind

variable [JsonLib]

/-- Two calls that use one key and one nonce encrypt one message, exactly when two calls with
one header, cipher and key have one payload and agree on the use of associated data. -/
theorem nonce_unique_iff {km : KeyManager} {q q' : SendRequest} {frameBytes frameBytes' : Bytes}
    (hdet : q.nonceMode ≠ "random") (hdet' : q'.nonceMode ≠ "random")
    (hbuild : buildEncryptedFrameBytes km q = .ok frameBytes)
    (hbuild' : buildEncryptedFrameBytes km q' = .ok frameBytes')
    (hseparates : HmacSeparates km q q') :
    ∃ payload payload', buildPayloadJson q.uid q.action = .ok payload ∧
      buildPayloadJson q'.uid q'.action = .ok payload' ∧
      frameBytes = serialize (q.frame km payload) ∧
      frameBytes' = serialize (q'.frame km payload') ∧
      ((SameNonce (q.sealing km payload) (q'.sealing km payload') →
          payload = payload' ∧ q.aad km = q'.aad km) ↔
        (SameContext q q' → q.mode = q'.mode → q.key km = q'.key km →
          payload = payload' ∧ (q.aadMode = "none" ↔ q'.aadMode = "none"))) := by
  obtain ⟨payload, hpayload, hbytes⟩ := SendRequest.build_ok_iff.mp hbuild
  obtain ⟨payload', hpayload', hbytes'⟩ := SendRequest.build_ok_iff.mp hbuild'
  refine ⟨payload, payload', hpayload, hpayload', hbytes, hbytes', ?_⟩
  rw [sameNonce_iff hdet hdet' hseparates]
  have haad : SameContext q q' → q.mode = q'.mode →
      (q.aad km = q'.aad km ↔ (q.aadMode = "none" ↔ q'.aadMode = "none")) := by
    intro hcontext hmode
    apply aad_eq_iff
    unfold SendRequest.header
    rw [nonce_of_sameContext hdet hdet' hcontext hmode, hcontext.readerId, hcontext.doorId,
      hcontext.tsUnixMs, hcontext.seq, hcontext.keyVersion]
  constructor
  · intro h hcontext hmode hkey
    obtain ⟨hsame, haads⟩ := h ⟨hcontext, hmode, hkey⟩
    exact ⟨hsame, (haad hcontext hmode).mp haads⟩
  · rintro h ⟨hcontext, hmode, hkey⟩
    obtain ⟨hsame, hmodes⟩ := h hcontext hmode hkey
    exact ⟨hsame, (haad hcontext hmode).mpr hmodes⟩

end

/-! ## Two cards in one millisecond -/

/-- Two of these differ in the card only. -/
def scanRequest (uid : Bytes) : SendRequest where
  readerId := 7
  doorId := 1
  seq := 1
  keyVersion := 1
  tsUnixMs := 0
  uid := uid
  action := bytesOf "open"
  keyDerivationMode := "hkdf"
  aadMode := "full"
  cipherMode := "xchacha20"
  nonceMode := "deterministic"
  random := []

/-- The frame of such a request, when nothing is encrypted. -/
def scanFrame (uid : Bytes) : Bytes :=
  letI : Sodium := .keyed
  serialize ((scanRequest uid).frame ⟨zeros 32⟩ (RequestText.dump uid (bytesOf "open")))

theorem scanRequest_builds (uid : Bytes) :
    letI : Sodium := .keyed
    letI : JsonLib := .requests
    buildEncryptedFrameBytes ⟨zeros 32⟩ (scanRequest uid) = .ok (scanFrame uid) := by
  let _ : Sodium := .keyed
  let _ : JsonLib := .requests
  exact SendRequest.build_ok_iff.mpr ⟨_, rfl, rfl⟩

theorem scanRequest_separates (uid uid' : Bytes) :
    letI : Sodium := .keyed
    HmacSeparates ⟨zeros 32⟩ (scanRequest uid) (scanRequest uid') :=
  fun _ => ⟨rfl, rfl⟩

/-- A request that is sent twice is sealed as the same message. -/
theorem nonce_unique_iff_repeated :
    letI : Sodium := .keyed
    letI : JsonLib := .requests
    ∃ payload, buildPayloadJson (bytesOf "card") (bytesOf "open") = .ok payload ∧
      scanFrame (bytesOf "card") =
        serialize ((scanRequest (bytesOf "card")).frame ⟨zeros 32⟩ payload) := by
  let _ : Sodium := .keyed
  let _ : JsonLib := .requests
  obtain ⟨payload, payload', hpayload, hpayload', hbytes, hbytes', hiff⟩ :=
    nonce_unique_iff (by decide) (by decide) (scanRequest_builds (bytesOf "card"))
      (scanRequest_builds (bytesOf "card")) (scanRequest_separates _ _)
  exact ⟨payload, hpayload, hbytes⟩

/-- Two cards are scanned with one sequence number in one millisecond: different payloads are
sealed under one key and one nonce. -/
theorem nonce_reused :
    letI : Sodium := .keyed
    letI : JsonLib := .requests
    let q := scanRequest (bytesOf "card")
    let q' := scanRequest (bytesOf "cord")
    ∃ payload payload', buildPayloadJson q.uid q.action = .ok payload ∧
      buildPayloadJson q'.uid q'.action = .ok payload' ∧
      buildEncryptedFrameBytes ⟨zeros 32⟩ q = .ok (serialize (q.frame ⟨zeros 32⟩ payload)) ∧
      buildEncryptedFrameBytes ⟨zeros 32⟩ q' = .ok (serialize (q'.frame ⟨zeros 32⟩ payload')) ∧
      HmacSeparates ⟨zeros 32⟩ q q' ∧
      SameNonce (q.sealing ⟨zeros 32⟩ payload) (q'.sealing ⟨zeros 32⟩ payload') ∧
      payload ≠ payload' := by
  let _ : Sodium := .keyed
  let _ : JsonLib := .requests
  refine ⟨RequestText.dump (bytesOf "card") (bytesOf "open"),
    RequestText.dump (bytesOf "cord") (bytesOf "open"), rfl, rfl, scanRequest_builds _,
    scanRequest_builds _, scanRequest_separates _ _, ⟨rfl, rfl⟩, by decide +kernel⟩

end AccessSecurity.Admin
