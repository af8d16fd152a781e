import AccessSecurity.Admin.Agreement

/-!
# Authenticity of accepted frames

Under an ideal AEAD the handler accepts only byte strings that the sender has produced
(`authentic_of_allow`). The associated data is the encoded header, so a message that opens
has the header it was sealed with; ciphertext and tag are determined by the seal, and what
is left of a frame (magic, version and length) is fixed by the parser.
-/

namespace AccessSecurity.Admin

open Foundation Protocol Crypto Core Decision

section

variable [Sodium]

/-- What is sealed for a request. -/
def SendRequest.sealing (req : SendRequest) (km : KeyManager) (payload : Bytes) : Sealing where
  mode := req.mode
  key := req.key km
  nonce := effectiveNonce req.mode (req.nonce km)
  aad := req.aad km
  plaintext := payload

theorem SendRequest.sealing_output (req : SendRequest) (km : KeyManager) (payload : Bytes) :
    (req.sealing km payload).output = ((req.frame km payload).ct, (req.frame km payload).tag) :=
  rfl

/-- Encoded headers used as associated data are those of the two frames. -/
theorem SendRequest.header_of_aad {req : SendRequest} {km : KeyManager} {header : Header}
    (h : header.toBytes = req.aad km) : header = req.header km := by
  unfold aad at h
  split_ifs at h with hmode
  · exact Header.toBytes_inj h
  · have hlength := congrArg List.length h
    simp at hlength

variable [JsonLib]

/-- The messages sealed for a history of requests, each with the keys of its sender. -/
def SealedBy (history : List (KeyManager × SendRequest)) (s : Sealing) : Prop :=
  ∃ c ∈ history, ∃ payload, buildPayloadJson c.2.uid c.2.action = .ok payload ∧
    s = c.2.sealing c.1 payload

/-- Every accepted byte string is a frame of the history, with the payload and the header
that were sealed. -/
theorem authentic_of_allow {fh : FrameHandler} (haad : fh.config.aadMode ≠ "none")
    {history : List (KeyManager × SendRequest)} (hideal : IdealAead (SealedBy history))
    {env : Env} {b : Bytes} {windows after : ReplayWindowMap} {res : HandleResult}
    (h : Returns (fh.handle env b) windows res after) (hallow : res.allow = true) :
    ∃ c ∈ history, ∃ payload, buildPayloadJson c.2.uid c.2.action = .ok payload ∧
      buildEncryptedFrameBytes c.1 c.2 = .ok b ∧
      res.plaintext = payload ∧ res.header = c.2.header c.1 := by
  obtain ⟨rfl, -⟩ := FrameHandler.returns_handle h
  obtain ⟨frame, plaintext, haccepts⟩ := FrameHandler.accepts_of_allow hallow
  have hverdict := haccepts.verdict
  obtain ⟨hparse, store, hpasses⟩ := haccepts
  obtain ⟨⟨c, hc, payload, hpayload, hsealing⟩, houtput⟩ :=
    (hideal _ _ _ _ _ _ _).mp hpasses.opens
  have haad_eq : frame.header.toBytes = c.2.aad c.1 := by
    have hfull : fh.aad frame.header = frame.header.toBytes := if_pos haad
    have hsame : fh.aad frame.header = c.2.aad c.1 := congrArg Sealing.aad hsealing
    rw [← hfull, hsame]
  have hheader := SendRequest.header_of_aad haad_eq
  have hplaintext : plaintext = payload := congrArg Sealing.plaintext hsealing
  rw [hsealing, SendRequest.sealing_output, Prod.mk.injEq] at houtput
  have hframe : frame = c.2.frame c.1 payload := by
    cases frame
    simp only at hheader houtput
    rw [hheader, ← houtput.1, ← houtput.2]
    rfl
  have hbytes : b = serialize (c.2.frame c.1 payload) := by
    rw [← hframe]
    exact (parseFrame_ok_iff.mp hparse).1
  refine ⟨c, hc, payload, hpayload, SendRequest.build_ok_iff.mpr ⟨payload, hpayload, hbytes⟩, ?_⟩
  rw [hverdict]
  exact ⟨hplaintext, hheader⟩

end

/-! ## A single sealed frame -/

/-- A request under the master key itself, with random bytes that are all zero. -/
def directRequest : SendRequest where
  readerId := 7
  doorId := 1
  seq := 1
  keyVersion := 1
  tsUnixMs := 0
  uid := bytesOf "card"
  action := bytesOf "open"
  keyDerivationMode := "direct"
  aadMode := "full"
  cipherMode := "xchacha20"
  nonceMode := "random"
  random := []

def directHandler : FrameHandler where
  keyManager := ⟨zeros 32⟩
  store := some .permissive
  config := { keyDerivationMode := "direct" }

/-- What is sealed for the request. -/
def directSealing : Sealing where
  mode := .XChaCha20Poly1305
  key := ⟨zeros 32⟩
  nonce := zeros 24
  aad := Header.toBytes { readerId := 7, doorId := 1, seq := 1, keyVersion := 1 }
  plaintext := RequestText.dump (bytesOf "card") (bytesOf "open")

/-- The frame of the request, when nothing is encrypted. -/
def directFrame : Frame where
  header := { readerId := 7, doorId := 1, seq := 1, keyVersion := 1 }
  ct := RequestText.dump (bytesOf "card") (bytesOf "open")

theorem authentic_of_allow_direct :
    letI : Sodium := .opensOnly directSealing
    letI : JsonLib := .requests
    ∃ res after, Returns (directHandler.handle .quiet (serialize directFrame)) .empty res after ∧
      res.allow = true ∧ ∃ c ∈ [((⟨zeros 32⟩ : KeyManager), directRequest)],
        buildEncryptedFrameBytes c.1 c.2 = .ok (serialize directFrame) ∧
          res.header = c.2.header c.1 := by
  let _ : Sodium := .opensOnly directSealing
  let _ : JsonLib := .requests
  have hsealing : directRequest.sealing ⟨zeros 32⟩ directSealing.plaintext = directSealing := by
    decide +kernel
  have hsealed : SealedBy [((⟨zeros 32⟩ : KeyManager), directRequest)] = (· = directSealing) := by
    funext s
    apply propext
    constructor
    · rintro ⟨c, hc, payload, hpayload, rfl⟩
      obtain rfl := List.mem_singleton.mp hc
      obtain rfl : directSealing.plaintext = payload := Except.ok.inj hpayload
      exact hsealing
    · rintro rfl
      exact ⟨_, List.mem_singleton_self _, directSealing.plaintext, rfl, hsealing.symm⟩
  have hideal : IdealAead (SealedBy [((⟨zeros 32⟩ : KeyManager), directRequest)]) :=
    hsealed ▸ Sodium.opensOnly_ideal directSealing
  have htotal : Total (directHandler.handle .quiet (serialize directFrame)) .empty :=
    FrameHandler.handle_total Env.quiet_noFault _ _
  obtain ⟨res, after, h⟩ := htotal
  have hallow : res.allow = true := by
    rw [(FrameHandler.returns_handle h).1]
    decide +kernel
  obtain ⟨c, hc, payload, -, hbuild, -, hheader⟩ := authentic_of_allow (by decide) hideal h hallow
  exact ⟨res, after, h, hallow, c, hc, hbuild, hheader⟩

end AccessSecurity.Admin
