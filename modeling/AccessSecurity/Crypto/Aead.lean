import AccessSecurity.Crypto.Hkdf

/-!
# Authenticated encryption and nonces

`secure_aead.cpp` and `nonce_generator.cpp`. The nonce field of a frame always has 24
bytes; ChaCha20 uses the first 12 of them, the effective nonce. `aeadSeal` and
`aeadOpen` give the two ciphers one interface over the effective nonce, and
`OpenInvertsSeal` is what a sender and a receiver that share a key may rely on.
-/

namespace AccessSecurity.Crypto

inductive CipherMode where
  | XChaCha20Poly1305
  | ChaCha20Poly1305
  deriving DecidableEq, Repr

structure AeadKey where
  key : ByteArr 32
  deriving DecidableEq

/-- The mode selected by the configuration string. -/
def CipherMode.ofString (cipherMode : String) : CipherMode :=
  if cipherMode = "chacha20" then .ChaCha20Poly1305 else .XChaCha20Poly1305

def nonceLenFor (mode : CipherMode) : Nat :=
  if mode = .XChaCha20Poly1305 then 24 else 12

/-! ## The two ciphers behind one interface -/

section

variable [Sodium]

/-- The bytes of the nonce field that the cipher reads. -/
def effectiveNonce (mode : CipherMode) (nonce : ByteArr 24) : ByteArr (nonceLenFor mode) :=
  copyInto (nonceLenFor mode) nonce.toList

def aeadSeal (mode : CipherMode) (key : AeadKey) (nonce : ByteArr (nonceLenFor mode))
    (aad plaintext : Bytes) : Bytes × ByteArr 16 :=
  match mode with
  | .XChaCha20Poly1305 => Sodium.xchachaEncrypt key.key nonce aad plaintext
  | .ChaCha20Poly1305 => Sodium.chachaEncrypt key.key nonce aad plaintext

def aeadOpen (mode : CipherMode) (key : AeadKey) (nonce : ByteArr (nonceLenFor mode))
    (aad ct : Bytes) (tag : ByteArr 16) : Option Bytes :=
  match mode with
  | .XChaCha20Poly1305 => Sodium.xchachaDecrypt key.key nonce aad ct tag
  | .ChaCha20Poly1305 => Sodium.chachaDecrypt key.key nonce aad ct tag

theorem length_aeadSeal (mode : CipherMode) (key : AeadKey)
    (nonce : ByteArr (nonceLenFor mode)) (aad plaintext : Bytes) :
    (aeadSeal mode key nonce aad plaintext).1.length = plaintext.length := by
  cases mode with
  | XChaCha20Poly1305 => exact Sodium.length_xchachaEncrypt ..
  | ChaCha20Poly1305 => exact Sodium.length_chachaEncrypt ..

/-- Opening what was sealed with the same key, nonce and associated data succeeds. -/
def OpenInvertsSeal : Prop :=
  ∀ mode key nonce aad plaintext,
    aeadOpen mode key nonce aad (aeadSeal mode key nonce aad plaintext).1
      (aeadSeal mode key nonce aad plaintext).2 = some plaintext

/-- The arguments of a call that seals a message. -/
structure Sealing where
  mode : CipherMode
  key : AeadKey
  nonce : ByteArr (nonceLenFor mode)
  aad : Bytes
  plaintext : Bytes
  deriving DecidableEq

def Sealing.output (s : Sealing) : Bytes × ByteArr 16 :=
  aeadSeal s.mode s.key s.nonce s.aad s.plaintext

/-- An ideal AEAD: only what was sealed opens, and it opens to what was sealed. -/
def IdealAead (WasSealed : Sealing → Prop) : Prop :=
  ∀ mode key nonce aad ct tag plaintext,
    aeadOpen mode key nonce aad ct tag = some plaintext ↔
      WasSealed ⟨mode, key, nonce, aad, plaintext⟩ ∧
        Sealing.output ⟨mode, key, nonce, aad, plaintext⟩ = (ct, tag)

/-! ## SecureAead -/

structure SecureAead where
  key : AeadKey
  cipherMode : CipherMode
  deriving DecidableEq

structure Ciphertext where
  ct : Bytes
  tag : ByteArr 16
  nonce : ByteArr 24

def SecureAead.sealWithNonce (aead : SecureAead) (plaintext aad : Bytes) (nonce : ByteArr 24) :
    Ciphertext :=
  let out := aeadSeal aead.cipherMode aead.key (effectiveNonce aead.cipherMode nonce) aad plaintext
  { ct := out.1, tag := out.2, nonce }

def SecureAead.openWithNonce (aead : SecureAead) (ct : Bytes) (tag : ByteArr 16) (aad : Bytes)
    (nonce : ByteArr 24) : Except Exn Bytes :=
  match aeadOpen aead.cipherMode aead.key (effectiveNonce aead.cipherMode nonce) aad ct tag with
  | some plaintext => return plaintext
  | none => throw ⟨"AEAD auth failed"⟩

/-! ## Nonce generators -/

/-- The random bytes are an argument: `random` is what `randombytes_buf` wrote. -/
def randomNonce (mode : CipherMode) (random : Bytes) : ByteArr 24 :=
  copyInto 24 (random.take (nonceLenFor mode))

/-- `HmacNonceGenerator::generate`, which ignores its sequence number. -/
def hmacNonce (nonceKey : AeadKey) (mode : CipherMode) (context : Bytes) : ByteArr 24 :=
  copyInto 24 ((hmacSha256 nonceKey.key.toList context).toList.take (nonceLenFor mode))

end

/-! ## An instance that hides nothing -/

/-- Ciphertexts are plaintexts and the tag is zero; runs of the program can be evaluated
over it. -/
@[reducible] def Sodium.transparent : Sodium where
  hmacSha256 _ data := copyInto 32 (data.take 32)
  xchachaEncrypt _ _ _ plaintext := (plaintext, zeros 16)
  xchachaDecrypt _ _ _ ct tag := if tag = zeros 16 then some ct else none
  chachaEncrypt _ _ _ plaintext := (plaintext, zeros 16)
  chachaDecrypt _ _ _ ct tag := if tag = zeros 16 then some ct else none
  length_xchachaEncrypt _ _ _ _ := rfl
  length_chachaEncrypt _ _ _ _ := rfl

/-- The same with an HMAC that shows the 32 bytes after the first 32: for a message that
starts with a hash, the beginning of what follows it. -/
@[reducible] def Sodium.trailing : Sodium :=
  { Sodium.transparent with hmacSha256 := fun _ data => copyInto 32 (data.drop 32) }

/-- The same with an HMAC that shows the first 16 bytes of the key and of the message. -/
@[reducible] def Sodium.keyed : Sodium :=
  { Sodium.transparent with
    hmacSha256 := fun key data => copyInto 32 (key.take 16 ++ data.take 16) }

/-- Only one message opens. -/
@[reducible] def Sodium.opensOnly (s : Sealing) : Sodium :=
  { Sodium.transparent with
    xchachaDecrypt := fun key nonce aad ct tag =>
      if (⟨.XChaCha20Poly1305, ⟨key⟩, nonce, aad, ct⟩ : Sealing) = s ∧ tag = zeros 16 then some ct
      else none
    chachaDecrypt := fun key nonce aad ct tag =>
      if (⟨.ChaCha20Poly1305, ⟨key⟩, nonce, aad, ct⟩ : Sealing) = s ∧ tag = zeros 16 then some ct
      else none }

theorem Sodium.opensOnly_ideal (s : Sealing) : @IdealAead (.opensOnly s) (· = s) := by
  intro mode key nonce aad ct tag plaintext
  have hopen : @aeadOpen (.opensOnly s) mode key nonce aad ct tag =
      if (⟨mode, key, nonce, aad, ct⟩ : Sealing) = s ∧ tag = zeros 16 then some ct else none := by
    cases mode <;> rfl
  have hseal : @Sealing.output (.opensOnly s) ⟨mode, key, nonce, aad, plaintext⟩ =
      (plaintext, zeros 16) := by
    cases mode <;> rfl
  rw [hopen, hseal]
  constructor
  · intro h
    split_ifs at h with hs
    obtain rfl : ct = plaintext := Option.some.inj h
    exact ⟨hs.1, by rw [hs.2]⟩
  · rintro ⟨hs, h⟩
    obtain ⟨rfl, rfl⟩ := Prod.mk.inj h
    rw [if_pos ⟨hs, rfl⟩]

theorem Sodium.transparent_openInvertsSeal : @OpenInvertsSeal .transparent := by
  intro mode key nonce aad plaintext
  cases mode <;> rfl

end AccessSecurity.Crypto
