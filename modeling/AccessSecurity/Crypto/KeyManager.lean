import AccessSecurity.Crypto.Aead
import AccessSecurity.Foundation.LittleEndian

/-!
# Keys derived from the master key

`key_manager.cpp` and `card_id_hasher.cpp`. The four derivations differ in the salt
and in the info string only. None of them can fail for a reason of its own except the
card pepper of version zero, so a sender and a receiver with the same master key always
agree on the result.
-/

namespace AccessSecurity.Crypto

open Foundation

variable [Sodium]

def kAeadKeyInfo : Bytes := bytesOf "access-aead-v1"
def kCardPepperInfo : Bytes := bytesOf "card-pepper-v1"
def kNonceKeyInfo : Bytes := bytesOf "nonce-derivation-v1"
def kAuditHmacSalt : Bytes := bytesOf "audit-chain-salt-v1"
def kAuditHmacInfo : Bytes := bytesOf "audit-hmac-v1"

structure KeyManager where
  masterKey : ByteArr 32
  deriving DecidableEq

namespace KeyManager

/-- The common part of the derivations: 32 bytes of HKDF output, or the exception for
output of another length. -/
def derive32 (km : KeyManager) (salt info : Bytes) (wrongLength : String) :
    Except Exn (ByteArr 32) := do
  let (okm, _) ← (Hkdf.new km.masterKey.toList salt info 32).derive
  if okm.length ≠ 32 then
    throw ⟨wrongLength⟩
  return copyInto 32 okm

def readerSalt (readerId keyVersion : UInt32) : Bytes :=
  LittleEndian.ofUInt32 readerId ++ LittleEndian.ofUInt32 keyVersion

def deriveAeadKey (km : KeyManager) (readerId keyVersion : UInt32) : Except Exn AeadKey :=
  AeadKey.mk <$> km.derive32 (readerSalt readerId keyVersion) kAeadKeyInfo
    "KeyManager: HKDF returned wrong length"

def deriveNonceKey (km : KeyManager) (readerId keyVersion : UInt32) : Except Exn AeadKey :=
  AeadKey.mk <$> km.derive32 (readerSalt readerId keyVersion) kNonceKeyInfo
    "KeyManager: HKDF returned wrong length (nonce key)"

def deriveCardPepper (km : KeyManager) (keyVersion : UInt32) : Except Exn (ByteArr 32) := do
  if keyVersion = 0 then
    throw ⟨"KeyManager: keyVersion must be > 0"⟩
  km.derive32 (LittleEndian.ofUInt32 keyVersion) kCardPepperInfo "KeyManager: HKDF wrong length"

def deriveAuditHmacKey (km : KeyManager) : Except Exn (ByteArr 32) :=
  km.derive32 kAuditHmacSalt kAuditHmacInfo "KeyManager: HKDF returned wrong length (audit key)"

def masterAsAeadKey (km : KeyManager) : AeadKey := ⟨km.masterKey⟩

theorem derive32_ok (km : KeyManager) (salt info : Bytes) (msg : String) :
    km.derive32 salt info msg = .ok (Hkdf.oneBlock km.masterKey.toList salt info) := by
  have hone := Hkdf.derive_one_block km.masterKey.toList salt info
  unfold derive32
  cases hder : (Hkdf.new km.masterKey.toList salt info 32).derive with
  | error e => simp [hder, Except.map] at hone
  | ok r =>
    obtain ⟨okm, h⟩ := r
    obtain rfl : okm = _ := by simpa [hder, Except.map] using hone
    simp [bind, Except.bind, pure, Except.pure]

/-- The AEAD key of a reader and a key version. -/
def aeadKey (km : KeyManager) (readerId keyVersion : UInt32) : AeadKey :=
  ⟨Hkdf.oneBlock km.masterKey.toList (readerSalt readerId keyVersion) kAeadKeyInfo⟩

def nonceKey (km : KeyManager) (readerId keyVersion : UInt32) : AeadKey :=
  ⟨Hkdf.oneBlock km.masterKey.toList (readerSalt readerId keyVersion) kNonceKeyInfo⟩

def cardPepper (km : KeyManager) (keyVersion : UInt32) : ByteArr 32 :=
  Hkdf.oneBlock km.masterKey.toList (LittleEndian.ofUInt32 keyVersion) kCardPepperInfo

@[simp] theorem deriveAeadKey_ok (km : KeyManager) (readerId keyVersion : UInt32) :
    km.deriveAeadKey readerId keyVersion = .ok (km.aeadKey readerId keyVersion) := by
  simp [deriveAeadKey, derive32_ok, aeadKey, Functor.map, Except.map]

@[simp] theorem deriveNonceKey_ok (km : KeyManager) (readerId keyVersion : UInt32) :
    km.deriveNonceKey readerId keyVersion = .ok (km.nonceKey readerId keyVersion) := by
  simp [deriveNonceKey, derive32_ok, nonceKey, Functor.map, Except.map]

theorem deriveCardPepper_ok (km : KeyManager) {keyVersion : UInt32} (h : keyVersion ≠ 0) :
    km.deriveCardPepper keyVersion = .ok (km.cardPepper keyVersion) := by
  simp [deriveCardPepper, derive32_ok, cardPepper, h]

end KeyManager

/-! ## Card identifiers -/

structure CardIdHasher where
  pepper : ByteArr 32

namespace CardIdHasher

def kHexChars : Bytes := bytesOf "0123456789abcdef"

def hexChar (nibble : UInt8) : UInt8 := kHexChars.getD nibble.toNat 0

def toHex (data : Bytes) : Bytes :=
  data.flatMap fun (b : UInt8) => [hexChar ((b >>> 4) &&& 0xF), hexChar (b &&& 0xF)]

omit [Sodium] in
theorem hexChar_ne_zero (b : UInt8) : hexChar (b &&& 0xF) ≠ 0 := by
  have hchars : ∀ nibble < 16, kHexChars.getD nibble 0 ≠ 0 := by decide +kernel
  apply hchars
  rw [UInt8.toNat_and]
  exact Nat.lt_succ_of_le Nat.and_le_right

omit [Sodium] in
theorem zero_notMem_toHex (data : Bytes) : 0 ∉ toHex data := by
  intro hmem
  obtain ⟨b, -, hb⟩ := List.mem_flatMap.mp hmem
  rcases List.mem_pair.mp hb with hhigh | hlow
  · exact hexChar_ne_zero (b >>> 4) hhigh.symm
  · exact hexChar_ne_zero b hlow.symm

def hmacHex (h : CardIdHasher) (cardId : Bytes) : Except Exn Bytes :=
  if cardId.isEmpty then throw ⟨"cardId empty"⟩
  else return toHex (hmacSha256 h.pepper.toList cardId).toList

end CardIdHasher

/-- The identifier under which a card is stored: the HMAC of its id under the pepper of a
key version, in hexadecimal. -/
def KeyManager.cardHmac (km : KeyManager) (keyVersion : UInt32) (cardId : Bytes) : Bytes :=
  CardIdHasher.toHex (hmacSha256 (km.cardPepper keyVersion).toList cardId).toList

theorem CardIdHasher.hmacHex_ok {km : KeyManager} {keyVersion : UInt32} {cardId : Bytes}
    (h : cardId ≠ []) :
    hmacHex ⟨km.cardPepper keyVersion⟩ cardId = .ok (km.cardHmac keyVersion cardId) := by
  cases cardId with
  | nil => exact absurd rfl h
  | cons b bs => rfl

/-- The pepper of a version and the HMAC of a card under it, as one step. -/
theorem KeyManager.hmac_bind (km : KeyManager) {keyVersion : UInt32} {cardId : Bytes} {α : Type}
    (hversion : keyVersion ≠ 0) (hcard : cardId ≠ []) (next : Bytes → Except Exn α) :
    (do
      let pepper ← km.deriveCardPepper keyVersion
      let cardHmac ← CardIdHasher.hmacHex ⟨pepper⟩ cardId
      next cardHmac) = next (km.cardHmac keyVersion cardId) := by
  rw [deriveCardPepper_ok km hversion]
  dsimp only [bind, Except.bind]
  rw [CardIdHasher.hmacHex_ok hcard]

end AccessSecurity.Crypto
