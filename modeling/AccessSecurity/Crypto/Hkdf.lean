import AccessSecurity.Basic

/-!
# Key derivation

`hkdf.cpp` over an arbitrary HMAC. The object keeps the last block and the output
produced so far, so `derive` is a step on its state. A request of at most one block,
the only length the key manager asks for, is a single HMAC (`derive_one_block`).
-/

namespace AccessSecurity.Crypto

/-- libsodium. The detached encryption functions write exactly as many bytes as the
plaintext has; `none` is the return code of a failed authentication. -/
class Sodium where
  hmacSha256 : (key data : Bytes) → ByteArr 32
  xchachaEncrypt : (key : ByteArr 32) → (nonce : ByteArr 24) → (aad plaintext : Bytes) →
    Bytes × ByteArr 16
  xchachaDecrypt : (key : ByteArr 32) → (nonce : ByteArr 24) → (aad ct : Bytes) → ByteArr 16 →
    Option Bytes
  chachaEncrypt : (key : ByteArr 32) → (nonce : ByteArr 12) → (aad plaintext : Bytes) →
    Bytes × ByteArr 16
  chachaDecrypt : (key : ByteArr 32) → (nonce : ByteArr 12) → (aad ct : Bytes) → ByteArr 16 →
    Option Bytes
  length_xchachaEncrypt : ∀ key nonce aad plaintext,
    (xchachaEncrypt key nonce aad plaintext).1.length = plaintext.length
  length_chachaEncrypt : ∀ key nonce aad plaintext,
    (chachaEncrypt key nonce aad plaintext).1.length = plaintext.length

variable [Sodium]

def hmacSha256 (key data : Bytes) : ByteArr 32 := Sodium.hmacSha256 key data

/-- `crypto_auth_hmacsha256_BYTES` -/
def kHashLen : Nat := 32

structure Hkdf where
  ikm : Bytes
  salt : Bytes
  info : Bytes
  outputLen : UInt64
  prk : ByteArr 32
  okm : Bytes
  prevBlock : Bytes
  deriving DecidableEq

namespace Hkdf

def extract (salt ikm : Bytes) : ByteArr 32 :=
  if salt.isEmpty then hmacSha256 (zeros 32).toList ikm else hmacSha256 salt ikm

def new (ikm salt info : Bytes) (outputLen : UInt64) : Hkdf where
  ikm := ikm
  salt := salt
  info := info
  outputLen := outputLen
  prk := extract salt ikm
  okm := []
  prevBlock := []

def computeBlockCount (h : Hkdf) : UInt64 := (h.outputLen + 32 - 1) / 32

/-- `finalizeAndAppend`: the block replaces the previous one, and as much of it as is
still missing goes to the output. -/
def finalizeAndAppend (h : Hkdf) (block : ByteArr 32) : Hkdf :=
  let missing := h.outputLen - UInt64.ofNat h.okm.length
  let toCopy := if 32 < missing then 32 else missing
  { h with
    prevBlock := block.toList
    okm := h.okm ++ block.toList.take toCopy.toNat }

def expandBlock (h : Hkdf) (blockIndex : Nat) : Hkdf :=
  h.finalizeAndAppend
    (hmacSha256 h.prk.toList (h.prevBlock ++ h.info ++ [UInt8.ofNat blockIndex]))

def derive (h : Hkdf) : Except Exn (Bytes × Hkdf) :=
  let blockCount := h.computeBlockCount
  if 255 < blockCount then throw ⟨"Hkdf: outputLen too large"⟩
  else
    let h := (List.range blockCount.toNat).foldl (fun h i => h.expandBlock (i + 1)) h
    return (h.okm, h)

/-- The output of a single block. -/
def oneBlock (ikm salt info : Bytes) : ByteArr 32 :=
  hmacSha256 (extract salt ikm).toList (info ++ [1])

theorem derive_one_block (ikm salt info : Bytes) :
    (new ikm salt info 32).derive.map Prod.fst = .ok (oneBlock ikm salt info).toList := by
  have hcount : (new ikm salt info 32).computeBlockCount = 1 := by
    simp [computeBlockCount, new]
  simp only [derive, hcount]
  rw [if_neg (by decide), show (1 : UInt64).toNat = 1 from rfl]
  have htake : ∀ a : ByteArr 32, a.toList.take 32 = a.toList := fun a =>
    List.take_of_length_le (by simp)
  simp [expandBlock, finalizeAndAppend, new, oneBlock, htake, Except.map, pure, Except.pure]

end Hkdf

end AccessSecurity.Crypto
