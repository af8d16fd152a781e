import AccessSecurity.Basic
import AccessSecurity.Foundation.LittleEndian

/-!
# Packet header and frame serialization

`packet.cpp` and `frame.cpp`: the header fields in little-endian order, and the
wire frame `magic ++ version ++ header ++ length ++ ciphertext ++ tag`. The header
encoding is also the associated data of the AEAD, so its injectivity is what binds
every header field to the tag.
-/

namespace AccessSecurity.Protocol

open Foundation

/-! ## protocol_utils -/

def putLe32 (v : UInt32) (out : Bytes) : Bytes := out ++ LittleEndian.ofUInt32 v

def putLe64 (v : UInt64) (out : Bytes) : Bytes := out ++ LittleEndian.ofUInt64 v

/-- `none` is a read past the end of the memory `p` points to. -/
def getLe32 (p : Bytes) : Option UInt32 := LittleEndian.toUInt32 p

def getLe64 (p : Bytes) : Option UInt64 := LittleEndian.toUInt64 p

/-! ## Header -/

structure Header where
  readerId : UInt32 := 0
  doorId : UInt32 := 0
  tsUnixMs : UInt64 := 0
  seq : UInt64 := 0
  keyVersion : UInt32 := 0
  nonce : ByteArr 24 := zeros 24
  deriving DecidableEq, Repr

/-- The header of a default-initialised result. -/
def Header.empty : Header := {}

def Header.toBytes (h : Header) : Bytes :=
  let out := putLe32 h.readerId []
  let out := putLe32 h.doorId out
  let out := putLe64 h.tsUnixMs out
  let out := putLe64 h.seq out
  let out := putLe32 h.keyVersion out
  out ++ h.nonce.toList

theorem Header.toBytes_eq (h : Header) : h.toBytes =
    LittleEndian.ofUInt32 h.readerId ++ (LittleEndian.ofUInt32 h.doorId ++
      (LittleEndian.ofUInt64 h.tsUnixMs ++ (LittleEndian.ofUInt64 h.seq ++
        (LittleEndian.ofUInt32 h.keyVersion ++ h.nonce.toList)))) := by
  simp [toBytes, putLe32, putLe64]

@[simp] theorem Header.length_toBytes (h : Header) : h.toBytes.length = 52 := by
  simp [toBytes_eq]

/-- The header encoding is injective: the fields have fixed widths. -/
theorem Header.toBytes_inj {g h : Header} (he : g.toBytes = h.toBytes) : g = h := by
  rw [toBytes_eq, toBytes_eq] at he
  obtain ⟨hreader, he⟩ := List.append_inj he (by simp)
  obtain ⟨hdoor, he⟩ := List.append_inj he (by simp)
  obtain ⟨hts, he⟩ := List.append_inj he (by simp)
  obtain ⟨hseq, he⟩ := List.append_inj he (by simp)
  obtain ⟨hversion, hnonce⟩ := List.append_inj he (by simp)
  cases g
  cases h
  simp only [Header.mk.injEq]
  exact ⟨LittleEndian.ofUInt32_inj hreader, LittleEndian.ofUInt32_inj hdoor,
    LittleEndian.ofUInt64_inj hts, LittleEndian.ofUInt64_inj hseq,
    LittleEndian.ofUInt32_inj hversion, Vector.toList_inj.mp hnonce⟩

/-! ## Frame -/

structure Frame where
  header : Header := {}
  ct : Bytes := []
  tag : ByteArr 16 := zeros 16
  deriving DecidableEq, Repr

def kMagicSize : Nat := 4

/-- `AS01`. -/
def kMagic : Bytes := [0x41, 0x53, 0x30, 0x31]

def kVersion : UInt8 := 1

def serialize (frame : Frame) : Bytes :=
  let out := kMagic
  let out := out ++ [kVersion]
  let out := putLe32 frame.header.readerId out
  let out := putLe32 frame.header.doorId out
  let out := putLe64 frame.header.tsUnixMs out
  let out := putLe64 frame.header.seq out
  let out := putLe32 frame.header.keyVersion out
  let out := out ++ frame.header.nonce.toList
  -- the cast to `uint32_t` wraps
  let out := putLe32 (UInt32.ofNat frame.ct.length) out
  let out := out ++ frame.ct
  out ++ frame.tag.toList

theorem serialize_eq (f : Frame) : serialize f =
    kMagic ++ ([kVersion] ++ (f.header.toBytes ++
      (LittleEndian.ofUInt32 (UInt32.ofNat f.ct.length) ++ (f.ct ++ f.tag.toList)))) := by
  simp [serialize, Header.toBytes, putLe32, putLe64]

theorem length_serialize (f : Frame) : (serialize f).length = 77 + f.ct.length := by
  simp [serialize_eq, kMagic]
  omega

end AccessSecurity.Protocol
