import AccessSecurity.Protocol.Frame

/-!
# Frame parser

`frame_parser.cpp`. The parser walks a pointer over the input. Some of its reads
are not guarded by `requireBytes`, so a read past the end is a fault of its own
here, distinct from the exceptions the parser throws.

The parser is characterised in two steps: `parse_eq` unrolls it into one decision
tree over the input, and `parseFrame_ok_iff` turns the accepting branch into the
statement that the input is the serialization of the frame returned.
-/

namespace AccessSecurity.Protocol

open Foundation

inductive ParseFault where
  /-- `std::runtime_error` -/
  | error (what : String)
  /-- a read outside the input, which the language leaves undefined -/
  | outOfBounds
  deriving DecidableEq, Repr

structure FrameParser where
  bytes : Bytes
  maxCtLen : UInt32
  /-- the distance of `_ptr` from the start of the input -/
  ptr : Nat := 0
  frame : Frame := {}

abbrev ParseM := StateT FrameParser (Except ParseFault)

/-! ## Size constants -/

def kVersionSize : Nat := 1
def kU32 : Nat := 4
def kU64 : Nat := 8
def kHeaderFixedSize : Nat := 3 * kU32 + 2 * kU64
def kNonceSize : Nat := 24
def kTagSize : Nat := 16
def kCtLenSize : Nat := kU32
def kMinFrameSize : Nat :=
  kMagicSize + kVersionSize + kHeaderFixedSize + kNonceSize + kCtLenSize + kTagSize

/-! ## Reads -/

/-- The `n` bytes at the pointer. -/
def peek (n : Nat) : ParseM Bytes := do
  let p ← get
  if p.ptr + n ≤ p.bytes.length then
    return (p.bytes.drop p.ptr).take n
  else
    throw .outOfBounds

def advance (n : Nat) : ParseM Unit := modify fun p => { p with ptr := p.ptr + n }

def readLe32 : ParseM UInt32 := do
  let p ← get
  match getLe32 (p.bytes.drop p.ptr) with
  | some v => advance kU32; return v
  | none => throw .outOfBounds

def readLe64 : ParseM UInt64 := do
  let p ← get
  match getLe64 (p.bytes.drop p.ptr) with
  | some v => advance kU64; return v
  | none => throw .outOfBounds

/-- The difference `_end - _ptr` is cast to `size_t`: a pointer past the end would
leave a huge number of bytes. -/
def requireBytes (n : Nat) (msg : String) : ParseM Unit := do
  let p ← get
  if p.ptr ≤ p.bytes.length ∧ p.bytes.length - p.ptr < n then
    throw (.error msg)

/-! ## The parser -/

def validateMinSize : ParseM Unit := do
  let p ← get
  if p.bytes.length < kMinFrameSize then
    throw (.error "frame: too small")

def validateMagic : ParseM Unit := do
  requireBytes kMagicSize "frame: too small"
  let magic ← peek kMagicSize
  if magic ≠ kMagic then
    throw (.error "frame: bad magic")
  advance kMagicSize

def validateVersion : ParseM Unit := do
  requireBytes kVersionSize "frame: too small"
  let ver ← peek 1
  advance 1
  if ver ≠ [kVersion] then
    throw (.error "frame: bad version")

def parseHeader : ParseM Unit := do
  requireBytes (kHeaderFixedSize + kNonceSize + kCtLenSize) "frame: too small"
  let readerId ← readLe32
  let doorId ← readLe32
  let tsUnixMs ← readLe64
  let seq ← readLe64
  let keyVersion ← readLe32
  let nonce ← peek kNonceSize
  modify fun p => { p with frame := { p.frame with
    header := { readerId, doorId, tsUnixMs, seq, keyVersion, nonce := copyInto 24 nonce } } }
  advance kNonceSize

def parseCiphertext : ParseM Unit := do
  let ctLen ← readLe32
  if (← get).maxCtLen < ctLen then
    throw (.error "frame: ctLen exceeds limit")
  requireBytes (ctLen.toNat + kTagSize) "frame: length mismatch"
  let ct ← peek ctLen.toNat
  modify fun p => { p with frame := { p.frame with ct } }
  advance ctLen.toNat

def parseTag : ParseM Unit := do
  let tag ← peek kTagSize
  modify fun p => { p with frame := { p.frame with tag := copyInto 16 tag } }
  advance kTagSize

def validateNoTrailingBytes : ParseM Unit := do
  let p ← get
  if p.ptr ≠ p.bytes.length then
    throw (.error "frame: trailing bytes")

def parse : ParseM Frame := do
  validateMinSize
  validateMagic
  validateVersion
  parseHeader
  parseCiphertext
  parseTag
  validateNoTrailingBytes
  return (← get).frame

def parseFrame (bytes : Bytes) (maxCtLen : UInt32) : Except ParseFault Frame :=
  parse.run' { bytes, maxCtLen }

/-! ## The parser as one decision tree -/

/-- The bytes `[i, i + n)` of the input. -/
def slice (b : Bytes) (i n : Nat) : Bytes := (b.drop i).take n

def word32At (b : Bytes) (i : Nat) : UInt32 := UInt32.ofNat (LittleEndian.decode (slice b i 4))

def word64At (b : Bytes) (i : Nat) : UInt64 := UInt64.ofNat (LittleEndian.decode (slice b i 8))

/-- The header stored at its fixed offset in a frame. -/
def headerAt (b : Bytes) : Header where
  readerId := word32At b 5
  doorId := word32At b 9
  tsUnixMs := word64At b 13
  seq := word64At b 21
  keyVersion := word32At b 29
  nonce := copyInto 24 (slice b 33 24)

/-- The length field of a frame. -/
def ctLenAt (b : Bytes) : UInt32 := word32At b 57

/-- The frame read at the offsets of the wire format. -/
def frameAt (b : Bytes) : Frame where
  header := headerAt b
  ct := slice b 61 (ctLenAt b).toNat
  tag := copyInto 16 (slice b (61 + (ctLenAt b).toNat) 16)

@[simp] theorem length_slice (b : Bytes) (i n : Nat) :
    (slice b i n).length = min n (b.length - i) := by
  simp [slice]

private theorem ok_bind {α β : Type} (a : α) (f : α → Except ParseFault β) :
    (Except.ok a >>= f) = f a := rfl

private theorem error_bind {α β : Type} (e : ParseFault) (f : α → Except ParseFault β) :
    (Except.error e >>= f) = .error e := rfl

private theorem pure_ok {α : Type} (a : α) : (pure a : Except ParseFault α) = .ok a := rfl

@[simp] theorem run_peek {p : FrameParser} {n : Nat} (h : p.ptr + n ≤ p.bytes.length) :
    (peek n).run p = .ok (slice p.bytes p.ptr n, p) := by
  simp [peek, slice, h]
  rfl

@[simp] theorem run_advance (p : FrameParser) (n : Nat) :
    (advance n).run p = .ok ((), { p with ptr := p.ptr + n }) := rfl

@[simp] theorem run_readLe32 {p : FrameParser} (h : p.ptr + 4 ≤ p.bytes.length) :
    readLe32.run p = .ok (word32At p.bytes p.ptr, { p with ptr := p.ptr + 4 }) := by
  have hread : getLe32 (p.bytes.drop p.ptr) = some (word32At p.bytes p.ptr) :=
    LittleEndian.toUInt32_eq (by simp; omega)
  simp [readLe32, hread, run_advance]
  rfl

@[simp] theorem run_readLe64 {p : FrameParser} (h : p.ptr + 8 ≤ p.bytes.length) :
    readLe64.run p = .ok (word64At p.bytes p.ptr, { p with ptr := p.ptr + 8 }) := by
  have hread : getLe64 (p.bytes.drop p.ptr) = some (word64At p.bytes p.ptr) :=
    LittleEndian.toUInt64_eq (by simp; omega)
  simp [readLe64, hread, run_advance]
  rfl

@[simp] theorem run_requireBytes {p : FrameParser} (n : Nat) (msg : String)
    (h : p.ptr ≤ p.bytes.length) :
    (requireBytes n msg).run p =
      if p.bytes.length < p.ptr + n then .error (.error msg) else .ok ((), p) := by
  by_cases hn : p.bytes.length < p.ptr + n
  · have : p.bytes.length - p.ptr < n := by omega
    simp [requireBytes, h, hn, this]
    rfl
  · have : ¬ p.bytes.length - p.ptr < n := by omega
    simp [requireBytes, hn, this]
    rfl

/-! Each stage, from the position the stages before it leave. -/

@[simp] theorem run_validateMinSize (p : FrameParser) : validateMinSize.run p =
    if p.bytes.length < 77 then .error (.error "frame: too small") else .ok ((), p) := by
  have hmin : kMinFrameSize = 77 := rfl
  by_cases h : p.bytes.length < 77
  · simp [validateMinSize, hmin, h]
    rfl
  · simp [validateMinSize, hmin, h]
    rfl

@[simp] theorem run_validateMagic {p : FrameParser} (hp : p.ptr = 0) (h : 77 ≤ p.bytes.length) :
    validateMagic.run p = if slice p.bytes 0 4 ≠ kMagic then .error (.error "frame: bad magic")
      else .ok ((), { p with ptr := 4 }) := by
  have hsize : ¬ p.bytes.length < 4 := by omega
  by_cases hm : slice p.bytes 0 4 = kMagic
  · simp (disch := omega) [validateMagic, kMagicSize, ok_bind, hp, hsize, hm]
  · simp (disch := omega) [validateMagic, kMagicSize, ok_bind, hp, hsize, hm]
    rfl

@[simp] theorem run_validateVersion {p : FrameParser} (hp : p.ptr = 4) (h : 77 ≤ p.bytes.length) :
    validateVersion.run p =
      if slice p.bytes 4 1 ≠ [kVersion] then .error (.error "frame: bad version")
      else .ok ((), { p with ptr := 5 }) := by
  have hsize : ¬ p.bytes.length < 5 := by omega
  by_cases hv : slice p.bytes 4 1 = [kVersion]
  · simp (disch := omega) [validateVersion, kVersionSize, ok_bind, pure_ok, hp, hsize, hv]
  · simp (disch := omega) [validateVersion, kVersionSize, ok_bind, hp, hsize, hv]
    rfl

@[simp] theorem run_parseHeader {p : FrameParser} (hp : p.ptr = 5) (h : 77 ≤ p.bytes.length) :
    parseHeader.run p =
      .ok ((), { p with ptr := 57, frame := { p.frame with header := headerAt p.bytes } }) := by
  have hsize : ¬ p.bytes.length < 61 := by omega
  have hread : ∀ n ≤ 77, n ≤ p.bytes.length := fun n hn => hn.trans h
  simp [parseHeader, kHeaderFixedSize, kU32, kU64, kNonceSize, kCtLenSize, ok_bind, pure_ok, hp,
    hsize, hread, headerAt]

/-- The length field itself is read without a check: the check made before the header
covers it. -/
@[simp] theorem run_parseCiphertext {p : FrameParser} (hp : p.ptr = 57)
    (h : 77 ≤ p.bytes.length) :
    parseCiphertext.run p =
      if p.maxCtLen < ctLenAt p.bytes then .error (.error "frame: ctLen exceeds limit")
      else if p.bytes.length < 77 + (ctLenAt p.bytes).toNat then
        .error (.error "frame: length mismatch")
      else .ok ((), { p with
        ptr := 61 + (ctLenAt p.bytes).toNat
        frame := { p.frame with ct := slice p.bytes 61 (ctLenAt p.bytes).toNat } }) := by
  have hread : readLe32.run p = .ok (ctLenAt p.bytes, { p with ptr := 61 }) := by
    rw [run_readLe32 (by omega), hp, ctLenAt]
  have hrest : (p.bytes.length < 61 + ((ctLenAt p.bytes).toNat + 16)) ↔
      p.bytes.length < 77 + (ctLenAt p.bytes).toNat := by omega
  have hfield : 61 ≤ p.bytes.length := by omega
  by_cases hmax : p.maxCtLen < ctLenAt p.bytes
  · simp [parseCiphertext, hread, ok_bind, hmax]
    rfl
  by_cases hlen : p.bytes.length < 77 + (ctLenAt p.bytes).toNat
  · simp [parseCiphertext, hread, ok_bind, error_bind, pure_ok, hmax, kTagSize, hrest, hlen,
      hfield]
  · have hct : 61 + (ctLenAt p.bytes).toNat ≤ p.bytes.length := by omega
    simp [parseCiphertext, hread, ok_bind, pure_ok, hmax, kTagSize, hrest, hlen, hfield, hct]

@[simp] theorem run_parseTag {p : FrameParser} (h : p.ptr + 16 ≤ p.bytes.length) :
    parseTag.run p = .ok ((), { p with
      ptr := p.ptr + 16
      frame := { p.frame with tag := copyInto 16 (slice p.bytes p.ptr 16) } }) := by
  simp [parseTag, kTagSize, run_peek, run_advance, ok_bind, pure_ok, h]

@[simp] theorem run_validateNoTrailingBytes (p : FrameParser) : validateNoTrailingBytes.run p =
    if p.ptr ≠ p.bytes.length then .error (.error "frame: trailing bytes") else .ok ((), p) := by
  by_cases h : p.ptr = p.bytes.length
  · simp [validateNoTrailingBytes, h]
    rfl
  · simp [validateNoTrailingBytes, h]
    rfl

/-- What the parser does on every input. In particular no read is out of bounds. -/
theorem parse_eq (b : Bytes) (maxCtLen : UInt32) : parseFrame b maxCtLen =
    if b.length < 77 then .error (.error "frame: too small")
    else if slice b 0 4 ≠ kMagic then .error (.error "frame: bad magic")
    else if slice b 4 1 ≠ [kVersion] then .error (.error "frame: bad version")
    else if maxCtLen < ctLenAt b then .error (.error "frame: ctLen exceeds limit")
    else if b.length < 77 + (ctLenAt b).toNat then .error (.error "frame: length mismatch")
    else if 77 + (ctLenAt b).toNat < b.length then .error (.error "frame: trailing bytes")
    else .ok (frameAt b) := by
  by_cases hmin : b.length < 77
  · simp [parseFrame, parse, hmin, error_bind]
  have hb : 77 ≤ b.length := by omega
  by_cases hmagic : slice b 0 4 = kMagic
  swap
  · simp [parseFrame, parse, hmin, hb, hmagic, ok_bind, error_bind]
  by_cases hversion : slice b 4 1 = [kVersion]
  swap
  · simp [parseFrame, parse, hmin, hb, hmagic, hversion, ok_bind, error_bind]
  by_cases hmax : maxCtLen < ctLenAt b
  · simp [parseFrame, parse, hmin, hb, hmagic, hversion, hmax, ok_bind, error_bind]
  by_cases hlen : b.length < 77 + (ctLenAt b).toNat
  · simp [parseFrame, parse, hmin, hb, hmagic, hversion, hmax, hlen, ok_bind, error_bind]
  have htag : 61 + (ctLenAt b).toNat + 16 ≤ b.length := by omega
  by_cases hend : 77 + (ctLenAt b).toNat < b.length
  · have hptr : 61 + (ctLenAt b).toNat + 16 ≠ b.length := by omega
    simp [parseFrame, parse, hmin, hb, hmagic, hversion, hmax, hlen, htag, hend, hptr, ok_bind]
  · have hptr : 61 + (ctLenAt b).toNat + 16 = b.length := by omega
    simp [parseFrame, parse, hmin, hb, hmagic, hversion, hmax, hlen, hend, hptr, ok_bind]
    rfl

/-! ## What is accepted is a serialization -/

theorem slice_append_slice (b : Bytes) (i n m : Nat) :
    slice b i n ++ slice b (i + n) m = slice b i (n + m) := by
  simp [slice, List.take_add]

theorem slice_mid (xs ys zs : Bytes) : slice (xs ++ (ys ++ zs)) xs.length ys.length = ys := by
  simp [slice]

theorem slice_zero_length (b : Bytes) : slice b 0 b.length = b := by
  simp [slice]

theorem ofUInt32_word32At {b : Bytes} {i : Nat} (h : i + 4 ≤ b.length) :
    LittleEndian.ofUInt32 (word32At b i) = slice b i 4 :=
  have hlen : 4 ≤ (b.drop i).length := by simp; omega
  LittleEndian.ofUInt32_of_toUInt32 hlen (LittleEndian.toUInt32_eq hlen)

theorem ofUInt64_word64At {b : Bytes} {i : Nat} (h : i + 8 ≤ b.length) :
    LittleEndian.ofUInt64 (word64At b i) = slice b i 8 :=
  have hlen : 8 ≤ (b.drop i).length := by simp; omega
  LittleEndian.ofUInt64_of_toUInt64 hlen (LittleEndian.toUInt64_eq hlen)

theorem toBytes_headerAt {b : Bytes} (h : 57 ≤ b.length) :
    (headerAt b).toBytes = slice b 5 52 := by
  have hnonce : (copyInto 24 (slice b 33 24)).toList = slice b 33 24 :=
    toList_copyInto (by simp; omega)
  rw [Header.toBytes_eq, headerAt, hnonce, ofUInt32_word32At (by omega),
    ofUInt32_word32At (by omega), ofUInt32_word32At (by omega), ofUInt64_word64At (by omega),
    ofUInt64_word64At (by omega)]
  simp only [slice_append_slice b 29 4 24, slice_append_slice b 21 8, slice_append_slice b 13 8,
    slice_append_slice b 9 4, slice_append_slice b 5 4]

/-- An input that passes every check is the serialization of the frame at its offsets. -/
theorem serialize_frameAt {b : Bytes} (hmagic : slice b 0 4 = kMagic)
    (hversion : slice b 4 1 = [kVersion]) (hlen : b.length = 77 + (ctLenAt b).toNat) :
    serialize (frameAt b) = b := by
  set n := (ctLenAt b).toNat with hn
  have hct : (slice b 61 n).length = n := by simp; omega
  have htag : (copyInto 16 (slice b (61 + n) 16)).toList = slice b (61 + n) 16 :=
    toList_copyInto (by simp; omega)
  have hfield : LittleEndian.ofUInt32 (UInt32.ofNat n) = slice b 57 4 := by
    rw [hn, UInt32.ofNat_toNat, ctLenAt, ofUInt32_word32At (by omega)]
  rw [serialize_eq, frameAt, ← hn, hct, hfield, htag, toBytes_headerAt (by omega), ← hmagic,
    ← hversion]
  rw [slice_append_slice b 61 n 16, slice_append_slice b 57 4, slice_append_slice b 5 52,
    slice_append_slice b 4 1, slice_append_slice b 0 4]
  have : 4 + (1 + (52 + (4 + (n + 16)))) = b.length := by omega
  rw [this, slice_zero_length]

theorem serialize_inj {f g : Frame} (hf : f.ct.length < 2 ^ 32) (hg : g.ct.length < 2 ^ 32)
    (h : serialize f = serialize g) : f = g := by
  have hlen : f.ct.length = g.ct.length := by
    have := congrArg List.length h
    rw [length_serialize, length_serialize] at this
    omega
  rw [serialize_eq, serialize_eq, List.append_cancel_left_eq, List.append_cancel_left_eq] at h
  obtain ⟨hheader, h⟩ := List.append_inj h (by simp)
  obtain ⟨-, h⟩ := List.append_inj h (by simp)
  obtain ⟨hct, htag⟩ := List.append_inj h hlen
  cases f
  cases g
  simp only [Frame.mk.injEq]
  exact ⟨Header.toBytes_inj hheader, hct, Vector.toList_inj.mp htag⟩

theorem checks_serialize {f : Frame} (hf : f.ct.length < 2 ^ 32) :
    slice (serialize f) 0 4 = kMagic ∧ slice (serialize f) 4 1 = [kVersion] ∧
      (ctLenAt (serialize f)).toNat = f.ct.length := by
  have hword : word32At (serialize f) 57 = UInt32.ofNat f.ct.length := by
    have hslice : slice (serialize f) 57 4 =
        LittleEndian.ofUInt32 (UInt32.ofNat f.ct.length) := by
      have := slice_mid (kMagic ++ ([kVersion] ++ f.header.toBytes))
        (LittleEndian.ofUInt32 (UInt32.ofNat f.ct.length)) (f.ct ++ f.tag.toList)
      simpa [serialize_eq, kMagic] using this
    have hread := ofUInt32_word32At (b := serialize f) (i := 57) (by rw [length_serialize]; omega)
    exact LittleEndian.ofUInt32_inj (hread.trans hslice)
  refine ⟨?_, ?_, ?_⟩
  · rw [serialize_eq]
    rfl
  · rw [serialize_eq]
    rfl
  · rw [ctLenAt, hword, UInt32.toNat_ofNat_of_lt' hf]

theorem parseFrame_ok_iff {b : Bytes} {maxCtLen : UInt32} {f : Frame} :
    parseFrame b maxCtLen = .ok f ↔ b = serialize f ∧ f.ct.length ≤ maxCtLen.toNat := by
  constructor
  · intro h
    rw [parse_eq] at h
    split_ifs at h with hmin hmagic hversion hmax hlen hend
    obtain rfl : frameAt b = f := by simpa using h
    push Not at hmagic hversion
    refine ⟨(serialize_frameAt hmagic hversion (by omega)).symm, ?_⟩
    have hle : (ctLenAt b).toNat ≤ maxCtLen.toNat := by
      simpa [UInt32.le_iff_toNat_le] using hmax
    simp only [frameAt, length_slice]
    omega
  · rintro ⟨rfl, hf⟩
    have hlt : f.ct.length < 2 ^ 32 := lt_of_le_of_lt hf maxCtLen.toNat_lt
    obtain ⟨hmagic, hversion, hlen⟩ := checks_serialize hlt
    have hsize : (serialize f).length = 77 + (ctLenAt (serialize f)).toNat := by
      rw [length_serialize, hlen]
    have hframe : frameAt (serialize f) = f :=
      serialize_inj (by simp [frameAt]; omega) hlt (serialize_frameAt hmagic hversion hsize)
    have hmax : ¬ maxCtLen < ctLenAt (serialize f) := by
      rw [UInt32.lt_iff_toNat_lt, hlen]
      omega
    rw [parse_eq, if_neg (by omega), if_neg (by simp [hmagic]), if_neg (by simp [hversion]),
      if_neg hmax, if_neg (by omega), if_neg (by omega), hframe]

/-- A serialized frame is parsed as itself, when its ciphertext is not too long. -/
theorem parseFrame_serialize_iff {f g : Frame} {maxCtLen : UInt32} :
    parseFrame (serialize g) maxCtLen = .ok f ↔ f = g ∧ g.ct.length ≤ maxCtLen.toNat := by
  rw [parseFrame_ok_iff]
  constructor
  · rintro ⟨heq, hf⟩
    have hlen : g.ct.length = f.ct.length := by
      have := congrArg List.length heq
      simpa [length_serialize] using this
    have hlt : f.ct.length < 2 ^ 32 := lt_of_le_of_lt hf maxCtLen.toNat_lt
    exact ⟨(serialize_inj (hlen ▸ hlt) hlt heq).symm, hlen ▸ hf⟩
  · rintro ⟨rfl, hf⟩
    exact ⟨rfl, hf⟩

/-! ## The codec -/

/-- The parser accepts exactly the serialized frames whose ciphertext is not too long: the
two functions are inverse to each other, and no frame is parsed from two inputs, not even
under different limits. -/
theorem frame_codec_exact :
    (∀ b maxCtLen f,
      parseFrame b maxCtLen = .ok f ↔ b = serialize f ∧ f.ct.length ≤ maxCtLen.toNat) ∧
    (∀ f maxCtLen, f.ct.length ≤ maxCtLen.toNat → parseFrame (serialize f) maxCtLen = .ok f) ∧
    (∀ b maxCtLen f, parseFrame b maxCtLen = .ok f → serialize f = b) ∧
    ∀ b b' maxCtLen maxCtLen' f, parseFrame b maxCtLen = .ok f →
      parseFrame b' maxCtLen' = .ok f → b = b' := by
  have hserialize : ∀ b maxCtLen f, parseFrame b maxCtLen = .ok f → serialize f = b := by
    intro b maxCtLen f h
    exact (parseFrame_ok_iff.mp h).1.symm
  refine ⟨fun b maxCtLen f => parseFrame_ok_iff, ?_, hserialize, ?_⟩
  · intro f maxCtLen hf
    exact parseFrame_ok_iff.mpr ⟨rfl, hf⟩
  · intro b b' maxCtLen maxCtLen' f h h'
    rw [← hserialize b maxCtLen f h, hserialize b' maxCtLen' f h']

/-- A frame at the limit is read back. -/
theorem frame_codec_exact_limit :
    parseFrame (serialize { ct := [1, 2, 3] }) 3 = .ok { ct := [1, 2, 3] } := by
  obtain ⟨-, hparse, -, -⟩ := frame_codec_exact
  exact hparse _ _ (by decide)

end AccessSecurity.Protocol
