import Mathlib
import AccessSecurity.Foundation.Program
import AccessSecurity.Protocol.FrameParser

/-!
# What the parser reads

The parser once more, on memory that does not end with the input. No read is refused here:
each one is logged, and what it finds past the end is arbitrary. The triples of the stages
say where the pointer stands and that every byte before it has been read, once. It follows
that the parser stays inside its input (`reads_inside`), and so that it is `parseFrame`,
where a read past the end is a fault.
-/

namespace AccessSecurity.Protocol

open Foundation Std.Do

set_option mvcgen.warning false

structure RawParser extends FrameParser where
  /-- the memory after the input -/
  beyond : ℕ → UInt8
  /-- the offsets of the bytes read, in order -/
  reads : List ℕ := []
  /-- the positions the pointer has had -/
  positions : List ℕ := [0]

abbrev RawM := EStateM String RawParser

namespace RawParser

def memory (p : RawParser) (i : ℕ) : UInt8 := p.bytes.getD i (p.beyond (i - p.bytes.length))

/-- The `n` bytes at the pointer, wherever it points. -/
def here (p : RawParser) (n : ℕ) : Bytes := (List.range' p.ptr n).map p.memory

def logged (p : RawParser) (n : ℕ) : RawParser :=
  { p with reads := p.reads ++ List.range' p.ptr n }

def moved (p : RawParser) (n : ℕ) : RawParser :=
  { p with ptr := p.ptr + n, positions := p.positions ++ [p.ptr + n] }

def withFrame (p : RawParser) (frame : Frame) : RawParser := { p with frame }

/-! ## The parser -/

def peek (n : ℕ) : RawM Bytes := do
  let p ← get
  set (p.logged n)
  return p.here n

def advance (n : ℕ) : RawM Unit := modify (·.moved n)

def readLe32 : RawM UInt32 := do
  let bytes ← peek kU32
  advance kU32
  return (getLe32 bytes).getD 0

def readLe64 : RawM UInt64 := do
  let bytes ← peek kU64
  advance kU64
  return (getLe64 bytes).getD 0

def setFrame (f : Frame → Frame) : RawM Unit := modify fun p => p.withFrame (f p.frame)

def requireBytes (n : ℕ) (msg : String) : RawM Unit := do
  let p ← get
  if p.ptr ≤ p.bytes.length ∧ p.bytes.length - p.ptr < n then
    throw msg

def validateMinSize : RawM Unit := do
  let p ← get
  if p.bytes.length < kMinFrameSize then
    throw "frame: too small"

def validateMagic : RawM Unit := do
  requireBytes kMagicSize "frame: too small"
  let magic ← peek kMagicSize
  if magic ≠ kMagic then
    throw "frame: bad magic"
  advance kMagicSize

def validateVersion : RawM Unit := do
  requireBytes kVersionSize "frame: too small"
  let ver ← peek 1
  advance 1
  if ver ≠ [kVersion] then
    throw "frame: bad version"

def parseHeader : RawM Unit := do
  requireBytes (kHeaderFixedSize + kNonceSize + kCtLenSize) "frame: too small"
  let readerId ← readLe32
  let doorId ← readLe32
  let tsUnixMs ← readLe64
  let seq ← readLe64
  let keyVersion ← readLe32
  let nonce ← peek kNonceSize
  setFrame fun frame => { frame with
    header := { readerId, doorId, tsUnixMs, seq, keyVersion, nonce := copyInto 24 nonce } }
  advance kNonceSize

def parseCiphertext : RawM Unit := do
  let ctLen ← readLe32
  if (← get).maxCtLen < ctLen then
    throw "frame: ctLen exceeds limit"
  requireBytes (ctLen.toNat + kTagSize) "frame: length mismatch"
  let ct ← peek ctLen.toNat
  setFrame fun frame => { frame with ct }
  advance ctLen.toNat

def parseTag : RawM Unit := do
  let tag ← peek kTagSize
  setFrame fun frame => { frame with tag := copyInto 16 tag }
  advance kTagSize

def validateNoTrailingBytes : RawM Unit := do
  let p ← get
  if p.ptr ≠ p.bytes.length then
    throw "frame: trailing bytes"

def parse : RawM Frame := do
  validateMinSize
  validateMagic
  validateVersion
  parseHeader
  parseCiphertext
  parseTag
  validateNoTrailingBytes
  return (← get).frame

def start (bytes : Bytes) (beyond : ℕ → UInt8) (maxCtLen : UInt32) : RawParser :=
  { bytes, maxCtLen, beyond }

/-! ## Where the pointer stands -/

def consumed (p : RawParser) (n : ℕ) : RawParser := (p.logged n).moved n

def word32 (p : RawParser) : UInt32 := (getLe32 (p.here kU32)).getD 0

def word64 (p : RawParser) : UInt64 := (getLe64 (p.here kU64)).getD 0

/-- Every byte read and every position of the pointer is inside the input. -/
structure Inside (b : Bytes) (p : RawParser) : Prop where
  reads_lt : ∀ i ∈ p.reads, i < b.length
  positions_le : ∀ i ∈ p.positions, i ≤ b.length

/-- The pointer stands at `k`, and the bytes before it have been read, each once. -/
structure At (b : Bytes) (maxCtLen : UInt32) (k : ℕ) (p : RawParser) : Prop where
  bytes_eq : p.bytes = b
  maxCtLen_eq : p.maxCtLen = maxCtLen
  ptr_eq : p.ptr = k
  le_length : k ≤ b.length
  reads_eq : p.reads = List.range k
  positions_le : ∀ i ∈ p.positions, i ≤ b.length

variable {b : Bytes} {maxCtLen : UInt32} {k : ℕ} {p : RawParser}

theorem at_start (b : Bytes) (beyond : ℕ → UInt8) (maxCtLen : UInt32) :
    At b maxCtLen 0 (start b beyond maxCtLen) where
  bytes_eq := rfl
  maxCtLen_eq := rfl
  ptr_eq := rfl
  le_length := Nat.zero_le _
  reads_eq := rfl
  positions_le := by simp [start]

theorem At.inside (h : At b maxCtLen k p) : Inside b p where
  reads_lt := by
    intro i hi
    rw [h.reads_eq, List.mem_range] at hi
    exact hi.trans_le h.le_length
  positions_le := h.positions_le

theorem At.here_eq (h : At b maxCtLen k p) {n : ℕ} (hn : k + n ≤ b.length) :
    p.here n = slice b k n := by
  apply List.ext_getElem
  · simp [here]
    omega
  · intro i hi hi'
    have hin : i < n := by simpa [here] using hi
    have hmem : k + i < b.length := by omega
    simp [here, memory, slice, h.ptr_eq, h.bytes_eq, hmem]

/-- The log after a read that the pointer has not yet moved over. -/
theorem At.inside_logged (h : At b maxCtLen k p) {n : ℕ} (hn : k + n ≤ b.length) :
    Inside b (p.logged n) where
  reads_lt := by
    intro i hi
    rw [logged, h.reads_eq, h.ptr_eq, List.mem_append, List.mem_range, List.mem_range'_1] at hi
    omega
  positions_le := h.positions_le

theorem At.consume (h : At b maxCtLen k p) {n : ℕ} (hn : k + n ≤ b.length) :
    At b maxCtLen (k + n) (p.consumed n) where
  bytes_eq := h.bytes_eq
  maxCtLen_eq := h.maxCtLen_eq
  ptr_eq := congrArg (· + n) h.ptr_eq
  le_length := hn
  reads_eq := by
    have hreads : p.reads ++ List.range' p.ptr n = List.range (k + n) := by
      rw [h.reads_eq, h.ptr_eq, List.range_eq_range', List.range_eq_range', ← List.range'_append_1,
        Nat.zero_add]
    exact hreads
  positions_le := by
    have hpos := h.positions_le
    intro i hi
    rcases List.mem_append.mp hi with hi | hi
    · exact hpos i hi
    · obtain rfl : i = p.ptr + n := List.mem_singleton.mp hi
      rw [h.ptr_eq]
      exact hn

/-- The bytes are copied into the frame between the read and the move. -/
theorem At.copy (h : At b maxCtLen k p) {n : ℕ} (hn : k + n ≤ b.length) (frame : Frame) :
    At b maxCtLen (k + n) (((p.logged n).withFrame frame).moved n) := by
  have hat := h.consume hn
  exact ⟨hat.bytes_eq, hat.maxCtLen_eq, hat.ptr_eq, hat.le_length, hat.reads_eq, hat.positions_le⟩

theorem At.word32_eq (h : At b maxCtLen k p) (hn : k + kU32 ≤ b.length) :
    p.word32 = word32At b k := by
  have hlen : 4 ≤ (slice b k 4).length := by
    rw [length_slice]
    exact Nat.le_min.mpr ⟨le_rfl, Nat.le_sub_of_add_le' hn⟩
  have hread : getLe32 (slice b k 4) = some (word32At b k) := by
    rw [getLe32, LittleEndian.toUInt32_eq hlen, word32At, slice, List.take_take]
    rfl
  rw [word32, h.here_eq hn]
  exact congrArg (·.getD 0) hread

theorem At.word64_eq (h : At b maxCtLen k p) (hn : k + kU64 ≤ b.length) :
    p.word64 = word64At b k := by
  have hlen : 8 ≤ (slice b k 8).length := by
    rw [length_slice]
    exact Nat.le_min.mpr ⟨le_rfl, Nat.le_sub_of_add_le' hn⟩
  have hread : getLe64 (slice b k 8) = some (word64At b k) := by
    rw [getLe64, LittleEndian.toUInt64_eq hlen, word64At, slice, List.take_take]
    rfl
  rw [word64, h.here_eq hn]
  exact congrArg (·.getD 0) hread

/-! ## Stages -/

section

variable {Q : PostCond Unit (.except String (.arg RawParser .pure))}

@[spec] theorem peek_spec (n : ℕ) {Q : PostCond Bytes (.except String (.arg RawParser .pure))} :
    ⦃fun p => Q.1 (p.here n) (p.logged n)⦄ peek n ⦃Q⦄ := by
  mvcgen [peek]

@[spec] theorem advance_spec (n : ℕ) : ⦃fun p => Q.1 () (p.moved n)⦄ advance n ⦃Q⦄ := by
  mvcgen [advance]

@[spec] theorem readLe32_spec {Q : PostCond UInt32 (.except String (.arg RawParser .pure))} :
    ⦃fun p => Q.1 p.word32 (p.consumed kU32)⦄ readLe32 ⦃Q⦄ := by
  mvcgen [readLe32]

@[spec] theorem readLe64_spec {Q : PostCond UInt64 (.except String (.arg RawParser .pure))} :
    ⦃fun p => Q.1 p.word64 (p.consumed kU64)⦄ readLe64 ⦃Q⦄ := by
  mvcgen [readLe64]

@[spec] theorem setFrame_spec (f : Frame → Frame) :
    ⦃fun p => Q.1 () (p.withFrame (f p.frame))⦄ setFrame f ⦃Q⦄ := by
  mvcgen [setFrame]

end

/-- The parser has thrown what the checked one throws, and has not left the input. -/
def Rejects (b : Bytes) (maxCtLen : UInt32) (msg : String) (p : RawParser) : Prop :=
  Inside b p ∧ parseFrame b maxCtLen = .error (.error msg)

/-- What the checks before the header have established. -/
structure Checked (b : Bytes) : Prop where
  length_ge : 77 ≤ b.length
  magic : slice b 0 4 = kMagic
  version : slice b 4 1 = [kVersion]

/-- The ciphertext and the tag fit into the input. -/
structure Fits (b : Bytes) (maxCtLen : UInt32) : Prop extends Checked b where
  ctLen_le : ¬ maxCtLen < ctLenAt b
  room : 77 + (ctLenAt b).toNat ≤ b.length

theorem Checked.parse_eq (h : Checked b) (maxCtLen : UInt32) : parseFrame b maxCtLen =
    if maxCtLen < ctLenAt b then .error (.error "frame: ctLen exceeds limit")
    else if b.length < 77 + (ctLenAt b).toNat then .error (.error "frame: length mismatch")
    else if 77 + (ctLenAt b).toNat < b.length then .error (.error "frame: trailing bytes")
    else .ok (frameAt b) := by
  rw [Protocol.parse_eq, if_neg h.length_ge.not_gt, if_neg (not_not.mpr h.magic),
    if_neg (not_not.mpr h.version)]

theorem Fits.parse_eq (h : Fits b maxCtLen) : parseFrame b maxCtLen =
    if 77 + (ctLenAt b).toNat < b.length then .error (.error "frame: trailing bytes")
    else .ok (frameAt b) := by
  rw [h.toChecked.parse_eq, if_neg h.ctLen_le, if_neg h.room.not_gt]

theorem At.short (h : At b maxCtLen k p) {n : ℕ}
    (hn : p.ptr ≤ p.bytes.length ∧ p.bytes.length - p.ptr < n) : b.length < k + n := by
  rw [h.ptr_eq, h.bytes_eq] at hn
  omega

theorem At.enough (h : At b maxCtLen k p) {n : ℕ}
    (hn : ¬ (p.ptr ≤ p.bytes.length ∧ p.bytes.length - p.ptr < n)) : k + n ≤ b.length := by
  have := h.le_length
  rw [h.ptr_eq, h.bytes_eq] at hn
  omega

theorem validateMinSize_spec (b : Bytes) (maxCtLen : UInt32) :
    ⦃fun p => ⌜At b maxCtLen 0 p⌝⦄ validateMinSize
    ⦃post⟨fun _ p => ⌜At b maxCtLen 0 p ∧ 77 ≤ b.length⌝,
      fun msg p => ⌜Rejects b maxCtLen msg p⌝⟩⦄ := by
  mvcgen [validateMinSize]
  case vc1.isTrue p h hsmall =>
    have hlen : b.length < 77 := h.bytes_eq ▸ hsmall
    exact ⟨h.inside, by rw [parse_eq, if_pos hlen]⟩
  case vc2.isFalse p h hsmall =>
    rw [h.bytes_eq] at hsmall
    exact ⟨h, Nat.le_of_not_lt hsmall⟩

theorem validateMagic_spec (b : Bytes) (maxCtLen : UInt32) :
    ⦃fun p => ⌜At b maxCtLen 0 p ∧ 77 ≤ b.length⌝⦄ validateMagic
    ⦃post⟨fun _ p => ⌜At b maxCtLen 4 p ∧ 77 ≤ b.length ∧ slice b 0 4 = kMagic⌝,
      fun msg p => ⌜Rejects b maxCtLen msg p⌝⟩⦄ := by
  mvcgen [validateMagic, requireBytes]
  case vc1.isTrue p h hshort =>
    have hlen : b.length < 0 + 4 := h.1.short hshort
    omega
  case vc2.isFalse.isTrue p h hshort _ hmagic =>
    obtain ⟨hat, hlen⟩ := h
    have hread : 0 + kMagicSize ≤ b.length := hat.enough hshort
    have hne : slice b 0 4 ≠ kMagic := hat.here_eq hread ▸ hmagic
    exact ⟨hat.inside_logged hread, by rw [parse_eq, if_neg (by omega), if_pos hne]⟩
  case vc3.isFalse.isFalse p h hshort _ hmagic =>
    obtain ⟨hat, hlen⟩ := h
    have hread : 0 + kMagicSize ≤ b.length := hat.enough hshort
    rw [hat.here_eq hread, not_not] at hmagic
    exact ⟨hat.consume hread, hlen, hmagic⟩

theorem validateVersion_spec (b : Bytes) (maxCtLen : UInt32) :
    ⦃fun p => ⌜At b maxCtLen 4 p ∧ 77 ≤ b.length ∧ slice b 0 4 = kMagic⌝⦄ validateVersion
    ⦃post⟨fun _ p => ⌜At b maxCtLen 5 p ∧ Checked b⌝,
      fun msg p => ⌜Rejects b maxCtLen msg p⌝⟩⦄ := by
  mvcgen [validateVersion, requireBytes]
  case vc1.isTrue p h hshort =>
    have hlen : b.length < 4 + 1 := h.1.short hshort
    omega
  case vc2.isFalse.isTrue p h hshort hversion =>
    obtain ⟨hat, hlen, hmagic⟩ := h
    have hread : 4 + 1 ≤ b.length := hat.enough hshort
    rw [hat.here_eq hread] at hversion
    refine ⟨(hat.consume hread).inside, ?_⟩
    rw [parse_eq, if_neg (by omega), if_neg (by simpa using hmagic), if_pos hversion]
  case vc3.isFalse.isFalse p h hshort hversion =>
    obtain ⟨hat, hlen, hmagic⟩ := h
    have hread : 4 + 1 ≤ b.length := hat.enough hshort
    rw [hat.here_eq hread, not_not] at hversion
    exact ⟨hat.consume hread, hlen, hmagic, hversion⟩

theorem parseHeader_spec (b : Bytes) (maxCtLen : UInt32) :
    ⦃fun p => ⌜At b maxCtLen 5 p ∧ Checked b⌝⦄ parseHeader
    ⦃post⟨fun _ p => ⌜At b maxCtLen 57 p ∧ Checked b ∧ p.frame.header = headerAt b⌝,
      fun msg p => ⌜Rejects b maxCtLen msg p⌝⟩⦄ := by
  mvcgen [parseHeader, requireBytes]
  case vc1.isTrue p h hshort =>
    have hlen : b.length < 5 + 56 := h.1.short hshort
    have := h.2.length_ge
    omega
  case vc2.isFalse p h hshort =>
    obtain ⟨h5, hchecked⟩ := h
    have hroom : ∀ n ≤ 77, n ≤ b.length := fun n hn => hn.trans hchecked.length_ge
    have h9 : At b maxCtLen 9 _ := h5.consume (hroom (5 + kU32) (by decide))
    have h13 : At b maxCtLen 13 _ := h9.consume (hroom (9 + kU32) (by decide))
    have h21 : At b maxCtLen 21 _ := h13.consume (hroom (13 + kU64) (by decide))
    have h29 : At b maxCtLen 29 _ := h21.consume (hroom (21 + kU64) (by decide))
    have h33 : At b maxCtLen 33 _ := h29.consume (hroom (29 + kU32) (by decide))
    refine ⟨h33.copy (hroom (33 + kNonceSize) (by decide)) _, hchecked, ?_⟩
    change Header.mk _ _ _ _ _ _ = headerAt b
    rw [h5.word32_eq (hroom _ (by decide)), h9.word32_eq (hroom _ (by decide)),
      h13.word64_eq (hroom _ (by decide)), h21.word64_eq (hroom _ (by decide)),
      h29.word32_eq (hroom _ (by decide)), h33.here_eq (hroom _ (by decide))]
    rfl

/-- The length field is read without a check of its own. -/
theorem At.lengthField (h : At b maxCtLen 57 p) (hchecked : Checked b) :
    At b maxCtLen 61 (p.consumed kU32) ∧ p.word32 = ctLenAt b := by
  have hfield : 57 + kU32 ≤ b.length := le_trans (by decide) hchecked.length_ge
  exact ⟨h.consume hfield, h.word32_eq hfield⟩

theorem parseCiphertext_spec (b : Bytes) (maxCtLen : UInt32) :
    ⦃fun p => ⌜At b maxCtLen 57 p ∧ Checked b ∧ p.frame.header = headerAt b⌝⦄ parseCiphertext
    ⦃post⟨fun _ p => ⌜At b maxCtLen (61 + (ctLenAt b).toNat) p ∧ Fits b maxCtLen ∧
        p.frame.header = headerAt b ∧ p.frame.ct = slice b 61 (ctLenAt b).toNat⌝,
      fun msg p => ⌜Rejects b maxCtLen msg p⌝⟩⦄ := by
  have htag : kTagSize = 16 := rfl
  mvcgen [parseCiphertext, requireBytes]
  case vc1.isTrue p h _ hmax =>
    obtain ⟨h61, hword⟩ := h.1.lengthField h.2.1
    rw [h61.maxCtLen_eq, hword] at hmax
    exact ⟨h61.inside, by rw [h.2.1.parse_eq, if_pos hmax]⟩
  case vc2.isFalse.isTrue p h _ hmax hshort =>
    obtain ⟨h61, hword⟩ := h.1.lengthField h.2.1
    have hlen := h61.short hshort
    rw [hword] at hlen
    rw [h61.maxCtLen_eq, hword] at hmax
    have hroom : b.length < 77 + (ctLenAt b).toNat := by omega
    exact ⟨h61.inside, by rw [h.2.1.parse_eq, if_neg hmax, if_pos hroom]⟩
  case vc3.isFalse.isFalse p h _ hmax hshort =>
    obtain ⟨h61, hword⟩ := h.1.lengthField h.2.1
    have hlen := h61.enough hshort
    rw [h61.maxCtLen_eq, hword] at hmax
    rw [hword] at hlen ⊢
    have hroom : 77 + (ctLenAt b).toNat ≤ b.length := by omega
    have hct : 61 + (ctLenAt b).toNat ≤ b.length := by omega
    exact ⟨h61.copy hct _, ⟨h.2.1, hmax, hroom⟩, h.2.2, h61.here_eq hct⟩

/-- The tag, too, is read without a check: the one before the ciphertext covers it. -/
theorem parseTag_spec (b : Bytes) (maxCtLen : UInt32) :
    ⦃fun p => ⌜At b maxCtLen (61 + (ctLenAt b).toNat) p ∧ Fits b maxCtLen ∧
      p.frame.header = headerAt b ∧ p.frame.ct = slice b 61 (ctLenAt b).toNat⌝⦄ parseTag
    ⦃post⟨fun _ p => ⌜At b maxCtLen (77 + (ctLenAt b).toNat) p ∧ Fits b maxCtLen ∧
        p.frame = frameAt b⌝,
      fun msg p => ⌜Rejects b maxCtLen msg p⌝⟩⦄ := by
  have htag : kTagSize = 16 := rfl
  mvcgen [parseTag]
  case vc1 p h =>
    obtain ⟨hat, hfits, hheader, hct⟩ := h
    have hroom := hfits.room
    have hread : 61 + (ctLenAt b).toNat + kTagSize ≤ b.length := by omega
    have hend : 77 + (ctLenAt b).toNat = 61 + (ctLenAt b).toNat + kTagSize := by omega
    refine ⟨?_, hfits, ?_⟩
    · rw [hend]
      exact hat.copy hread _
    change Frame.mk p.frame.header p.frame.ct (copyInto 16 (p.here kTagSize)) = frameAt b
    rw [hheader, hct, hat.here_eq hread]
    rfl

theorem validateNoTrailingBytes_spec (b : Bytes) (maxCtLen : UInt32) :
    ⦃fun p => ⌜At b maxCtLen (77 + (ctLenAt b).toNat) p ∧ Fits b maxCtLen ∧ p.frame = frameAt b⌝⦄
    validateNoTrailingBytes
    ⦃post⟨fun _ p => ⌜At b maxCtLen b.length p ∧ parseFrame b maxCtLen = .ok p.frame⌝,
      fun msg p => ⌜Rejects b maxCtLen msg p⌝⟩⦄ := by
  mvcgen [validateNoTrailingBytes]
  case vc1.isTrue p h hend =>
    obtain ⟨hat, hfits, -⟩ := h
    rw [hat.ptr_eq, hat.bytes_eq] at hend
    have hlt : 77 + (ctLenAt b).toNat < b.length := lt_of_le_of_ne hfits.room hend
    exact ⟨hat.inside, by rw [hfits.parse_eq, if_pos hlt]⟩
  case vc2.isFalse p h hend =>
    obtain ⟨hat, hfits, hframe⟩ := h
    rw [hat.ptr_eq, hat.bytes_eq, not_not] at hend
    rw [hfits.parse_eq, if_neg hend.not_lt, hframe]
    exact ⟨hend ▸ hat, rfl⟩

/-- The whole parser: what it returns or throws is what the checked parser does. -/
theorem parse_spec (b : Bytes) (maxCtLen : UInt32) :
    ⦃fun p => ⌜At b maxCtLen 0 p⌝⦄ parse
    ⦃post⟨fun frame p => ⌜At b maxCtLen b.length p ∧ parseFrame b maxCtLen = .ok frame⌝,
      fun msg p => ⌜Rejects b maxCtLen msg p⌝⟩⦄ := by
  mvcgen [parse, validateMinSize_spec, validateMagic_spec, validateVersion_spec, parseHeader_spec,
    parseCiphertext_spec, parseTag_spec, validateNoTrailingBytes_spec]

/-! ## Runs -/

/-- A triple speaks of the value and the state in which the program stops. -/
theorem of_triple {α : Type} {x : RawM α} {P : RawParser → Prop} {Q : α → RawParser → Prop}
    {E : String → RawParser → Prop}
    (h : ⦃fun p => ⌜P p⌝⦄ x ⦃post⟨fun a p => ⌜Q a p⌝, fun msg p => ⌜E msg p⌝⟩⦄) {p : RawParser}
    (hp : P p) :
    match result x p with
    | .ok a => Q a (Foundation.after x p)
    | .error msg => E msg (Foundation.after x p) := by
  have hrun := EStateM.of_wp_run_eq (x := x p) rfl
    (fun r => match r with | .ok a t => Q a t | .error msg t => E msg t) fun _ => h p hp
  unfold result Foundation.after
  cases hx : x p with
  | ok a t => rwa [hx] at hrun
  | error msg t => rwa [hx] at hrun

/-- Whatever lies in memory after the input, the parser reads only inside the input and its
pointer never passes the end; when it returns, it has read every byte of the input once, in
order, and consumed them all. It returns and throws what `parseFrame` does. -/
theorem reads_inside (b : Bytes) (beyond : ℕ → UInt8) (maxCtLen : UInt32) :
    Inside b (Foundation.after parse (start b beyond maxCtLen)) ∧
    (∀ frame, result parse (start b beyond maxCtLen) = .ok frame →
      (Foundation.after parse (start b beyond maxCtLen)).ptr = b.length ∧
      (Foundation.after parse (start b beyond maxCtLen)).reads = List.range b.length) ∧
    (result parse (start b beyond maxCtLen)).mapError .error = parseFrame b maxCtLen := by
  have hrun := of_triple (parse_spec b maxCtLen) (at_start b beyond maxCtLen)
  cases hres : result parse (start b beyond maxCtLen) with
  | ok frame =>
    rw [hres] at hrun
    obtain ⟨hat, hparse⟩ := hrun
    refine ⟨hat.inside, fun _ _ => ⟨hat.ptr_eq, hat.reads_eq⟩, ?_⟩
    rw [hparse]
    rfl
  | error msg =>
    rw [hres] at hrun
    obtain ⟨hinside, hparse⟩ := hrun
    refine ⟨hinside, fun frame h => absurd h (by simp), ?_⟩
    rw [hparse]
    rfl

end RawParser

end AccessSecurity.Protocol
