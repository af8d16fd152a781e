import AccessSecurity.Core.FrameHandler

/-!
# Classification of parse failures

The handler recovers the error code from the text of the exception. `firstDefect` says what
is wrong with an input in terms of its bytes alone; the handler reports exactly that
(`parse_errors_exact`), and never falls back to `parse_error`.
-/

namespace AccessSecurity.Core

open Foundation Protocol

/-- The number in the length field of a frame. -/
def ctLenField (b : Bytes) : ℕ := LittleEndian.decode ((b.drop 57).take 4)

/-- The code for the first thing that is wrong with the input, in the order of the checks. -/
def firstDefect (maxCtLen : UInt32) (b : Bytes) : Option String :=
  if b.length < 77 then some "frame_too_small"
  else if b.take 4 ≠ [0x41, 0x53, 0x30, 0x31] then some "bad_magic"
  else if b[4]? ≠ some 1 then some "bad_protocol_version"
  else if maxCtLen.toNat < ctLenField b then some "ciphertext_too_large"
  else if b.length < 77 + ctLenField b then some "frame_truncated"
  else if 77 + ctLenField b < b.length then some "frame_trailing_bytes"
  else none

/-- The exception for the defect with a given code. -/
def exceptionText : String → String
  | "frame_too_small" => "frame: too small"
  | "bad_magic" => "frame: bad magic"
  | "bad_protocol_version" => "frame: bad version"
  | "ciphertext_too_large" => "frame: ctLen exceeds limit"
  | "frame_truncated" => "frame: length mismatch"
  | "frame_trailing_bytes" => "frame: trailing bytes"
  | _ => ""

def defectCodes : List String :=
  ["frame_too_small", "bad_magic", "bad_protocol_version", "ciphertext_too_large",
    "frame_truncated", "frame_trailing_bytes"]

/-- The texts overlap, but the substring search tells them apart. -/
theorem parseErrorToCode_exceptionText :
    ∀ code ∈ defectCodes, parseErrorToCode (exceptionText code) = code := by
  decide +kernel

variable {maxCtLen : UInt32} {b : Bytes} {code : String}

theorem firstDefect_mem (h : firstDefect maxCtLen b = some code) : code ∈ defectCodes := by
  unfold firstDefect at h
  split_ifs at h <;> obtain rfl := Option.some.inj h <;> simp [defectCodes]

/-! ## What the parser throws -/

theorem toNat_ctLenAt (b : Bytes) : (ctLenAt b).toNat = ctLenField b := by
  have hbound : ctLenField b < 2 ^ 32 := by
    have hdecode := LittleEndian.decode_lt ((b.drop 57).take 4)
    have hlen : ((b.drop 57).take 4).length ≤ 4 := by simp
    calc ctLenField b < 256 ^ ((b.drop 57).take 4).length := hdecode
      _ ≤ 256 ^ 4 := Nat.pow_le_pow_right (by omega) hlen
  exact UInt32.toNat_ofNat_of_lt' hbound

theorem slice_one_ne_iff (b : Bytes) (i : ℕ) (v : UInt8) : slice b i 1 ≠ [v] ↔ b[i]? ≠ some v := by
  rw [slice, List.take_one, List.head?_drop, Ne, Ne, not_iff_not]
  cases b[i]? <;> simp

/-- The parser throws for the first defect and otherwise returns the frame. -/
theorem parseFrame_eq_firstDefect (maxCtLen : UInt32) (b : Bytes) :
    Protocol.parseFrame b maxCtLen =
      match firstDefect maxCtLen b with
      | some code => .error (.error (exceptionText code))
      | none => .ok (frameAt b) := by
  have hmagic : slice b 0 4 ≠ kMagic ↔ b.take 4 ≠ [0x41, 0x53, 0x30, 0x31] := Iff.rfl
  have hversion : slice b 4 1 ≠ [kVersion] ↔ b[4]? ≠ some 1 := slice_one_ne_iff b 4 1
  rw [parse_eq]
  simp only [hmagic, hversion, UInt32.lt_iff_toNat_lt, toNat_ctLenAt]
  unfold firstDefect
  split_ifs <;> rfl

/-! ## What the handler reports -/

/-- The handler reports the first defect of the input, or returns the frame. The fallback code
is never used, and the parser stays inside its input, so nothing else can escape. -/
theorem parse_errors_exact (fh : FrameHandler) (b : Bytes) :
    (fh.parseFrame b =
      match firstDefect fh.config.maxCtLen b with
      | some code => .error (makeError code .empty)
      | none => .ok (frameAt b)) ∧
    (∀ r, fh.parseFrame b = .error r → r.reason ≠ "parse_error") ∧
    Protocol.parseFrame b fh.config.maxCtLen ≠ .error .outOfBounds := by
  have hparse := parseFrame_eq_firstDefect fh.config.maxCtLen b
  unfold FrameHandler.parseFrame
  rw [hparse]
  cases hdefect : firstDefect fh.config.maxCtLen b with
  | none => simp
  | some code =>
    have hmem := firstDefect_mem hdefect
    have hcode := parseErrorToCode_exceptionText code hmem
    refine ⟨by simp [hcode], fun r hr => ?_, by simp⟩
    obtain rfl : makeError code .empty = r := by simpa [hcode] using hr
    intro hfallback
    obtain rfl : code = "parse_error" := hfallback
    exact absurd hmem (by decide)

end AccessSecurity.Core
