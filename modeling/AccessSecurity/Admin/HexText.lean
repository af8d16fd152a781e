import AccessSecurity.Admin.HwSignature

/-!
# Hexadecimal text

The encoders and decoders of `http_utils.cpp`, `hex_utils.cpp` and `card_id_hasher.cpp`. Each
encoder writes two small digits for a byte. A text is decoded to some bytes by the strict
decoders exactly when it is what the encoders write for these bytes, up to the case of its
letters and, where the decoder skips them, its blanks (`decodeHex_eq_some_iff`).
-/

namespace AccessSecurity.Admin

open Foundation Crypto

/-- `std::isspace` in the "C" locale. -/
def isSpace (c : UInt8) : Bool := c == 32 || (9 ≤ c && c ≤ 13)

/-- The loop that both strict decoders start with. -/
def stripSpaces (text : Bytes) : Bytes := text.filter fun c => !isSpace c

/-- `hexToBytes` of `http_utils.cpp`. -/
def hexToBytes (hex : Bytes) : Except Exn Bytes :=
  let s := stripSpaces hex
  if s.length % 2 ≠ 0 then throw ⟨"hex odd length"⟩
  else
    match decodeHex s with
    | some out => return out
    | none => throw ⟨"invalid hex char"⟩

/-- `bytesToHex` of `http_utils.cpp`, the same loop as `CardIdHasher::toHex`. -/
def bytesToHex (v : Bytes) : Bytes := CardIdHasher.toHex v

def kMasterKeyHexChars : Nat := 64

/-- `parseHex` of `hex_utils.cpp`, at the size of the master key. -/
def parseHex (s : Bytes) : Except Exn (ByteArr 32) :=
  let hex := stripSpaces s
  if hex.length ≠ kMasterKeyHexChars then
    throw ⟨"hex_utils: expected 64 hex chars, got " ++ toString hex.length⟩
  else
    match decodeHex hex with
    | some out => return copyInto 32 out
    | none => throw ⟨"hex_utils: invalid hex character"⟩

/-- A digit as the encoders write it. -/
def lowerDigit (c : UInt8) : UInt8 := if 65 ≤ c ∧ c ≤ 70 then c + 32 else c

/-! ## One byte -/

theorem hexChar_eq {v : UInt8} (hv : v < 16) :
    CardIdHasher.hexChar v = if v < 10 then 48 + v else 87 + v := by
  have hall : ∀ n < 16, CardIdHasher.hexChar (UInt8.ofNat n) =
      if UInt8.ofNat n < 10 then 48 + UInt8.ofNat n else 87 + UInt8.ofNat n := by decide
  have h := hall v.toNat hv
  rwa [UInt8.ofNat_toNat] at h

theorem lowerDigit_hexChar {v : UInt8} (hv : v < 16) :
    lowerDigit (CardIdHasher.hexChar v) = CardIdHasher.hexChar v := by
  grind [lowerDigit, hexChar_eq hv]

theorem strictNibble_some {c v : UInt8} (h : strictNibble c = some v) :
    v < 16 ∧ lowerDigit c = CardIdHasher.hexChar v := by
  have hv : v < 16 := by grind [strictNibble]
  grind [strictNibble, lowerDigit, hexChar_eq hv]

theorem strictNibble_of_lowerDigit {c v : UInt8} (hv : v < 16)
    (h : lowerDigit c = CardIdHasher.hexChar v) : strictNibble c = some v := by
  grind [strictNibble, lowerDigit, hexChar_eq hv]

theorem toNat_high (b : UInt8) : ((b >>> 4) &&& 0xF).toNat = b.toNat / 16 := by
  have hb := b.toNat_lt
  rw [UInt8.toNat_and, UInt8.toNat_shiftRight, Nat.shiftRight_eq_div_pow]
  change b.toNat / 2 ^ 4 &&& 2 ^ 4 - 1 = _
  rw [Nat.and_two_pow_sub_one_eq_mod]
  omega

theorem toNat_low (b : UInt8) : (b &&& 0xF).toNat = b.toNat % 16 := by
  rw [UInt8.toNat_and]
  exact Nat.and_two_pow_sub_one_eq_mod _ 4

theorem toNat_join {hi lo : UInt8} (hhi : hi < 16) (hlo : lo < 16) :
    (hi <<< 4 ||| lo).toNat = 16 * hi.toNat + lo.toNat := by
  have hh : hi.toNat < 16 := hhi
  have hl : lo.toNat < 2 ^ 4 := hlo
  rw [UInt8.toNat_or, UInt8.toNat_shiftLeft, Nat.shiftLeft_eq]
  change hi.toNat * 2 ^ 4 % 2 ^ 8 ||| lo.toNat = _
  rw [Nat.mod_eq_of_lt (by omega), Nat.mul_comm, ← Nat.two_pow_add_eq_or_of_lt hl]

theorem high_lt (b : UInt8) : (b >>> 4) &&& 0xF < 16 := by
  have hb := b.toNat_lt
  rw [UInt8.lt_iff_toNat_lt, toNat_high]
  change _ < 16
  omega

theorem low_lt (b : UInt8) : b &&& 0xF < 16 := by
  rw [UInt8.lt_iff_toNat_lt, toNat_low]
  change _ < 16
  omega

/-- Two digits make a byte when they are its high and its low one. -/
theorem join_eq_iff {hi lo b : UInt8} (hhi : hi < 16) (hlo : lo < 16) :
    hi <<< 4 ||| lo = b ↔ hi = (b >>> 4) &&& 0xF ∧ lo = b &&& 0xF := by
  have hh : hi.toNat < 16 := hhi
  have hl : lo.toNat < 16 := hlo
  rw [← UInt8.toNat_inj, ← UInt8.toNat_inj, ← UInt8.toNat_inj, toNat_join hhi hlo, toNat_high,
    toNat_low]
  omega

/-- Two characters are read as a byte exactly when they are the digits written for it. -/
theorem pair_iff {hi lo b : UInt8} :
    (∃ h l, strictNibble hi = some h ∧ strictNibble lo = some l ∧ h <<< 4 ||| l = b) ↔
      lowerDigit hi = CardIdHasher.hexChar ((b >>> 4) &&& 0xF) ∧
        lowerDigit lo = CardIdHasher.hexChar (b &&& 0xF) := by
  constructor
  · rintro ⟨h, l, hhi, hlo, hjoin⟩
    obtain ⟨hlt, hdigit⟩ := strictNibble_some hhi
    obtain ⟨llt, ldigit⟩ := strictNibble_some hlo
    obtain ⟨hhigh, hlow⟩ := (join_eq_iff hlt llt).mp hjoin
    rw [← hhigh, ← hlow]
    exact ⟨hdigit, ldigit⟩
  · rintro ⟨hdigit, ldigit⟩
    exact ⟨_, _, strictNibble_of_lowerDigit (high_lt b) hdigit,
      strictNibble_of_lowerDigit (low_lt b) ldigit,
      (join_eq_iff (high_lt b) (low_lt b)).mpr ⟨rfl, rfl⟩⟩

/-! ## Texts -/

@[simp] theorem length_toHex (bytes : Bytes) :
    (CardIdHasher.toHex bytes).length = 2 * bytes.length := by
  induction bytes with
  | nil => rfl
  | cons b bytes ih =>
    have hcons : CardIdHasher.toHex (b :: bytes) = CardIdHasher.hexChar ((b >>> 4) &&& 0xF) ::
        CardIdHasher.hexChar (b &&& 0xF) :: CardIdHasher.toHex bytes := rfl
    rw [hcons, List.length_cons, List.length_cons, ih, List.length_cons]
    omega

/-- The strict decoders read what the encoders write, and nothing else but other letters. -/
theorem decodeHex_eq_some_iff {text bytes : Bytes} :
    decodeHex text = some bytes ↔ text.map lowerDigit = CardIdHasher.toHex bytes := by
  fun_induction decodeHex text generalizing bytes with
  | case1 => cases bytes <;> simp [CardIdHasher.toHex]
  | case2 c =>
    refine iff_of_false (by simp) fun h => ?_
    have hlength := congrArg List.length h
    rw [length_toHex, List.map_singleton, List.length_singleton] at hlength
    omega
  | case3 hi lo rest ih =>
    cases bytes with
    | nil => simp [CardIdHasher.toHex, Option.bind_eq_some_iff]
    | cons b bytes =>
      have hcons : CardIdHasher.toHex (b :: bytes) = CardIdHasher.hexChar ((b >>> 4) &&& 0xF) ::
          CardIdHasher.hexChar (b &&& 0xF) :: CardIdHasher.toHex bytes := rfl
      rw [hcons, List.map_cons, List.map_cons, List.cons.injEq, List.cons.injEq, ← and_assoc,
        ← pair_iff, ← ih]
      simp only [Option.bind_eq_bind, Option.bind_eq_some_iff, Option.pure_def, Option.some.injEq,
        List.cons.injEq]
      constructor
      · rintro ⟨h, hhi, l, hlo, rest', hrest, rfl, rfl⟩
        exact ⟨⟨h, l, hhi, hlo, rfl⟩, hrest⟩
      · rintro ⟨⟨h, l, hhi, hlo, rfl⟩, hrest⟩
        exact ⟨h, hhi, l, hlo, bytes, hrest, rfl, rfl⟩

theorem map_lowerDigit_toHex (bytes : Bytes) :
    (CardIdHasher.toHex bytes).map lowerDigit = CardIdHasher.toHex bytes := by
  rw [CardIdHasher.toHex, List.map_flatMap]
  simp only [List.map_cons, List.map_nil, lowerDigit_hexChar (high_lt _),
    lowerDigit_hexChar (low_lt _)]

@[simp] theorem decodeHex_toHex (bytes : Bytes) :
    decodeHex (CardIdHasher.toHex bytes) = some bytes :=
  decodeHex_eq_some_iff.mpr (map_lowerDigit_toHex bytes)

/-- The loose decoder agrees with the strict ones on what they accept. -/
theorem hexToBytesLoose_of_decodeHex {text bytes : Bytes} (h : decodeHex text = some bytes) :
    hexToBytesLoose text = bytes := by
  have hlength : text.length = 2 * bytes.length := by
    rw [← length_toHex, ← decodeHex_eq_some_iff.mp h, List.length_map]
  have heven : text.length % 2 = 0 := by omega
  have hzeroed := decodeHex_zeroed heven
  rw [zeroed_of_allHex (allHex_of_decodeHex h), h] at hzeroed
  rw [hexToBytesLoose, if_neg (by omega)]
  exact (Option.some.inj hzeroed).symm

/-! ## The decoders -/

theorem hexToBytes_ok_iff {text bytes : Bytes} :
    hexToBytes text = .ok bytes ↔ decodeHex (stripSpaces text) = some bytes := by
  unfold hexToBytes
  dsimp only
  split_ifs with hodd
  · refine iff_of_false nofun fun h => ?_
    have hlength := congrArg List.length (decodeHex_eq_some_iff.mp h)
    rw [length_toHex, List.length_map] at hlength
    omega
  · cases decodeHex (stripSpaces text) with
    | none => simp
    | some out =>
      dsimp only
      rw [except_pure_ok, Option.some.injEq, eq_comm]

theorem parseHex_ok_iff {text : Bytes} {key : ByteArr 32} :
    parseHex text = .ok key ↔ decodeHex (stripSpaces text) = some key.toList := by
  have hlength : ∀ {bytes}, decodeHex (stripSpaces text) = some bytes →
      (stripSpaces text).length = 2 * bytes.length := by
    intro bytes h
    rw [← length_toHex, ← decodeHex_eq_some_iff.mp h, List.length_map]
  unfold parseHex kMasterKeyHexChars
  dsimp only
  split_ifs with hsize
  · refine iff_of_false nofun fun h => hsize ?_
    rw [hlength h, Vector.length_toList]
  · cases hdecode : decodeHex (stripSpaces text) with
    | none => simp
    | some out =>
      have hout : out.length = 32 := by
        have := hlength hdecode
        omega
      simp only [except_pure_ok, Option.some.injEq]
      constructor
      · rintro rfl
        exact (toList_copyInto hout).symm
      · rintro rfl
        exact (copyInto_toList key).symm

/-- A key file with a line break in capital letters. -/
example : hexToBytes (bytesOf "04AB\n12") = .ok [0x04, 0xab, 0x12] := by rfl

end AccessSecurity.Admin
