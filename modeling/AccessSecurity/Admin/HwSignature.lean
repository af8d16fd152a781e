import AccessSecurity.Admin.HwRoute

/-!
# Strictness of hardware signatures

Two hexadecimal decoders of the code base throw at a character that is not a digit; the one
behind `verifyHwSignature` counts it as zero. So a request is accepted exactly when it is
properly signed after each such character has been replaced by the digit zero
(`verifyHwSignature_ok_iff`), and the check is strict exactly when that makes no difference
(`strict_iff`).
-/

namespace AccessSecurity.Admin

open Foundation Crypto

/-! ## Strict decoding -/

def IsHexDigit (c : UInt8) : Prop :=
  (48 ≤ c ∧ c ≤ 57) ∨ (97 ≤ c ∧ c ≤ 102) ∨ (65 ≤ c ∧ c ≤ 70)

instance (c : UInt8) : Decidable (IsHexDigit c) :=
  inferInstanceAs (Decidable (_ ∨ _))

/-- `hexNibble` of `http_utils.cpp` and of `hex_utils.cpp`; `none` where they throw. -/
def strictNibble (c : UInt8) : Option UInt8 :=
  if 48 ≤ c ∧ c ≤ 57 then some (c - 48)
  else if 97 ≤ c ∧ c ≤ 102 then some (10 + (c - 97))
  else if 65 ≤ c ∧ c ≤ 70 then some (10 + (c - 65))
  else none

/-- The bytes that pairs of digits stand for; `none` for a stray character or an odd length. -/
def decodeHex : Bytes → Option Bytes
  | [] => some []
  | [_] => none
  | hi :: lo :: rest => do
    let hi ← strictNibble hi
    let lo ← strictNibble lo
    return (hi <<< 4 ||| lo) :: (← decodeHex rest)

/-- What the signature of a request covers. -/
def signedText (body : Bytes) : Bytes := bytesOf "POST /api/hw/uid\n" ++ body

/-- The secret and the signature are 64 hexadecimal digits each, and the signature is the MAC
of the request under the secret. -/
def SignedBy [Sodium] (signatureHex body hwSecretHex : Bytes) : Prop :=
  hwSecretHex.length = 64 ∧ signatureHex.length = 64 ∧
    ∃ key sig, decodeHex hwSecretHex = some key ∧ decodeHex signatureHex = some sig ∧
      (hmacSha256 key (signedText body)).toList = sig

/-- A character that is no digit is replaced by the digit zero. -/
def zeroDigit (c : UInt8) : UInt8 := if IsHexDigit c then c else 48

def zeroed (text : Bytes) : Bytes := text.map zeroDigit

def AllHex (text : Bytes) : Prop := ∀ c ∈ text, IsHexDigit c

theorem strictNibble_eq (c : UInt8) :
    strictNibble c = if IsHexDigit c then some (hexNibble c) else none := by
  unfold strictNibble hexNibble IsHexDigit
  grind

theorem strictNibble_zeroDigit (c : UInt8) : strictNibble (zeroDigit c) = some (hexNibble c) := by
  by_cases h : IsHexDigit c
  · rw [zeroDigit, if_pos h, strictNibble_eq, if_pos h]
  · have hzero : hexNibble c = 0 := by
      unfold hexNibble
      unfold IsHexDigit at h
      grind
    rw [zeroDigit, if_neg h, hzero]
    rfl

/-- What is left when there is no further pair of characters. -/
theorem nil_or_singleton {text : Bytes} (h : ∀ hi lo rest, text = hi :: lo :: rest → False) :
    text = [] ∨ ∃ c, text = [c] := by
  rcases text with _ | ⟨hi, _ | ⟨lo, rest⟩⟩
  · exact .inl rfl
  · exact .inr ⟨hi, rfl⟩
  · exact (h hi lo rest rfl).elim

theorem decodeHex_zeroed {text : Bytes} (h : text.length % 2 = 0) :
    decodeHex (zeroed text) = some (hexPairs text) := by
  fun_induction hexPairs text with
  | case1 hi lo rest ih =>
    have hrest : rest.length % 2 = 0 := by
      simp only [List.length_cons] at h
      omega
    have ih := ih hrest
    simp only [zeroed, List.map_cons, decodeHex, strictNibble_zeroDigit] at ih ⊢
    rw [ih]
    rfl
  | case2 text hshort =>
    rcases nil_or_singleton hshort with rfl | ⟨c, rfl⟩
    · rfl
    · simp at h

@[simp] theorem length_hexPairs (hex : Bytes) : (hexPairs hex).length = hex.length / 2 := by
  fun_induction hexPairs hex with
  | case1 hi lo rest ih =>
    simp only [List.length_cons, ih]
    omega
  | case2 hex hshort =>
    rcases nil_or_singleton hshort with rfl | ⟨c, rfl⟩
    · rfl
    · simp

theorem isHexDigit_of_strictNibble {c v : UInt8} (h : strictNibble c = some v) : IsHexDigit c := by
  rw [strictNibble_eq] at h
  split_ifs at h with hdigit
  exact hdigit

theorem allHex_of_decodeHex {text bytes : Bytes} (h : decodeHex text = some bytes) :
    AllHex text := by
  fun_induction decodeHex text generalizing bytes with
  | case1 => simp [AllHex]
  | case2 c => cases h
  | case3 hi lo rest ih =>
    simp only [Option.bind_eq_bind, Option.bind_eq_some_iff] at h
    obtain ⟨h', hhi, l', hlo, bytes', hrest, -⟩ := h
    intro c hc
    rcases List.mem_cons.mp hc with rfl | hc
    · exact isHexDigit_of_strictNibble hhi
    · rcases List.mem_cons.mp hc with rfl | hc
      · exact isHexDigit_of_strictNibble hlo
      · exact ih hrest c hc

theorem zeroed_of_allHex {text : Bytes} (h : AllHex text) : zeroed text = text := by
  have hsame : ∀ c ∈ text, zeroDigit c = id c := fun c hc => if_pos (h c hc)
  rw [zeroed, List.map_congr_left hsame, List.map_id]

/-! ## What the check accepts -/

section

variable [Sodium]

omit [Sodium] in
theorem parseHexOfLength_ok_iff {hex bytes : Bytes} {err : String} :
    parseHexOfLength 32 err hex = .ok bytes ↔ hex.length = 64 ∧ bytes = hexPairs hex := by
  have hlen : (hexToBytesLoose hex).length = 32 ↔ hex.length = 64 := by
    unfold hexToBytesLoose
    split_ifs with hodd
    · simp
      omega
    · rw [length_hexPairs]
      omega
  unfold parseHexOfLength
  by_cases h : hex.length = 64
  · have hbytes : hexToBytesLoose hex = hexPairs hex := if_neg (by omega)
    simp [h, hbytes, except_pure_ok]
  · simp [hlen, h]

theorem signedBy_zeroed_iff {signatureHex body hwSecretHex : Bytes} :
    SignedBy (zeroed signatureHex) body (zeroed hwSecretHex) ↔
      hwSecretHex.length = 64 ∧ signatureHex.length = 64 ∧
        (hmacSha256 (hexPairs hwSecretHex) (signedText body)).toList = hexPairs signatureHex := by
  have hlen : ∀ text : Bytes, (zeroed text).length = text.length := fun text => List.length_map _
  unfold SignedBy
  rw [hlen, hlen]
  refine and_congr_right fun hsecret => and_congr_right fun hsignature => ?_
  rw [decodeHex_zeroed (by omega), decodeHex_zeroed (by omega)]
  simp [eq_comm]

/-- The check accepts what is signed once the characters that are no digits are replaced. -/
theorem verifyHwSignature_ok_iff {signatureHex body hwSecretHex : Bytes} :
    verifyHwSignature signatureHex body hwSecretHex = .ok () ↔
      SignedBy (zeroed signatureHex) body (zeroed hwSecretHex) := by
  rw [signedBy_zeroed_iff]
  unfold verifyHwSignature
  split_ifs with hsecret hsignature
  · obtain rfl : hwSecretHex = [] := by simpa using hsecret
    simp
  · obtain rfl : signatureHex = [] := by simpa using hsignature
    simp
  · simp only [except_bind_ok, parseHmacKey, parseSignature, parseHexOfLength_ok_iff]
    constructor
    · rintro ⟨key, ⟨hkey, rfl⟩, sig, ⟨hsig, rfl⟩, hmac⟩
      split_ifs at hmac with hequal
      exact ⟨hkey, hsig, of_decide_eq_true hequal⟩
    · rintro ⟨hkey, hsig, hequal⟩
      refine ⟨_, ⟨hkey, rfl⟩, _, ⟨hsig, rfl⟩, ?_⟩
      have hverify : verifyHmac (signedText body) (hexPairs hwSecretHex)
          (hexPairs signatureHex) = true := decide_eq_true hequal
      exact if_pos hverify

/-- The check is strict exactly when both strings consist of digits, or replacing the other
characters by zero does not give a signed request. -/
theorem strict_iff (signatureHex body hwSecretHex : Bytes) :
    (verifyHwSignature signatureHex body hwSecretHex = .ok () ↔
      SignedBy signatureHex body hwSecretHex) ↔
    (AllHex hwSecretHex ∧ AllHex signatureHex) ∨
      ¬ SignedBy (zeroed signatureHex) body (zeroed hwSecretHex) := by
  rw [verifyHwSignature_ok_iff]
  constructor
  · intro hstrict
    by_cases hsigned : SignedBy (zeroed signatureHex) body (zeroed hwSecretHex)
    · obtain ⟨-, -, key, sig, hkey, hsig, -⟩ := hstrict.mp hsigned
      exact .inl ⟨allHex_of_decodeHex hkey, allHex_of_decodeHex hsig⟩
    · exact .inr hsigned
  · rintro (⟨hsecret, hsignature⟩ | hnot)
    · rw [zeroed_of_allHex hsecret, zeroed_of_allHex hsignature]
    · refine iff_of_false hnot fun hsigned => ?_
      obtain ⟨-, -, key, sig, hkey, hsig, -⟩ := id hsigned
      rw [zeroed_of_allHex (allHex_of_decodeHex hkey),
        zeroed_of_allHex (allHex_of_decodeHex hsig)] at hnot
      exact hnot hsigned

end

def uidBody : Bytes := bytesOf "\x7b\"uid\":\"04AB12\",\"reader_id\":1\x7d"

/-- A secret of 64 letters `g` is the key of zeros, and the request that is signed with that key
is accepted. -/
theorem letters_are_zeros :
    letI : Sodium := .keyed
    verifyHwSignature (CardIdHasher.toHex (zeros 16).toList ++
      CardIdHasher.toHex ((signedText uidBody).take 16)) uidBody
      (List.replicate 64 103) = .ok () ∧
    ¬ SignedBy (CardIdHasher.toHex (zeros 16).toList ++
      CardIdHasher.toHex ((signedText uidBody).take 16)) uidBody (List.replicate 64 103) := by
  let _ : Sodium := .keyed
  constructor
  · rfl
  · rintro ⟨-, -, key, sig, hkey, -⟩
    exact absurd (allHex_of_decodeHex hkey 103 (by decide)) (by decide)

end AccessSecurity.Admin
