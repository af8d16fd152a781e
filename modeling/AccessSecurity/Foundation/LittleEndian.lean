import Mathlib.Data.Nat.Bitwise
import Mathlib.Tactic.Ring
import Mathlib.Tactic.NormNum

/-!
# Little-endian byte strings

`encode w n` is the `w` least significant bytes of `n`, least significant byte
first; `decode` is the number a byte string denotes. A fixed-width codec written
with shifts and masks is verified by showing that it computes these two functions:
the round trips and the injectivity of the encoding then come from this file.
-/

namespace AccessSecurity.Foundation.LittleEndian

/-- The `w` low bytes of `n`, least significant first. -/
def encode : Nat → Nat → List UInt8
  | 0, _ => []
  | w + 1, n => UInt8.ofNat n :: encode w (n / 256)

/-- The number whose little-endian bytes are given. -/
def decode : List UInt8 → Nat
  | [] => 0
  | b :: bs => b.toNat + 256 * decode bs

@[simp] theorem encode_zero (n : Nat) : encode 0 n = [] := rfl

@[simp] theorem encode_succ (w n : Nat) :
    encode (w + 1) n = UInt8.ofNat n :: encode w (n / 256) := rfl

@[simp] theorem decode_nil : decode [] = 0 := rfl

@[simp] theorem decode_cons (b : UInt8) (bs : List UInt8) :
    decode (b :: bs) = b.toNat + 256 * decode bs := rfl

@[simp] theorem length_encode (w n : Nat) : (encode w n).length = w := by
  induction w generalizing n with
  | zero => rfl
  | succ w ih => simp [ih]

theorem decode_encode (w n : Nat) (hn : n < 256 ^ w) : decode (encode w n) = n := by
  induction w generalizing n with
  | zero => simp at hn; simp [hn]
  | succ w ih =>
    have hq : n / 256 < 256 ^ w := by
      rw [pow_succ] at hn
      exact Nat.div_lt_of_lt_mul (by omega)
    rw [encode_succ, decode_cons, ih _ hq, UInt8.toNat_ofNat']
    omega

theorem encode_decode (bs : List UInt8) : encode bs.length (decode bs) = bs := by
  induction bs with
  | nil => rfl
  | cons b bs ih =>
    have hb : b.toNat < 256 := b.toNat_lt
    have hlow : UInt8.ofNat (b.toNat + 256 * decode bs) = b := by
      apply UInt8.toNat_inj.mp
      rw [UInt8.toNat_ofNat']
      omega
    have hhigh : (b.toNat + 256 * decode bs) / 256 = decode bs := by omega
    rw [List.length_cons, decode_cons, encode_succ, hlow, hhigh, ih]

theorem decode_lt (bs : List UInt8) : decode bs < 256 ^ bs.length := by
  induction bs with
  | nil => simp
  | cons b bs ih =>
    have hb : b.toNat < 256 := b.toNat_lt
    rw [decode_cons, List.length_cons, pow_succ]
    omega

theorem encode_inj {w n m : Nat} (hn : n < 256 ^ w) (hm : m < 256 ^ w)
    (h : encode w n = encode w m) : n = m := by
  rw [← decode_encode w n hn, h, decode_encode w m hm]

theorem decode_append (as bs : List UInt8) :
    decode (as ++ bs) = decode as + 256 ^ as.length * decode bs := by
  induction as with
  | nil => simp
  | cons a as ih =>
    rw [List.cons_append, decode_cons, decode_cons, ih, List.length_cons, pow_succ]
    ring

/-- One step of a decoder that ORs the next byte above the bytes read so far. -/
theorem decode_snoc_or (bs : List UInt8) (b : UInt8) :
    decode bs ||| b.toNat <<< (8 * bs.length) = decode (bs ++ [b]) := by
  have hlt : decode bs < 2 ^ (8 * bs.length) := by
    have := decode_lt bs
    rwa [show (256 : Nat) = 2 ^ 8 by norm_num, ← pow_mul] at this
  rw [Nat.or_comm, Nat.shiftLeft_eq, Nat.mul_comm, ← Nat.two_pow_add_eq_or_of_lt hlt,
    decode_append, pow_mul]
  simp
  ring

theorem encode_eq_map (w n : Nat) :
    encode w n = (List.range w).map fun i => UInt8.ofNat (n / 256 ^ i) := by
  induction w generalizing n with
  | zero => rfl
  | succ w ih =>
    rw [encode_succ, ih, List.range_succ_eq_map, List.map_cons, List.map_map]
    congr 1
    · simp
    · refine List.map_congr_left fun i _ => ?_
      rw [Function.comp_apply, Nat.div_div_eq_div_mul, Nat.succ_eq_add_one, pow_succ']

/-! ## Machine words -/

/-- The four bytes of a word, cut out by shifts and masks. -/
def ofUInt32 (v : UInt32) : List UInt8 :=
  [(v &&& 0xff).toUInt8, ((v >>> 8) &&& 0xff).toUInt8, ((v >>> 16) &&& 0xff).toUInt8,
    ((v >>> 24) &&& 0xff).toUInt8]

/-- The eight bytes of a word, cut out by shifts and masks. -/
def ofUInt64 (v : UInt64) : List UInt8 :=
  (List.range 8).map fun i => ((v >>> UInt64.ofNat (8 * i)) &&& 0xff).toUInt8

/-- The word whose bytes are the first four of `p`; `none` when there are fewer. -/
def toUInt32 (p : List UInt8) : Option UInt32 := do
  let b0 ← p[0]?
  let b1 ← p[1]?
  let b2 ← p[2]?
  let b3 ← p[3]?
  return b0.toUInt32 ||| (b1.toUInt32 <<< 8) ||| (b2.toUInt32 <<< 16) ||| (b3.toUInt32 <<< 24)

/-- The word whose bytes are the first eight of `p`; `none` when there are fewer. -/
def toUInt64 (p : List UInt8) : Option UInt64 :=
  (List.range 8).foldlM (fun v i => do
    let b ← p[i]?
    return v ||| (b.toUInt64 <<< UInt64.ofNat (8 * i))) 0

private theorem low_byte (n : Nat) : n &&& 255 = n % 256 := Nat.and_two_pow_sub_one_eq_mod n 8

theorem ofUInt32_eq (v : UInt32) : ofUInt32 v = encode 4 v.toNat := by
  simp only [ofUInt32, encode_succ, encode_zero, Nat.div_div_eq_div_mul]
  congr 1
  · apply UInt8.toNat_inj.mp
    simp [low_byte]
  repeat
    congr 1
    · apply UInt8.toNat_inj.mp
      simp [low_byte, Nat.shiftRight_eq_div_pow]

theorem ofUInt64_eq (v : UInt64) : ofUInt64 v = encode 8 v.toNat := by
  rw [ofUInt64, encode_eq_map]
  refine List.map_congr_left fun i hi => ?_
  have hmod : 8 * i % 64 = 8 * i := by
    have := List.mem_range.mp hi
    omega
  apply UInt8.toNat_inj.mp
  simp [low_byte, Nat.shiftRight_eq_div_pow, hmod, pow_mul]

theorem toUInt32_eq {p : List UInt8} (h : 4 ≤ p.length) :
    toUInt32 p = some (UInt32.ofNat (decode (p.take 4))) := by
  match p, h with
  | b0 :: b1 :: b2 :: b3 :: p, _ =>
    have hor : decode [b0, b1, b2, b3] =
        b0.toNat ||| b1.toNat <<< 8 ||| b2.toNat <<< 16 ||| b3.toNat <<< 24 := by
      have h1 := decode_snoc_or [b0] b1
      have h2 := decode_snoc_or [b0, b1] b2
      have h3 := decode_snoc_or [b0, b1, b2] b3
      simp only [List.cons_append, List.nil_append, List.length_cons, List.length_nil] at h1 h2 h3
      rw [← h3, ← h2, ← h1]
      simp
    rw [List.take_succ_cons, List.take_succ_cons, List.take_succ_cons, List.take_succ_cons,
      List.take_zero, hor]
    simp [toUInt32]

/-- The loop of `toUInt64` after `k` bytes. -/
private theorem toUInt64_loop (p : List UInt8) (k : Nat) (hk : k ≤ 8) (h : k ≤ p.length) :
    (List.range k).foldlM (fun (v : UInt64) i => do
      let b ← p[i]?
      return v ||| (b.toUInt64 <<< UInt64.ofNat (8 * i))) 0 =
    some (UInt64.ofNat (decode (p.take k))) := by
  induction k with
  | zero => rfl
  | succ k ih =>
    have hp : k < p.length := h
    have hlen : (p.take k).length = k := by simp; omega
    have hor := decode_snoc_or (p.take k) p[k]
    rw [hlen, List.take_append_getElem hp] at hor
    rw [List.range_succ, List.foldlM_append, ih (by omega) (by omega), ← hor]
    simp [List.getElem?_eq_getElem hp, UInt64.ofNat_shiftLeft _ (8 * k) (by omega)]

theorem toUInt64_eq {p : List UInt8} (h : 8 ≤ p.length) :
    toUInt64 p = some (UInt64.ofNat (decode (p.take 8))) :=
  toUInt64_loop p 8 le_rfl h

@[simp] theorem length_ofUInt32 (v : UInt32) : (ofUInt32 v).length = 4 := rfl

@[simp] theorem length_ofUInt64 (v : UInt64) : (ofUInt64 v).length = 8 := rfl

theorem ofUInt32_inj {v w : UInt32} (h : ofUInt32 v = ofUInt32 w) : v = w := by
  rw [ofUInt32_eq, ofUInt32_eq] at h
  exact UInt32.toNat_inj.mp (encode_inj v.toNat_lt w.toNat_lt h)

theorem ofUInt64_inj {v w : UInt64} (h : ofUInt64 v = ofUInt64 w) : v = w := by
  rw [ofUInt64_eq, ofUInt64_eq] at h
  exact UInt64.toNat_inj.mp (encode_inj v.toNat_lt w.toNat_lt h)

@[simp] theorem toUInt32_ofUInt32 (v : UInt32) (p : List UInt8) :
    toUInt32 (ofUInt32 v ++ p) = some v := by
  rw [toUInt32_eq (by simp), List.take_left' (length_ofUInt32 v), ofUInt32_eq,
    decode_encode 4 _ v.toNat_lt, UInt32.ofNat_toNat]

@[simp] theorem toUInt64_ofUInt64 (v : UInt64) (p : List UInt8) :
    toUInt64 (ofUInt64 v ++ p) = some v := by
  rw [toUInt64_eq (by simp), List.take_left' (length_ofUInt64 v), ofUInt64_eq,
    decode_encode 8 _ v.toNat_lt, UInt64.ofNat_toNat]

/-- Reading a word loses nothing: its bytes are the ones that were read. -/
theorem ofUInt32_of_toUInt32 {p : List UInt8} {v : UInt32} (hp : 4 ≤ p.length)
    (h : toUInt32 p = some v) : ofUInt32 v = p.take 4 := by
  have hlen : (p.take 4).length = 4 := by simp; omega
  have hlt : decode (p.take 4) < 2 ^ 32 := by
    have := decode_lt (p.take 4)
    rwa [hlen] at this
  rw [toUInt32_eq hp, Option.some.injEq] at h
  rw [← h, ofUInt32_eq, UInt32.toNat_ofNat_of_lt' hlt]
  simpa [hlen] using encode_decode (p.take 4)

theorem ofUInt64_of_toUInt64 {p : List UInt8} {v : UInt64} (hp : 8 ≤ p.length)
    (h : toUInt64 p = some v) : ofUInt64 v = p.take 8 := by
  have hlen : (p.take 8).length = 8 := by simp; omega
  have hlt : decode (p.take 8) < 2 ^ 64 := by
    have := decode_lt (p.take 8)
    rwa [hlen] at this
  rw [toUInt64_eq hp, Option.some.injEq] at h
  rw [← h, ofUInt64_eq, UInt64.toNat_ofNat_of_lt' hlt]
  simpa [hlen] using encode_decode (p.take 8)

end AccessSecurity.Foundation.LittleEndian
