import Mathlib.Algebra.Ring.Nat

/-!
# Decimal numbers

The value of a string of decimal digits, and a scanner that reads the digits from the left
and gives up when the value so far is out of its range. A value only grows with further
digits, so the scanner gives up exactly when the whole value is out of range (`scan_eq`).
What is printed for a number is read back as the number (`value_print`).
-/

namespace AccessSecurity.Foundation.Decimal

def digit (c : UInt8) : Nat := c.toNat - 48

/-- The value of the digits after what has been read so far. -/
def extend (v : Nat) (digits : List UInt8) : Nat := digits.foldl (fun v c => 10 * v + digit c) v

def value (digits : List UInt8) : Nat := extend 0 digits

def scan (max : Nat) : Nat → List UInt8 → Option Nat
  | v, [] => some v
  | v, c :: cs => if max < 10 * v + digit c then none else scan max (10 * v + digit c) cs

theorem le_extend (v : Nat) (digits : List UInt8) : v ≤ extend v digits := by
  induction digits generalizing v with
  | nil => exact le_rfl
  | cons c cs ih =>
    have hstep : v ≤ 10 * v + digit c := by omega
    exact Nat.le_trans hstep (ih _)

theorem scan_eq {max v : Nat} (h : v ≤ max) (digits : List UInt8) :
    scan max v digits = if extend v digits ≤ max then some (extend v digits) else none := by
  induction digits generalizing v with
  | nil => simp [scan, extend, h]
  | cons c cs ih =>
    have hextend : extend v (c :: cs) = extend (10 * v + digit c) cs := rfl
    rw [scan, hextend]
    by_cases hmax : max < 10 * v + digit c
    · have hle := le_extend (10 * v + digit c) cs
      rw [if_pos hmax, if_neg (by omega)]
    · rw [if_neg hmax]
      exact ih (by omega)

/-! ## Printing -/

/-- `fuel` bounds the number of digits. -/
def printFrom : (fuel : Nat) → Nat → List UInt8
  | 0, _ => []
  | fuel + 1, n =>
    (if n < 10 then [] else printFrom fuel (n / 10)) ++ [UInt8.ofNat (48 + n % 10)]

/-- The digits of a number, without leading zeros. -/
def print (n : Nat) : List UInt8 := printFrom (n + 1) n

theorem toNat_printed {d : Nat} (h : d < 10) : (UInt8.ofNat (48 + d)).toNat = 48 + d := by
  rw [UInt8.toNat_ofNat']
  omega

theorem digit_ofNat {d : Nat} (h : d < 10) : digit (UInt8.ofNat (48 + d)) = d := by
  rw [digit, toNat_printed h]
  omega

theorem value_snoc (digits : List UInt8) (c : UInt8) :
    value (digits ++ [c]) = 10 * value digits + digit c := by
  simp [value, extend]

theorem value_printFrom {fuel n : Nat} (h : n < fuel) : value (printFrom fuel n) = n := by
  induction fuel generalizing n with
  | zero => omega
  | succ fuel ih =>
    have hlast : digit (UInt8.ofNat (48 + n % 10)) = n % 10 := digit_ofNat (by omega)
    rw [printFrom, value_snoc, hlast]
    split_ifs with hsmall
    · have hnil : value [] = 0 := rfl
      rw [hnil]
      omega
    · rw [ih (by omega)]
      omega

@[simp] theorem value_print (n : Nat) : value (print n) = n := value_printFrom (by omega)

theorem print_inj {m n : Nat} (h : print m = print n) : m = n := by
  rw [← value_print m, h, value_print]

theorem isDigit_printFrom {fuel n : Nat} : ∀ c ∈ printFrom fuel n, 48 ≤ c ∧ c ≤ 57 := by
  induction fuel generalizing n with
  | zero => nofun
  | succ fuel ih =>
    intro c hc
    rw [printFrom] at hc
    rcases List.mem_append.mp hc with hc | hc
    · split_ifs at hc
      · cases hc
      · exact ih c hc
    · obtain rfl := List.mem_singleton.mp hc
      have hbyte := toNat_printed (show n % 10 < 10 by omega)
      rw [UInt8.le_iff_toNat_le, UInt8.le_iff_toNat_le, hbyte]
      simp only [UInt8.reduceToNat]
      omega

theorem isDigit_print (n : Nat) : ∀ c ∈ print n, 48 ≤ c ∧ c ≤ 57 := isDigit_printFrom

end AccessSecurity.Foundation.Decimal
