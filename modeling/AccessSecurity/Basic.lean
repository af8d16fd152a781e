import Mathlib.Data.List.Basic
import Mathlib.Data.List.OfFn
import Mathlib.Logic.Function.Basic

/-!
# Data shared by all components

Byte strings, fixed-size arrays and exceptions. `std::vector<uint8_t>` and
`std::string` are both `Bytes`: the code never relies on a string being valid
UTF-8 once it is built. Result codes and mode names, which are string literals in
the source, are Lean strings.
-/

namespace AccessSecurity

abbrev Bytes := List UInt8

/-- `std::array<uint8_t, n>`. -/
abbrev ByteArr (n : Nat) := Vector UInt8 n

/-- The bytes of a string literal of the source. -/
def bytesOf (s : String) : Bytes := s.toUTF8.data.toList

theorem bytesOf_inj {s t : String} : bytesOf s = bytesOf t ↔ s = t := by
  constructor
  · intro h
    have hbytes : s.toByteArray = t.toByteArray := ByteArray.ext (Array.toList_inj.mp h)
    exact String.toByteArray_inj.mp hbytes
  · rintro rfl
    rfl

/-- A thrown exception, by its `what()` text. -/
structure Exn where
  what : String
  deriving DecidableEq, Repr

/-- A value-initialised array. -/
def zeros (n : Nat) : ByteArr n := Vector.replicate n 0

/-- `memcpy` of the first `n` bytes of `src` into a value-initialised array. -/
def copyInto (n : Nat) (src : Bytes) : ByteArr n := Vector.ofFn fun i => src.getD i 0

theorem toList_copyInto {n : Nat} {src : Bytes} (h : src.length = n) :
    (copyInto n src).toList = src := by
  apply List.ext_getElem
  · simp [h]
  · intro i hi hj
    simp [copyInto, List.getElem?_eq_getElem hj]

@[simp] theorem copyInto_toList {n : Nat} (a : ByteArr n) : copyInto n a.toList = a :=
  Vector.toList_inj.mp (toList_copyInto (by simp))

end AccessSecurity
