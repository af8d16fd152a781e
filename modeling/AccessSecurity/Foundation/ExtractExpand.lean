import Mathlib.Data.List.Basic
import Mathlib.Data.List.Infix
import Mathlib.Order.Lattice
import Mathlib.Tactic.Ring

/-!
# Extract-and-expand key derivation

RFC 5869 over an arbitrary MAC with values of `k` bytes. The key of a given length is the
beginning of one stream of blocks, so however many blocks are made, enough of them give the
same key (`expand_eq_take`), and a shorter key is a prefix of a longer one (`expand_prefix`).
-/

namespace AccessSecurity.Foundation.ExtractExpand

variable {k : ℕ} (mac : List UInt8 → List UInt8 → Vector UInt8 k)

/-- The pseudorandom key; without a salt, the MAC is keyed with zeros. -/
def extract (salt ikm : List UInt8) : Vector UInt8 k :=
  mac (if salt = [] then List.replicate k 0 else salt) ikm

/-- `T(i)`: it covers the block before it, the info string and its own number. -/
def block (prk info : List UInt8) : ℕ → List UInt8
  | 0 => []
  | i + 1 => (mac prk (block prk info i ++ info ++ [UInt8.ofNat (i + 1)])).toList

/-- `T(1) || T(2) || ... || T(n)` -/
def blocks (prk info : List UInt8) (n : ℕ) : List UInt8 :=
  (List.range n).flatMap fun i => block mac prk info (i + 1)

/-- The first `len` bytes of the blocks that are needed for them. -/
def expand (prk info : List UInt8) (len : ℕ) : List UInt8 :=
  (blocks mac prk info ((len + k - 1) / k)).take len

variable (prk info : List UInt8)

@[simp] theorem length_block_succ (i : ℕ) : (block mac prk info (i + 1)).length = k := by
  simp [block]

theorem blocks_succ (n : ℕ) :
    blocks mac prk info (n + 1) = blocks mac prk info n ++ block mac prk info (n + 1) := by
  simp [blocks, List.range_succ]

@[simp] theorem length_blocks (n : ℕ) : (blocks mac prk info n).length = k * n := by
  induction n with
  | zero => rfl
  | succ n ih =>
    rw [blocks_succ, List.length_append, ih, length_block_succ]
    ring

theorem blocks_prefix {m n : ℕ} (h : m ≤ n) : blocks mac prk info m <+: blocks mac prk info n := by
  induction n, h using Nat.le_induction with
  | base => exact List.prefix_refl _
  | succ n _ ih =>
    rw [blocks_succ]
    exact ih.trans (List.prefix_append _ _)

/-- One more block, of which only the missing bytes are taken. -/
theorem take_blocks_succ (n len : ℕ) : (blocks mac prk info (n + 1)).take len =
    (blocks mac prk info n).take len ++ (block mac prk info (n + 1)).take (len - k * n) := by
  rw [blocks_succ, List.take_append, length_blocks]

variable {len : ℕ}

theorem take_blocks_of_le {m n : ℕ} (h : m ≤ n) (hlen : len ≤ k * m) :
    (blocks mac prk info n).take len = (blocks mac prk info m).take len := by
  obtain ⟨rest, hrest⟩ := blocks_prefix mac prk info h
  rw [← hrest, List.take_append_of_le_length (by simpa using hlen)]

theorem le_mul_blockCount (hk : 0 < k) (len : ℕ) : len ≤ k * ((len + k - 1) / k) := by
  have hdiv := Nat.div_add_mod (len + k - 1) k
  have hmod := Nat.mod_lt (len + k - 1) hk
  omega

/-- Any number of blocks will do that has room for the key. -/
theorem expand_eq_take {n : ℕ} (hk : 0 < k) (h : len ≤ k * n) :
    expand mac prk info len = (blocks mac prk info n).take len := by
  have hcount : (len + k - 1) / k ≤ n := by
    apply Nat.le_of_lt_succ
    rw [Nat.div_lt_iff_lt_mul hk, Nat.succ_mul, Nat.mul_comm]
    omega
  rw [expand, take_blocks_of_le mac prk info hcount (le_mul_blockCount hk len)]

@[simp] theorem length_expand (hk : 0 < k) (len : ℕ) : (expand mac prk info len).length = len := by
  rw [expand, List.length_take, length_blocks]
  exact Nat.min_eq_left (le_mul_blockCount hk len)

/-- A shorter key is the beginning of a longer one. -/
theorem expand_prefix {shorter : ℕ} (hk : 0 < k) (h : shorter ≤ len) :
    expand mac prk info shorter <+: expand mac prk info len := by
  have hroom := le_mul_blockCount hk len
  rw [expand_eq_take mac prk info hk (h.trans hroom), expand]
  exact List.take_prefix_take_left h

end AccessSecurity.Foundation.ExtractExpand
