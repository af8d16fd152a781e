import Mathlib.Data.Finset.Sort
import Mathlib.Data.List.Sort

/-!
# Listings

A listing shows the things that have a property, each once, in ascending order of a key; there is
only one (`Lists.unique`). Listings come from sorting, and stay listings when they are filtered.
The pages of a list make up the list, and when the list grows at its other end between two pages,
nothing of it is skipped (`skips_nothing`).
-/

namespace AccessSecurity.Foundation

section

variable {α β κ : Type*} [LinearOrder κ]

/-- The rows are the things with the property, each once, in ascending order of the key. -/
structure Lists (key : α → κ) (P : α → Prop) (rows : List α) : Prop where
  ascending : rows.Pairwise fun a b => key a < key b
  mem_iff : ∀ a, a ∈ rows ↔ P a

variable {key : α → κ} {P Q : α → Prop} {rows rows' : List α}

theorem Lists.nodup (h : Lists key P rows) : rows.Nodup :=
  h.ascending.imp fun hlt heq => absurd (congrArg key heq) hlt.ne

theorem Lists.congr (h : Lists key P rows) (hPQ : ∀ a, P a ↔ Q a) : Lists key Q rows :=
  ⟨h.ascending, fun a => (h.mem_iff a).trans (hPQ a)⟩

theorem Lists.unique (h : Lists key P rows) (h' : Lists key P rows') : rows = rows' := by
  have hperm : rows.Perm rows' := (List.perm_ext_iff_of_nodup h.nodup h'.nodup).mpr fun a =>
    (h.mem_iff a).trans (h'.mem_iff a).symm
  refine hperm.eq_of_pairwise (fun a b _ _ hlt hlt' => ?_) h.ascending h'.ascending
  exact absurd (hlt.trans hlt') (lt_irrefl _)

theorem Lists.filter (h : Lists key P rows) (p : α → Bool) :
    Lists key (fun a => P a ∧ p a = true) (rows.filter p) := by
  refine ⟨h.ascending.filter p, fun a => ?_⟩
  rw [List.mem_filter, h.mem_iff]

theorem Lists.map_of_lt {κ' : Type*} [LinearOrder κ'] {key' : β → κ'} {f : α → β}
    (h : Lists key P rows)
    (hkey : ∀ a ∈ rows, ∀ b ∈ rows, key a < key b → key' (f a) < key' (f b)) :
    Lists key' (fun b => ∃ a, P a ∧ f a = b) (rows.map f) := by
  constructor
  · rw [List.pairwise_map]
    exact h.ascending.imp_of_mem fun ha hb hlt => hkey _ ha _ hb hlt
  · intro b
    simp only [List.mem_map, h.mem_iff]

/-- The key of a row can be read off what is shown for it. -/
theorem Lists.map {key' : β → κ} {f : α → β} (h : Lists key P rows)
    (hkey : ∀ a ∈ rows, key' (f a) = key a) :
    Lists key' (fun b => ∃ a, P a ∧ f a = b) (rows.map f) :=
  h.map_of_lt fun a ha b hb hlt => by rwa [hkey a ha, hkey b hb]

/-! ## Sorting -/

/-- The elements in ascending order of the key. -/
def sortList (key : α → κ) (l : List α) : List α := l.mergeSort fun a b => decide (key a ≤ key b)

theorem lists_sortList {l : List α} (hkeys : (l.map key).Nodup) :
    Lists key (· ∈ l) (sortList key l) := by
  have hsorted : (sortList key l).Pairwise fun a b => key a ≤ key b := by
    have hpairwise : (sortList key l).Pairwise fun a b => decide (key a ≤ key b) = true :=
      List.pairwise_mergeSort (by simpa using fun a b c => le_trans)
        (by simpa using fun a b => le_total _ _) l
    simpa using hpairwise
  have hperm : (sortList key l).Perm l := List.mergeSort_perm l _
  have hdistinct : (sortList key l).Pairwise fun a b => key a ≠ key b :=
    List.pairwise_map.mp ((hperm.map key).nodup_iff.mpr hkeys)
  refine ⟨?_, fun a => hperm.mem_iff⟩
  exact (hsorted.and hdistinct).imp fun h => lt_of_le_of_ne h.1 h.2

/-- The elements of a finite set in ascending order of the key. -/
def sortSet (key : α ↪ κ) (s : Finset α) : List α :=
  haveI : IsTrans α fun a b => key a ≤ key b := ⟨fun _ _ _ => le_trans⟩
  haveI : Std.Antisymm fun a b => key a ≤ key b :=
    ⟨fun _ _ h h' => key.injective (le_antisymm h h')⟩
  haveI : Std.Total fun a b => key a ≤ key b := ⟨fun a b => le_total (key a) (key b)⟩
  s.sort fun a b => key a ≤ key b

theorem lists_sortSet (key : α ↪ κ) (s : Finset α) : Lists key (· ∈ s) (sortSet key s) := by
  have : IsTrans α fun a b => key a ≤ key b := ⟨fun _ _ _ => le_trans⟩
  have : Std.Antisymm fun a b => key a ≤ key b :=
    ⟨fun _ _ h h' => key.injective (le_antisymm h h')⟩
  have : Std.Total fun a b => key a ≤ key b := ⟨fun a b => le_total (key a) (key b)⟩
  have hsorted : (sortSet key s).Pairwise fun a b => key a ≤ key b := s.pairwise_sort _
  have hnodup : (sortSet key s).Nodup := s.sort_nodup _
  refine ⟨?_, fun a => s.mem_sort _⟩
  exact (hsorted.and hnodup).imp fun h => lt_of_le_of_ne h.1 (key.injective.ne h.2)

end

/-! ## Pages -/

section

variable {α : Type*}

/-- `n` rows from the place `m` on. -/
def pageOf (n m : Nat) (rows : List α) : List α := (rows.drop m).take n

/-- The first `k` pages, one after the other, are the first rows. -/
theorem flatten_pages (n k : Nat) (rows : List α) :
    ((List.range k).map fun i => pageOf n (i * n) rows).flatten = rows.take (k * n) := by
  induction k with
  | zero => simp
  | succ k ih =>
    rw [List.range_succ, List.map_append, List.flatten_append, ih]
    simp only [List.map_cons, List.map_nil, List.flatten_cons, List.flatten_nil, List.append_nil,
      pageOf]
    rw [Nat.succ_mul, List.take_add]

theorem mem_pageOf_reverse {n m i : Nat} {rows : List α} {a : α} (h : rows[i]? = some a)
    (hlo : m + i < rows.length) (hhi : rows.length ≤ m + n + i) :
    a ∈ pageOf n m rows.reverse := by
  refine List.mem_iff_getElem?.mpr ⟨rows.length - 1 - i - m, ?_⟩
  rw [pageOf, List.getElem?_take, if_pos (by omega), List.getElem?_drop,
    List.getElem?_reverse (by omega)]
  rw [show rows.length - 1 - (m + (rows.length - 1 - i - m)) = i by omega, h]

/-- A list is read in pages from its end while it grows there. Once a page is empty, everything
that was in the list at the beginning has been on a page. -/
theorem skips_nothing {n k : Nat} {logs : Nat → List α} (hgrow : ∀ j, logs j <+: logs (j + 1))
    (hempty : pageOf n (k * n) (logs k).reverse = []) (hn : 0 < n) {a : α} (ha : a ∈ logs 0) :
    ∃ j < k, a ∈ pageOf n (j * n) (logs j).reverse := by
  obtain ⟨i, hi, rfl⟩ := List.getElem_of_mem ha
  have hbegins : ∀ j, logs 0 <+: logs j := by
    intro j
    induction j with
    | zero => exact List.prefix_rfl
    | succ j ih => exact ih.trans (hgrow j)
  have hkept : ∀ j, (logs j)[i]? = some (logs 0)[i] := fun j =>
    List.prefix_iff_getElem?.mp (hbegins j) i hi
  have hlength : ∀ j, i < (logs j).length := fun j => hi.trans_le (hbegins j).length_le
  have hend : (logs k).length ≤ k * n := by
    have hzero := congrArg List.length hempty
    simp only [pageOf, List.length_take, List.length_drop, List.length_reverse,
      List.length_nil] at hzero
    omega
  -- the first page that reaches down to the row
  have hexists : ∃ j, (logs j).length ≤ j * n + n + i := ⟨k, by omega⟩
  let j := Nat.find hexists
  have hreaches : (logs j).length ≤ j * n + n + i := Nat.find_spec hexists
  have hbelow : j * n + i < (logs j).length := by
    cases hj : j with
    | zero =>
      have := hlength 0
      omega
    | succ m =>
      have hearlier := Nat.find_min hexists (show m < j by omega)
      have hgrown := (hgrow m).length_le
      rw [Nat.succ_mul]
      omega
  refine ⟨j, ?_, mem_pageOf_reverse (hkept j) hbelow hreaches⟩
  have hle : j ≤ k := Nat.find_min' hexists (by omega)
  refine lt_of_le_of_ne hle fun heq => ?_
  rw [heq] at hbelow
  omega

end

end AccessSecurity.Foundation
