import Mathlib.Logic.Function.Basic
import AccessSecurity.Protocol.ReplayWindow

/-!
# Replay windows by reader

The map from readers to replay windows that the frame handler works on. It is created
empty and only the handler adds windows to it, always of positive size, so the map
carries the representation invariant of its windows. What matters of a map is how it
answers the replay check: creating a window changes no answer, and recording a number
changes answers of its reader only.
-/

namespace AccessSecurity.Core

open Protocol

structure ReplayWindowMap where
  find : UInt32 → Option ReplayWindow
  wf : ∀ {readerId window}, find readerId = some window → window.Wf

namespace ReplayWindowMap

def empty : ReplayWindowMap := ⟨fun _ => none, by simp⟩

/-- The replay check on the window of a reader; a missing window contains nothing. -/
def contains (m : ReplayWindowMap) (readerId : UInt32) (seq : UInt64) : Bool :=
  (m.find readerId).elim false (·.contains seq)

def update (m : ReplayWindowMap) (readerId : UInt32) (window : ReplayWindow) (h : window.Wf) :
    ReplayWindowMap where
  find := Function.update m.find readerId (some window)
  wf := by
    intro r w hw
    by_cases hr : r = readerId
    · subst hr
      obtain rfl : window = w := by simpa using hw
      exact h
    · exact m.wf (by simpa [hr] using hw)

/-- The size of a new window: at least one. -/
def windowSize (replayWindowSize : UInt64) : UInt64 :=
  if replayWindowSize = 0 then 1 else replayWindowSize

theorem windowSize_pos (replayWindowSize : UInt64) :
    0 < (windowSize replayWindowSize).toNat := by
  unfold windowSize
  split_ifs with h
  · decide
  · rw [← UInt64.toNat_inj] at h
    exact Nat.pos_of_ne_zero h

/-- The window that `try_emplace` finds or creates. -/
def windowOf (m : ReplayWindowMap) (size : UInt64) (readerId : UInt32) : ReplayWindow :=
  (m.find readerId).getD (.new (windowSize size))

theorem windowOf_wf (m : ReplayWindowMap) (size : UInt64) (readerId : UInt32) :
    (m.windowOf size readerId).Wf := by
  unfold windowOf
  cases h : m.find readerId with
  | none => exact ReplayWindow.wf_new (windowSize_pos size)
  | some w => exact m.wf h

def getOrCreateWindow (m : ReplayWindowMap) (size : UInt64) (readerId : UInt32) :
    ReplayWindowMap :=
  m.update readerId (m.windowOf size readerId) (m.windowOf_wf size readerId)

/-- `remember` through the pointer that `getOrCreateWindow` returned. -/
def remember (m : ReplayWindowMap) (readerId : UInt32) (seq : UInt64) : ReplayWindowMap :=
  match h : m.find readerId with
  | none => m
  | some window => m.update readerId (window.remember seq) ((m.wf h).remember seq)

@[simp] theorem contains_windowOf (m : ReplayWindowMap) (size : UInt64) (readerId : UInt32)
    (seq : UInt64) : (m.windowOf size readerId).contains seq = m.contains readerId seq := by
  unfold windowOf contains
  cases m.find readerId with
  | none => simp
  | some w => rfl

theorem find_update (m : ReplayWindowMap) (readerId r : UInt32) (window : ReplayWindow)
    (h : window.Wf) :
    (m.update readerId window h).find r = if r = readerId then some window else m.find r := by
  simp [update, Function.update_apply]

@[simp] theorem contains_getOrCreateWindow (m : ReplayWindowMap) (size : UInt64)
    (readerId r : UInt32) (seq : UInt64) :
    (m.getOrCreateWindow size readerId).contains r seq = m.contains r seq := by
  by_cases hr : r = readerId
  · subst hr
    rw [← contains_windowOf m size r seq]
    simp [getOrCreateWindow, contains, find_update]
  · simp [getOrCreateWindow, contains, find_update, hr]

@[simp] theorem windowOf_getOrCreateWindow (m : ReplayWindowMap) (size : UInt64)
    (readerId r : UInt32) :
    (m.getOrCreateWindow size readerId).windowOf size r = m.windowOf size r := by
  by_cases hr : r = readerId
  · simp [getOrCreateWindow, windowOf, find_update, hr]
  · simp [getOrCreateWindow, windowOf, find_update, hr]

/-- Every reader has the same window in both maps, once it is created. -/
def Same (size : UInt64) (m m' : ReplayWindowMap) : Prop :=
  ∀ r, m'.windowOf size r = m.windowOf size r

theorem Same.contains {size : UInt64} {m m' : ReplayWindowMap} (h : Same size m m') (r : UInt32)
    (seq : UInt64) : m'.contains r seq = m.contains r seq := by
  rw [← contains_windowOf m' size, ← contains_windowOf m size, h r]

/-- Remembering a number changes no answer about other readers and about higher numbers. -/
theorem not_contains_remember {m : ReplayWindowMap} {readerId r : UInt32} {seq q : UInt64}
    (h : m.contains r q = false) (hlt : r = readerId → seq < q) :
    (m.remember readerId seq).contains r q = false := by
  unfold remember
  split
  · exact h
  · rename_i window hfind
    by_cases hr : r = readerId
    · have hwindow : window.contains q = false := by
        simpa [contains, hr, hfind] using h
      simpa [contains, find_update, hr] using (m.wf hfind).not_contains_remember hwindow (hlt hr)
    · simpa [contains, find_update, hr] using h

theorem find_getOrCreateWindow (m : ReplayWindowMap) (size : UInt64) (readerId r : UInt32) :
    (m.getOrCreateWindow size readerId).find r =
      if r = readerId then some (m.windowOf size readerId) else m.find r :=
  find_update _ _ _ _ _

theorem find_remember (m : ReplayWindowMap) (readerId r : UInt32) (seq : UInt64) :
    (m.remember readerId seq).find r =
      if r = readerId then (m.find readerId).map (·.remember seq) else m.find r := by
  unfold remember
  split
  · rename_i hnone
    by_cases hr : r = readerId
    · simp [hr, hnone]
    · simp [hr]
  · rename_i window hsome
    rw [find_update, hsome]
    rfl

/-- A contained number stays contained unless the window of its reader drops it. -/
theorem contains_remember {m : ReplayWindowMap} {readerId r : UInt32} {seq q : UInt64}
    (h : m.contains r q = true)
    (hdrop : r = readerId → ∀ window, m.find r = some window → ¬ window.Drops q seq) :
    (m.remember readerId seq).contains r q = true := by
  by_cases hr : r = readerId
  · subst hr
    unfold contains at h ⊢
    cases hfind : m.find r with
    | none => simp [hfind] at h
    | some window =>
      have hold : window.contains q = true := by simpa [hfind] using h
      simpa [find_remember, hfind] using
        ((m.wf hfind).contains_remember_iff hold).mpr (hdrop rfl window hfind)
  · simpa [contains, find_remember, hr] using h

theorem contains_remember_self {m : ReplayWindowMap} {readerId : UInt32}
    (h : (m.find readerId).isSome = true) (seq : UInt64) :
    (m.remember readerId seq).contains readerId seq = true := by
  obtain ⟨window, hfind⟩ := Option.isSome_iff_exists.mp h
  simpa [contains, find_remember, hfind] using (m.wf hfind).contains_remember_self seq

/-- Remembering works on the window that is there; a missing window is not created. -/
theorem windowOf_remember (m : ReplayWindowMap) (size : UInt64) (readerId r : UInt32)
    (seq : UInt64) : (m.remember readerId seq).windowOf size r = m.windowOf size r ∨
      r = readerId ∧ (m.remember readerId seq).windowOf size r =
        (m.windowOf size r).remember seq := by
  by_cases hr : r = readerId
  · subst hr
    cases hfind : m.find r with
    | none => exact .inl (by simp [windowOf, find_remember, hfind])
    | some window => exact .inr ⟨rfl, by simp [windowOf, find_remember, hfind]⟩
  · exact .inl (by simp [windowOf, find_remember, hr])

theorem isSome_of_contains {m : ReplayWindowMap} {r : UInt32} {q : UInt64}
    (h : m.contains r q = true) : (m.find r).isSome = true := by
  unfold contains at h
  cases hfind : m.find r with
  | none => simp [hfind] at h
  | some window => rfl

/-- No operation removes a window. -/
theorem isSome_getOrCreateWindow {m : ReplayWindowMap} {r : UInt32}
    (h : (m.find r).isSome = true) (size : UInt64) (readerId : UInt32) :
    ((m.getOrCreateWindow size readerId).find r).isSome = true := by
  rw [find_getOrCreateWindow]
  split_ifs
  · rfl
  · exact h

theorem isSome_remember {m : ReplayWindowMap} {r : UInt32} (h : (m.find r).isSome = true)
    (readerId : UInt32) (seq : UInt64) : ((m.remember readerId seq).find r).isSome = true := by
  rw [find_remember]
  split_ifs with hr
  · rw [hr] at h
    simpa using h
  · exact h

/-- The map after an accepted frame. -/
def record (m : ReplayWindowMap) (size : UInt64) (readerId : UInt32) (seq : UInt64) :
    ReplayWindowMap :=
  (m.getOrCreateWindow size readerId).remember readerId seq

theorem find_record (m : ReplayWindowMap) (size : UInt64) (readerId r : UInt32) (seq : UInt64) :
    (m.record size readerId seq).find r =
      if r = readerId then some ((m.windowOf size readerId).remember seq) else m.find r := by
  have hfind : (m.getOrCreateWindow size readerId).find readerId =
      some (m.windowOf size readerId) := by simp [getOrCreateWindow, find_update]
  unfold record remember
  split
  · rename_i hnone
    rw [hfind] at hnone
    exact absurd hnone (by simp)
  · rename_i window hsome
    obtain rfl : m.windowOf size readerId = window := by simpa [hfind] using hsome
    by_cases hr : r = readerId
    · simp [find_update, hr]
    · simp [find_update, getOrCreateWindow, hr]

theorem contains_record_self (m : ReplayWindowMap) (size : UInt64) (readerId : UInt32)
    (seq : UInt64) : (m.record size readerId seq).contains readerId seq = true := by
  simp [contains, find_record, (m.windowOf_wf size readerId).contains_remember_self]

/-! ## Processing of one number -/

/-- The windows before and after the processing of a number: it may have been recorded, and
nothing else has changed. -/
structure MayRecord (size : UInt64) (readerId : UInt32) (seq : UInt64)
    (m m' : ReplayWindowMap) : Prop where
  own : m'.windowOf size readerId = m.windowOf size readerId ∨
    m'.windowOf size readerId = (m.windowOf size readerId).remember seq
  other : ∀ r, r ≠ readerId → m'.windowOf size r = m.windowOf size r

section

variable {size : UInt64} {readerId : UInt32} {seq : UInt64} {m m' : ReplayWindowMap}

theorem MayRecord.refl (m : ReplayWindowMap) : MayRecord size readerId seq m m :=
  ⟨.inl rfl, fun _ _ => rfl⟩

theorem MayRecord.create (h : MayRecord size readerId seq m m') :
    MayRecord size readerId seq m (m'.getOrCreateWindow size readerId) := by
  refine ⟨?_, fun r hr => ?_⟩
  · rw [windowOf_getOrCreateWindow]
    exact h.own
  · rw [windowOf_getOrCreateWindow]
    exact h.other r hr

/-- A number that is recorded a second time changes nothing. -/
theorem MayRecord.remember (h : MayRecord size readerId seq m m') :
    MayRecord size readerId seq m (m'.remember readerId seq) := by
  constructor
  · obtain hsame | ⟨-, hrecorded⟩ := m'.windowOf_remember size readerId readerId seq
    · rw [hsame]
      exact h.own
    · rw [hrecorded]
      rcases h.own with hown | hown
      · exact .inr (by rw [hown])
      · refine .inr ?_
        rw [hown, ReplayWindow.remember_of_contains]
        exact (m.windowOf_wf size readerId).contains_remember_self seq
  · intro r hr
    obtain hsame | ⟨rfl, -⟩ := m'.windowOf_remember size readerId r seq
    · rw [hsame]
      exact h.other r hr
    · exact absurd rfl hr

/-- What counts as seen still does, unless it is dropped for the number. -/
theorem MayRecord.contains (h : MayRecord size readerId seq m m') {r : UInt32} {q : UInt64}
    (hseen : m.contains r q = true)
    (hdrop : r = readerId → ¬ (m.windowOf size r).Drops q seq) : m'.contains r q = true := by
  rw [← contains_windowOf m size] at hseen
  rw [← contains_windowOf m' size]
  by_cases hr : r = readerId
  · subst hr
    rcases h.own with hown | hown
    · rwa [hown]
    · rw [hown]
      exact ((m.windowOf_wf size r).contains_remember_iff hseen).mpr (hdrop rfl)
  · rwa [h.other r hr]

end

end ReplayWindowMap

end AccessSecurity.Core
