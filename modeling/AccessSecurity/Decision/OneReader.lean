import AccessSecurity.Decision.Calm

/-!
# One reader and one frame

What a frame does to the detector's state of its reader, as a case distinction: nothing
when there is no detector or the reader is in quarantine, quarantine when the detector
refuses the frame or the handler reports a replay, and otherwise the highest number and the
streak of failures are updated (`getState_readersAfter_of_harmless`).
-/

namespace AccessSecurity.Decision.Engine

open Foundation Protocol Crypto Core

section

variable {en : Engine} {now : ClockSite → UInt64}

/-- The number of the frame is a rollback for a reader in this state. -/
def rolls (en : Engine) (header : Header) (state : ReaderState) : Bool :=
  0 < header.seq && state.rollsBack en.config header.seq

/-- The state of the reader once the verdict of the handler has been reported. -/
def settled (en : Engine) (now : ClockSite → UInt64) (state : ReaderState) (res : HandleResult) :
    ReaderState :=
  if res.allow then (state.reportSuccess res.header.seq).2
  else if res.reason = "replay" then (state.reportReplay res.header.seq (now .reportReplay)).2
  else if res.reason = "mac_verification_failed" ∨ res.reason = "decrypt_failed" then
    (state.reportTagFailure en.config (now .reportTagFailure)).2
  else state

theorem rolls_iff {header : Header} {state : ReaderState} : en.rolls header state = true ↔
    0 < header.seq ∧ state.rollsBack en.config header.seq = true := by
  simp [rolls]

theorem getState_settle (hactive : en.detectorActive = true) (readers : Readers)
    (res : HandleResult) : (en.settle now readers res).getState res.header.readerId =
      en.settled now (readers.getState res.header.readerId) res := by
  unfold settle settled
  rw [if_neg (by simp [hactive])]
  split_ifs <;> simp

theorem getState_afterSeq {readers : Readers} {header : Header}
    (hroll : en.rolls header (readers.getState header.readerId) = false) :
    (en.afterSeq now readers header).getState header.readerId =
      (readers.getState header.readerId).raise header.seq := by
  unfold afterSeq
  unfold rolls at hroll
  by_cases hseq : 0 < header.seq
  · have hrolls : (readers.getState header.readerId).rollsBack en.config header.seq = false := by
      simpa [hseq] using hroll
    simp [hseq, ReaderState.reportSeq, hrolls]
  · have hle : header.seq ≤ (readers.getState header.readerId).maxSeenSeq :=
      UInt64.le_trans (UInt64.not_lt.mp hseq) (UInt64.le_iff_toNat_le.mpr (Nat.zero_le _))
    simp [hseq, ReaderState.raise_of_le hle]

theorem afterSeq_of_ne (readers : Readers) {header : Header} {r : UInt32}
    (hr : r ≠ header.readerId) : en.afterSeq now readers header r = readers r := by
  unfold afterSeq
  split_ifs
  · exact Readers.report_of_ne _ _ hr
  · rfl

theorem settle_of_ne (readers : Readers) {res : HandleResult} {r : UInt32}
    (hr : r ≠ res.header.readerId) : en.settle now readers res r = readers r := by
  unfold settle
  split_ifs
  · rfl
  · exact Readers.report_of_ne _ _ hr
  · exact Readers.report_of_ne _ _ hr
  · exact Readers.report_of_ne _ _ hr
  · rfl

variable [Sodium]

/-- The detector refuses a frame of a reader in this state. -/
def refuses (en : Engine) (header : Header) (state : ReaderState) : Bool :=
  en.detectorActive &&
    (state.quarantine.isSome || en.rolls header state || !en.nonceOk header)

theorem refuses_eq_false (hactive : en.detectorActive = true) {header : Header}
    {state : ReaderState} : en.refuses header state = false ↔
      state.quarantine = none ∧ en.rolls header state = false ∧ en.nonceOk header = true := by
  simp [refuses, hactive, and_assoc]

theorem screen_fst (readers : Readers) (header : Header) :
    (en.screen now readers header).1 = en.refuses header (readers.getState header.readerId) := by
  have hrolls : en.rollsBack readers header = en.rolls header (readers.getState header.readerId) :=
    rfl
  unfold screen refuses
  rw [Readers.isQuarantined_eq, hrolls]
  cases en.detectorActive with
  | false => simp
  | true =>
    cases (readers.getState header.readerId).quarantine.isSome with
    | true => simp
    | false =>
      cases en.rolls header (readers.getState header.readerId) with
      | true => simp
      | false => cases en.nonceOk header <;> simp

/-! ## The other readers -/

theorem screen_of_ne (readers : Readers) {header : Header} {r : UInt32}
    (hr : r ≠ header.readerId) : (en.screen now readers header).2 r = readers r := by
  unfold screen
  split_ifs
  · rfl
  · rfl
  · exact afterSeq_of_ne readers hr
  · exact afterSeq_of_ne readers hr
  · dsimp only
    rw [Readers.report_of_ne _ _ hr, afterSeq_of_ne readers hr]

theorem readersAfter_of_ne (readers : Readers) {res : HandleResult} {r : UInt32}
    (hr : r ≠ res.header.readerId) : en.readersAfter now readers res r = readers r := by
  unfold readersAfter
  split_ifs
  · exact screen_of_ne readers hr
  · exact (settle_of_ne _ hr).trans (screen_of_ne readers hr)

theorem getState_readersAfter_of_ne (readers : Readers) {res : HandleResult} {r : UInt32}
    (hr : r ≠ res.header.readerId) :
    (en.readersAfter now readers res).getState r = readers.getState r := by
  unfold Readers.getState
  rw [readersAfter_of_ne readers hr]

/-! ## The reader of the frame -/

variable {readers : Readers} {res : HandleResult}

/-- Without a detector, and for a reader in quarantine, nothing changes. -/
theorem getState_readersAfter_of_ignored
    (h : en.detectorActive = false ∨ (readers.getState res.header.readerId).quarantine.isSome) :
    (en.readersAfter now readers res).getState res.header.readerId =
      readers.getState res.header.readerId := by
  unfold readersAfter screen settle
  cases hactive : en.detectorActive with
  | false => simp
  | true =>
    have hquar := h.resolve_left (by simp [hactive])
    simp [Readers.isQuarantined_eq, hquar]

/-- The state of the reader after a frame whose number is a rollback. -/
theorem getState_readersAfter_of_rolls (hactive : en.detectorActive = true)
    (hquar : (readers.getState res.header.readerId).quarantine = none)
    (hroll : en.rolls res.header (readers.getState res.header.readerId) = true) :
    (en.readersAfter now readers res).getState res.header.readerId =
      ((readers.getState res.header.readerId).reportSeq en.config res.header.seq
        (now .reportSeq)).2 := by
  have hrefuses : (en.screen now readers res.header).1 = true := by
    rw [screen_fst]
    simp [refuses, hactive, hroll]
  have hrolls : en.rollsBack readers res.header = true := hroll
  have hseq : 0 < res.header.seq := (rolls_iff.mp hroll).1
  rw [readersAfter, if_pos hrefuses, screen, if_neg (by simp [hactive]),
    Readers.isQuarantined_eq, if_neg (by simp [hquar]), if_pos hrolls, afterSeq, if_pos hseq,
    Readers.getState_report_self]

/-- The state of the reader after a frame with a wrong nonce. -/
theorem getState_readersAfter_of_mismatch (hactive : en.detectorActive = true)
    (hquar : (readers.getState res.header.readerId).quarantine = none)
    (hroll : en.rolls res.header (readers.getState res.header.readerId) = false)
    (hnonce : en.nonceOk res.header = false) :
    (en.readersAfter now readers res).getState res.header.readerId =
      (((readers.getState res.header.readerId).raise res.header.seq).reportNonceMismatch
        (now .reportNonceMismatch)).2 := by
  have hrefuses : (en.screen now readers res.header).1 = true := by
    rw [screen_fst]
    simp [refuses, hactive, hnonce]
  have hrolls : en.rollsBack readers res.header = false := hroll
  rw [readersAfter, if_pos hrefuses, screen, if_neg (by simp [hactive]),
    Readers.isQuarantined_eq, if_neg (by simp [hquar]), if_neg (by simp [hrolls]),
    if_neg (by simp [hnonce]), Readers.getState_report_self, getState_afterSeq hroll]

theorem isSome_quarantine_of_refuses
    (h : en.refuses res.header (readers.getState res.header.readerId) = true) :
    ((en.readersAfter now readers res).getState res.header.readerId).quarantine.isSome = true := by
  have hactive : en.detectorActive = true := by
    by_contra hinactive
    simp [refuses, hinactive] at h
  cases hquar : (readers.getState res.header.readerId).quarantine with
  | some info =>
    rw [getState_readersAfter_of_ignored (.inr (by simp [hquar])), hquar]
    rfl
  | none =>
    cases hroll : en.rolls res.header (readers.getState res.header.readerId) with
    | true =>
      rw [getState_readersAfter_of_rolls hactive hquar hroll, ReaderState.reportSeq,
        if_pos (rolls_iff.mp hroll).2]
      rfl
    | false =>
      have hnonce : en.nonceOk res.header = false := by
        simpa [refuses, hactive, hquar, hroll] using h
      rw [getState_readersAfter_of_mismatch hactive hquar hroll hnonce]
      rfl

/-- The state of the reader after a frame that the detector does not refuse. -/
theorem getState_readersAfter_of_passes (hactive : en.detectorActive = true)
    (hpass : en.refuses res.header (readers.getState res.header.readerId) = false) :
    (en.readersAfter now readers res).getState res.header.readerId =
      en.settled now ((readers.getState res.header.readerId).raise res.header.seq) res := by
  obtain ⟨hquar, hroll, hnonce⟩ := (refuses_eq_false hactive).mp hpass
  have hscreen : en.screen now readers res.header =
      (false, en.afterSeq now readers res.header) := by
    have hrolls : en.rollsBack readers res.header = false := hroll
    unfold screen
    rw [if_neg (by simp [hactive]), Readers.isQuarantined_eq, if_neg (by simp [hquar]),
      if_neg (by simp [hrolls]), if_pos hnonce]
  rw [readersAfter, hscreen, if_neg (by simp), getState_settle hactive, getState_afterSeq hroll]

/-- The state of the reader after a frame that is neither refused nor complained about. -/
theorem getState_readersAfter_of_harmless (hactive : en.detectorActive = true)
    (hpass : en.refuses res.header (readers.getState res.header.readerId) = false)
    (h : Harmless res) :
    (en.readersAfter now readers res).getState res.header.readerId =
      if res.allow then
        { (readers.getState res.header.readerId).raise res.header.seq with
          consecutiveTagFails := 0 }
      else (readers.getState res.header.readerId).raise res.header.seq := by
  rw [getState_readersAfter_of_passes hactive hpass]
  unfold settled
  cases hallow : res.allow with
  | true =>
    rw [if_pos rfl, if_pos rfl]
    exact ReaderState.raise_of_le (ReaderState.le_maxSeenSeq_raise _ _)
  | false =>
    obtain ⟨hreplay, hmac, hdecrypt⟩ := h.resolve_left (by simp [hallow])
    simp [hreplay, hmac, hdecrypt]

theorem isSome_quarantine_of_replay (hactive : en.detectorActive = true)
    (hdeny : res.allow = false) (hreplay : res.reason = "replay") :
    ((en.readersAfter now readers res).getState res.header.readerId).quarantine.isSome = true := by
  cases hrefuses : en.refuses res.header (readers.getState res.header.readerId) with
  | true => exact isSome_quarantine_of_refuses hrefuses
  | false =>
    rw [getState_readersAfter_of_passes hactive hrefuses]
    simp [settled, hdeny, hreplay, ReaderState.reportReplay, ReaderState.doQuarantine]

/-! ## The frame's number again -/

/-- A number that was a new maximum and whose sum with the threshold wraps: it counts as a
rollback when it is met again. -/
def Wraps (en : Engine) (header : Header) (state : ReaderState) : Prop :=
  state.maxSeenSeq < header.seq ∧
    2 ^ 64 ≤ header.seq.toNat + en.config.rollbackThreshold.toNat

/-- Whether a frame that was not refused is refused the next time. -/
theorem refuses_again {header : Header} {state after : ReaderState}
    (hpass : en.refuses header state = false) (hquar : after.quarantine = state.quarantine)
    (hseq : after.maxSeenSeq = (state.raise header.seq).maxSeenSeq) :
    en.refuses header after = true ↔ en.detectorActive = true ∧ en.Wraps header state := by
  cases hactive : en.detectorActive with
  | false => simp [refuses, hactive]
  | true =>
    obtain ⟨hnone, hroll, hnonce⟩ := (refuses_eq_false hactive).mp hpass
    have hafter : after.rollsBack en.config header.seq =
        (state.raise header.seq).rollsBack en.config header.seq := by
      unfold ReaderState.rollsBack
      rw [hseq]
    have hrefuses : en.refuses header after = en.rolls header (state.raise header.seq) := by
      simp [refuses, rolls, hactive, hquar, hnone, hnonce, hafter]
    rw [hrefuses, and_iff_right rfl]
    unfold rolls at hroll ⊢
    unfold Wraps
    by_cases hpos : 0 < header.seq
    · have hback : state.rollsBack en.config header.seq = false := by simpa [hpos] using hroll
      simpa [hpos] using ReaderState.rollsBack_raise hback
    · refine iff_of_false (by simp [hpos]) ?_
      rintro ⟨hnew, -⟩
      exact hpos (UInt64.lt_of_le_of_lt (UInt64.le_iff_toNat_le.mpr (Nat.zero_le _)) hnew)

end

end AccessSecurity.Decision.Engine
