import AccessSecurity.Decision.Duplicate

/-!
# Calls that throw

A call can throw while the handler looks the reader up, before anything has changed, and
when the audit log is written or the policy's tables are read, after windows and detector
have been brought up to date. Nothing is undone then, so the tables that describe a call
that returns also give the state in which a call that throws stops
(`after_handleFrameBytes_of_returns`).
-/

namespace AccessSecurity.Decision.Engine

open Foundation Protocol Crypto Core

/-! ## Where a call stops -/

theorem after_refuseQuarantined (en : Engine) (env : Env) (res : HandleResult) (s : EngineState) :
    SameControl s (after (en.refuseQuarantined env res) s) :=
  refuseQuarantined_keeps (fun _ _ h hs => hs.trans h) en env res s (.refl s)

section

variable [Sodium] [JsonLib]

/-- From the verdict on, only the reports to the detector change windows or detector. -/
theorem after_finish (en : Engine) (env : Env) (res : HandleResult) (s : EngineState) :
    (after (en.finish env res) s).windows = s.windows ∧
      (after (en.finish env res) s).readers = en.settle env.now s.readers res := by
  have hlog : ∀ v t u : EngineState, SameControl t u → SameControl v t → SameControl v u :=
    fun v t u h hs => hs.trans h
  obtain ⟨_, u, hpush⟩ : Total (en.publishDecisionEvent env res) s := push_total _ _ _
  obtain ⟨huw, hur⟩ := push_control hpush
  rw [finish, after_bind_returns hpush]
  cases hallow : res.allow with
  | false =>
    obtain ⟨_, v, hreport⟩ := reportDenied_total en env res u
    obtain ⟨hvw, hvr⟩ := reportDenied_result hallow hreport
    rw [if_pos rfl, after_bind_returns hreport]
    obtain ⟨htw, htr⟩ := deny_keeps (.of_control (hlog v)) en env res.header res.reason v (.refl v)
    exact ⟨by rw [htw, hvw, huw], by rw [htr, hvr, hur]⟩
  | true =>
    obtain ⟨_, v, hreport⟩ := reportAllowed_total en res u
    obtain ⟨hvw, hvr⟩ : v.windows = u.windows ∧ v.readers = en.settle env.now u.readers res :=
      reportAllowed_result hallow hreport
    rw [if_neg (by simp), after_bind_returns hreport]
    obtain ⟨htw, htr⟩ := checkPayload_keeps (.of_control (hlog v)) en env res v (.refl v)
    exact ⟨by rw [htw, hvw, huw], by rw [htr, hvr, hur]⟩

theorem after_detect (en : Engine) (env : Env) (res : HandleResult) (s : EngineState) :
    (after (en.detect env res) s).windows = s.windows ∧
      (after (en.detect env res) s).readers = en.readersAfter env.now s.readers res := by
  unfold detect
  rw [after_bind_returns (returns_get.mpr ⟨rfl, rfl⟩)]
  unfold readersAfter screen
  obtain ⟨refused, u, hcheck⟩ := checkRollback_total en env res.header s
  obtain ⟨mismatch, v, hnonce⟩ := checkNonce_total en env res.header u
  cases hactive : en.detectorActive with
  | false =>
    obtain ⟨rfl, rfl⟩ := checkRollback_inactive hactive hcheck
    obtain ⟨rfl, rfl⟩ := checkNonce_inactive hactive hnonce
    rw [if_neg (by simp), after_bind_returns hcheck, if_neg (by simp), after_bind_returns hnonce,
      if_neg (by simp)]
    simpa using after_finish en env res v
  | true =>
    obtain ⟨rfl, huw, hur⟩ := checkRollback_result hactive hcheck
    obtain ⟨rfl, hvw, hvr⟩ := checkNonce_result hactive hnonce
    cases hquar : s.readers.isQuarantined res.header.readerId with
    | true =>
      rw [if_pos (by simp)]
      obtain ⟨htw, htr⟩ := after_refuseQuarantined en env res s
      simp [htw, htr]
    | false =>
      rw [if_neg (by simp), after_bind_returns hcheck]
      cases hroll : en.rollsBack s.readers res.header with
      | true =>
        obtain ⟨htw, htr⟩ := after_refuseQuarantined en env res u
        simpa [htw, htr, huw] using hur
      | false =>
        rw [if_neg (by simp), after_bind_returns hnonce]
        rw [hur] at hvr
        cases hok : en.nonceOk res.header with
        | false =>
          obtain ⟨htw, htr⟩ := after_refuseQuarantined en env res v
          simpa [htw, htr, huw, hvw, hok] using hvr
        | true =>
          obtain ⟨htw, htr⟩ := after_finish en env res v
          have hseq : v.readers = en.afterSeq env.now s.readers res.header := by
            simpa [hok] using hvr
          simp [htw, htr, huw, hvw, hseq]

variable {en : Engine} {env : Env} {frameBytes : Bytes} {s : EngineState}

/-- Where the handler throws, the call has no effect. -/
theorem after_handleFrameBytes_of_throws
    (h : ¬ Total (en.handler.handle env frameBytes) s.windows) :
    after (en.handleFrameBytes env frameBytes) s = s := by
  have hzoom : ¬ Total (zoom EngineState.windows (fun windows s => { s with windows })
      (en.handler.handle env frameBytes)) s := by
    rintro ⟨a, t, hret⟩
    obtain ⟨u, hu, -⟩ := returns_zoom.mp hret
    exact h ⟨a, u, hu⟩
  unfold handleFrameBytes
  rw [after_bind_throws _ hzoom, after_zoom, FrameHandler.after_handle_of_throws h]

/-- Where the handler returns, the call stops with the windows of the handler and the
detector's state of the tables, whether it returns or throws. -/
theorem after_handleFrameBytes_of_returns {res : HandleResult} {windows : ReplayWindowMap}
    (h : Returns (en.handler.handle env frameBytes) s.windows res windows) :
    (after (en.handleFrameBytes env frameBytes) s).windows = windows ∧
      (after (en.handleFrameBytes env frameBytes) s).readers =
        en.readersAfter env.now s.readers res := by
  have hzoom : Returns (zoom EngineState.windows (fun windows s => { s with windows })
      (en.handler.handle env frameBytes)) s res { s with windows } :=
    returns_zoom.mpr ⟨windows, h, rfl⟩
  obtain ⟨_, u, hpush⟩ : Total (en.publishFrameEvent env frameBytes.length) { s with windows } :=
    push_total _ _ _
  obtain ⟨huw, hur⟩ := push_control hpush
  rw [handleFrameBytes_eq, after_bind_returns hzoom, after_bind_returns hpush]
  obtain ⟨htw, htr⟩ := after_detect en env res u
  exact ⟨htw.trans huw, by rw [htr, hur]⟩

/-- The detector has no influence on the windows. -/
theorem windows_after_handleFrameBytes (en : Engine) (env : Env) (frameBytes : Bytes)
    (s : EngineState) : (after (en.handleFrameBytes env frameBytes) s).windows =
      after (en.handler.handle env frameBytes) s.windows := by
  by_cases htotal : Total (en.handler.handle env frameBytes) s.windows
  · obtain ⟨res, windows, h⟩ := htotal
    rw [(after_handleFrameBytes_of_returns h).1, h.after_eq]
  · rw [after_handleFrameBytes_of_throws htotal, FrameHandler.after_handle_of_throws htotal]

end

/-! ## What is left after an exception -/

section

variable {en : Engine}

/-- A replay and a failed authentication always show in the state of the reader. -/
theorem settled_ne_of_not_harmless {now : ClockSite → UInt64} {state : ReaderState}
    {res : HandleResult} (hquar : state.quarantine = none) (h : ¬ Harmless res) :
    en.settled now (state.raise res.header.seq) res ≠ state := by
  unfold Harmless at h
  rw [not_or] at h
  unfold settled
  rw [if_neg h.1]
  split_ifs with hreplay htag
  · intro heq
    have hsome := congrArg ReaderState.quarantine heq
    rw [hquar] at hsome
    cases hsome
  · intro heq
    have hfails := congrArg ReaderState.consecutiveTagFails heq
    rw [ReaderState.consecutiveTagFails_reportTagFailure,
      ReaderState.consecutiveTagFails_raise] at hfails
    exact absurd hfails (by grind)
  · grind

variable [Sodium]

/-- The detector has nothing to change after a verdict on a frame of a reader in this state. -/
def Unmoved (en : Engine) (res : HandleResult) (state : ReaderState) : Prop :=
  en.detectorActive = true → state.quarantine = none →
    en.rolls res.header state = false ∧ en.nonceOk res.header = true ∧
      res.header.seq ≤ state.maxSeenSeq ∧ Harmless res ∧
      (res.allow = true → state.consecutiveTagFails = 0)

theorem getState_readersAfter_eq_iff {now : ClockSite → UInt64} {readers : Readers}
    {res : HandleResult} : (en.readersAfter now readers res).getState res.header.readerId =
      readers.getState res.header.readerId ↔
    en.Unmoved res (readers.getState res.header.readerId) := by
  unfold Unmoved
  cases hactive : en.detectorActive with
  | false => simp [getState_readersAfter_of_ignored (.inl hactive)]
  | true =>
    cases hquar : (readers.getState res.header.readerId).quarantine with
    | some info =>
      have hsome : (readers.getState res.header.readerId).quarantine.isSome = true := by
        simp [hquar]
      simp [getState_readersAfter_of_ignored (.inr hsome)]
    | none =>
      simp only [true_imp_iff]
      cases hrefuses : en.refuses res.header (readers.getState res.header.readerId) with
      | true =>
        refine iff_of_false (fun heq => ?_) ?_
        · have hsome : ((en.readersAfter now readers res).getState
              res.header.readerId).quarantine.isSome = true := isSome_quarantine_of_refuses hrefuses
          rw [heq, hquar] at hsome
          cases hsome
        · rintro ⟨hroll, hnonce, -⟩
          rw [(refuses_eq_false hactive).mpr ⟨hquar, hroll, hnonce⟩] at hrefuses
          cases hrefuses
      | false =>
        obtain ⟨-, hroll, hnonce⟩ := (refuses_eq_false hactive).mp hrefuses
        by_cases hharm : Harmless res
        · rw [getState_readersAfter_of_harmless hactive hrefuses hharm]
          cases hallow : res.allow with
          | true =>
            rw [if_pos rfl, ReaderState.raise_reset_eq_self_iff]
            simp [hroll, hnonce, hharm]
          | false => simp [ReaderState.raise_eq_self_iff, hroll, hnonce, hharm]
        · rw [getState_readersAfter_of_passes hactive hrefuses]
          exact iff_of_false (settled_ne_of_not_harmless hquar hharm) (by simp [hharm])

theorem verdict_replay_iff {now : ClockSite → UInt64} {s : EngineState} {frameBytes : Bytes} :
    (en.verdict now s frameBytes).reason = "replay" ↔
      en.handler.Replays s.windows frameBytes :=
  FrameHandler.verdict_replay_iff

theorem verdict_unauthentic_iff {now : ClockSite → UInt64} {s : EngineState}
    {frameBytes : Bytes} :
    ((en.verdict now s frameBytes).reason = "mac_verification_failed" ∨
      (en.verdict now s frameBytes).reason = "decrypt_failed") ↔
    en.handler.Unauthentic s.windows frameBytes :=
  FrameHandler.verdict_unauthentic_iff

theorem harmless_verdict_iff {now : ClockSite → UInt64} {s : EngineState} {frameBytes : Bytes} :
    Harmless (en.verdict now s frameBytes) ↔ ¬ en.handler.Replays s.windows frameBytes ∧
      ¬ en.handler.Unauthentic s.windows frameBytes := by
  rw [← verdict_replay_iff, ← verdict_unauthentic_iff, not_or]
  refine or_iff_right_of_imp fun hallow => ?_
  obtain ⟨frame, plaintext, haccepts⟩ := FrameHandler.accepts_of_allow hallow
  rw [verdict, haccepts.verdict]
  simp

/-- For these bytes neither a replay window nor the detector has anything to change. -/
structure Spared (en : Engine) (now : ClockSite → UInt64) (s : EngineState)
    (frameBytes : Bytes) : Prop where
  notRecorded : en.frameHandlerCfg.antiReplayEnabled = true →
    ¬ en.handler.AcceptsBytes (now .skewCheck) s.windows frameBytes
  unmoved : en.detectorActive = true →
    (s.readers.getState (en.handler.headerOf frameBytes).readerId).quarantine = none →
    en.rollsBack s.readers (en.handler.headerOf frameBytes) = false ∧
      en.nonceOk (en.handler.headerOf frameBytes) = true ∧
      (en.handler.headerOf frameBytes).seq ≤
        (s.readers.getState (en.handler.headerOf frameBytes).readerId).maxSeenSeq ∧
      (¬ en.handler.Replays s.windows frameBytes ∧
        ¬ en.handler.Unauthentic s.windows frameBytes) ∧
      (en.handler.AcceptsBytes (now .skewCheck) s.windows frameBytes →
        (s.readers.getState
          (en.handler.headerOf frameBytes).readerId).consecutiveTagFails = 0)

theorem spared_iff {now : ClockSite → UInt64} {s : EngineState} {frameBytes : Bytes} :
    en.Spared now s frameBytes ↔
      (en.frameHandlerCfg.antiReplayEnabled = true →
        (en.verdict now s frameBytes).allow = false) ∧
      en.Unmoved (en.verdict now s frameBytes)
        (s.readers.getState (en.verdict now s frameBytes).header.readerId) := by
  have hheader : (en.verdict now s frameBytes).header = en.handler.headerOf frameBytes :=
    FrameHandler.headerOf_verdict _ _ _ _
  have hallow : (en.verdict now s frameBytes).allow = true ↔
      en.handler.AcceptsBytes (now .skewCheck) s.windows frameBytes :=
    FrameHandler.verdict_allow_iff
  unfold Unmoved
  rw [hheader, harmless_verdict_iff, hallow, ← Bool.not_eq_true, hallow]
  exact ⟨fun h => ⟨h.notRecorded, h.unmoved⟩, fun h => ⟨h.1, h.2⟩⟩

variable [JsonLib]

/-- Log and events, and windows that are merely created, have no influence on the answer. -/
theorem SameState.answer {env : Env} {frameBytes : Bytes} {s t u v : EngineState}
    {r d : DecisionResult} (h : en.SameState s u)
    (hr : Returns (en.handleFrameBytes env frameBytes) s r t)
    (hd : Returns (en.handleFrameBytes env frameBytes) u d v) : d = r := by
  have hverdict : en.verdict env.now u frameBytes = en.verdict env.now s frameBytes :=
    en.handler.verdict_congr _ (fun r q => h.windows.contains r q) frameBytes
  rw [(returns_handleFrameBytes hr).answer, (returns_handleFrameBytes hd).answer, hverdict]
  unfold Engine.answer
  rw [screen_fst, screen_fst, h.readers]

variable {env : Env} {frameBytes : Bytes} {s : EngineState}

/-- A call that gets past the lookup of the reader leaves windows and detector as they were
exactly when there is nothing to change for the bytes. -/
theorem sameState_after_iff (h : ¬ en.handler.LookupThrows env frameBytes) :
    en.SameState s (after (en.handleFrameBytes env frameBytes) s) ↔
      en.Spared env.now s frameBytes := by
  obtain ⟨res, windows, hhandle⟩ : Total (en.handler.handle env frameBytes) s.windows :=
    FrameHandler.handle_total_iff.mpr h
  obtain ⟨hres, hrecord, hrefuse⟩ := FrameHandler.returns_handle hhandle
  obtain ⟨hwindows, hreaders⟩ := after_handleFrameBytes_of_returns hhandle
  have hverdict : en.verdict env.now s frameBytes = res := hres.symm
  rw [spared_iff, hverdict]
  constructor
  · intro hsame
    refine ⟨fun hreplay => ?_, ?_⟩
    · by_contra hallow
      rw [Bool.not_eq_false] at hallow
      obtain ⟨frame, plaintext, haccepts⟩ := FrameHandler.accepts_of_allow (hres ▸ hallow)
      obtain ⟨-, store, hpasses⟩ := id haccepts
      have hfresh := hpasses.fresh hreplay
      have hheader : res.header = frame.header := by rw [hres, haccepts.verdict]
      rw [← hsame.windows.contains, hwindows, hrecord hallow, hheader,
        FrameHandler.recordFrame_on hreplay, ReplayWindowMap.contains_record_self] at hfresh
      cases hfresh
    · have hstate := hsame.readers res.header.readerId
      rw [hreaders] at hstate
      exact getState_readersAfter_eq_iff.mp hstate
  · rintro ⟨hnot, hunmoved⟩
    constructor
    · rw [hwindows]
      cases hallow : res.allow with
      | false => exact hrefuse hallow
      | true =>
        have hoff : ¬ en.frameHandlerCfg.antiReplayEnabled = true := by
          intro hreplay
          rw [hnot hreplay] at hallow
          cases hallow
        intro r
        rw [hrecord hallow, FrameHandler.recordFrame_off hoff]
    · intro r
      rw [hreaders]
      by_cases hr : r = res.header.readerId
      · rw [hr]
        exact getState_readersAfter_eq_iff.mpr hunmoved
      · exact getState_readersAfter_of_ne _ hr

/-- A call, and in particular one that throws, is without effect, so that processing the frame
again gives the decision it would have given, exactly when the lookup of the reader threw or
neither the windows nor the detector had anything to change. -/
theorem interrupted_without_effect_iff :
    (en.SameState s (after (en.handleFrameBytes env frameBytes) s) ∧
      ∀ env' r t r' t',
        Returns (en.handleFrameBytes env' frameBytes) s r t →
        Returns (en.handleFrameBytes env' frameBytes)
          (after (en.handleFrameBytes env frameBytes) s) r' t' → r' = r) ↔
    en.handler.LookupThrows env frameBytes ∨ en.Spared env.now s frameBytes := by
  rw [and_iff_left_of_imp fun hsame env' r t r' t' => hsame.answer]
  by_cases hlookup : en.handler.LookupThrows env frameBytes
  · have hhandle : ¬ Total (en.handler.handle env frameBytes) s.windows := by
      rw [FrameHandler.handle_total_iff, not_not]
      exact hlookup
    rw [after_handleFrameBytes_of_throws hhandle]
    exact iff_of_true (.refl en s) (.inl hlookup)
  · rw [sameState_after_iff hlookup, or_iff_right hlookup]

end

/-! ## A full disk -/

/-- Nothing can be appended to the audit log. -/
def diskFull : Env where
  now _ := 0
  throws site := if site = .auditAppend then some ⟨"SqliteAuditLog: insert failed"⟩ else none

/-- The frame would be granted; the append fails, and when the frame is processed again it is
a replay, for which its reader is quarantined. -/
theorem interrupted_frame_is_replay :
    letI : Sodium := .transparent
    letI : JsonLib := .requests
    let call := permissive.handleFrameBytes diskFull (serialize knock)
    let again := permissive.handleFrameBytes .quiet (serialize knock)
    ¬ Total call .initial ∧
    (∃ t, Returns again .initial { allow := true, reason := "ok" } t) ∧
    (∃ t, Returns again (after call .initial) (createDeniedResult "replay") t ∧
      t.readers.isQuarantined 7 = true) ∧
    ¬ permissive.SameState .initial (after call .initial) := by
  let _ : Sodium := .transparent
  let _ : JsonLib := .requests
  have hthrows : result (permissive.handleFrameBytes diskFull (serialize knock)) .initial =
      .error ⟨"SqliteAuditLog: insert failed"⟩ := by decide +kernel
  refine ⟨?_, ⟨_, returns_after_iff.mpr ?_⟩, ⟨_, returns_after_iff.mpr ?_, ?_⟩, ?_⟩
  · rintro ⟨r, t, h⟩
    rw [← h.after_eq] at h
    rw [returns_after_iff.mp h] at hthrows
    cases hthrows
  · decide +kernel
  · decide +kernel
  · decide +kernel
  · intro hsame
    have hcontains := hsame.windows.contains 7 1
    revert hcontains
    decide +kernel

end AccessSecurity.Decision.Engine
