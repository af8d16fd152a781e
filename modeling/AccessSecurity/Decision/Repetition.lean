import AccessSecurity.Decision.Duplicate
import AccessSecurity.Foundation.Run

/-!
# Repeated processing

The same bytes are processed once and then again, any number of times. `Harmful` lists the
ways in which the repetitions are noticed, all of them conditions on the state before the
first call and on the clock; `repeated_safe_iff` shows that there are no others.
-/

namespace AccessSecurity.Decision.Engine

open Foundation Protocol Crypto Core

/-! ## When a repetition has no effect -/

section

variable [Sodium] [JsonLib]

/-- The bytes are refused at first and accepted later, when the clock has changed. -/
def AcceptedLate (en : Engine) (body : Bytes) (s : EngineState) (first : Env) (rest : List Env) :
    Prop :=
  en.accepts body s first = false ∧ ∃ env ∈ rest, en.accepts body s env = true

/-- The ways in which processing the bytes again is noticed; `answered` says whether the
caller gets the last answer. -/
inductive Harmful (en : Engine) (body : Bytes) (header : Header) (payload : Bytes)
    (s : EngineState) (first : Env) (rest : List Env) (last : Env) (answered : Bool) : Prop
  | recordedLate (on : en.frameHandlerCfg.antiReplayEnabled = true)
      (late : en.AcceptedLate body s first rest)
  | quarantined (on : en.frameHandlerCfg.antiReplayEnabled = true)
      (active : en.detectorActive = true)
      (pass : en.refuses header (s.readers.getState header.readerId) = false)
      (accepted : en.accepts body s first = true)
  | denied (on : en.frameHandlerCfg.antiReplayEnabled = true) (answer : answered = true)
      (pass : en.refuses header (s.readers.getState header.readerId) = false)
      (accepted : en.accepts body s first = true) (grants : en.Grants header payload)
  | clockChanged (off : en.frameHandlerCfg.antiReplayEnabled = false) (answer : answered = true)
      (pass : en.refuses header (s.readers.getState header.readerId) = false)
      (changed : en.accepts body s first ≠ en.accepts body s last)
      (grants : en.Grants header payload)
  | streakCleared (off : en.frameHandlerCfg.antiReplayEnabled = false)
      (active : en.detectorActive = true)
      (pass : en.refuses header (s.readers.getState header.readerId) = false)
      (late : en.AcceptedLate body s first rest)
      (streak : (s.readers.getState header.readerId).consecutiveTagFails ≠ 0)
  | rollback (active : en.detectorActive = true)
      (pass : en.refuses header (s.readers.getState header.readerId) = false)
      (known : (en.verdict first.now s body).reason ≠ "replay")
      (wraps : en.Wraps header (s.readers.getState header.readerId))

theorem Harmful.congr {en : Engine} {body : Bytes} {header : Header} {payload : Bytes}
    {s u : EngineState} {first : Env} {rest : List Env} {last : Env} {answered : Bool}
    (h : SameControl s u) (hharm : en.Harmful body header payload s first rest last answered) :
    en.Harmful body header payload u first rest last answered := by
  obtain ⟨hwindows, hreaders⟩ := h
  have haccepts : en.accepts body u = en.accepts body s := by
    funext env
    unfold accepts verdict
    rw [hwindows]
  have hlate : en.AcceptedLate body u first rest ↔ en.AcceptedLate body s first rest := by
    unfold AcceptedLate
    rw [haccepts]
  cases hharm with
  | recordedLate on late => exact .recordedLate on (hlate.mpr late)
  | quarantined on active pass accepted =>
    exact .quarantined on active (hreaders ▸ pass) (haccepts ▸ accepted)
  | denied on answer pass accepted grants =>
    exact .denied on answer (hreaders ▸ pass) (haccepts ▸ accepted) grants
  | clockChanged off answer pass changed grants =>
    exact .clockChanged off answer (hreaders ▸ pass) (haccepts ▸ changed) grants
  | streakCleared off active pass late streak =>
    exact .streakCleared off active (hreaders ▸ pass) (hlate.mpr late) (hreaders ▸ streak)
  | rollback active pass known wraps =>
    refine .rollback active (hreaders ▸ pass) ?_ (hreaders ▸ wraps)
    rwa [verdict_congr en body ⟨hwindows, hreaders⟩]

/-- A first call and the repetitions, with the last one set apart: in windows and detector
they end like no call or like the first one, the last answer is the one to the first call,
and nobody is in quarantine who is not after the first call. -/
structure RepeatSafe (en : Engine) (body : Bytes) (s : EngineState) (first : Env)
    (mid : List Env) (last : Env) (answered : Bool) : Prop where
  state : en.SameState s (run (en.process body) s (first :: (mid ++ [last]))) ∨
    en.SameState (en.process body s first) (run (en.process body) s (first :: (mid ++ [last])))
  answer : answered = true → ∀ r d t u, Returns (en.handleFrameBytes first body) s r t →
    Returns (en.handleFrameBytes last body) (run (en.process body) s (first :: mid)) d u →
    d.allow = r.allow
  quarantine : en.detectorActive = true → ∀ r,
    (run (en.process body) s (first :: (mid ++ [last]))).readers.isQuarantined r = true →
      (en.process body s first).readers.isQuarantined r = true

variable {en : Engine} {body : Bytes} {header : Header} {payload : Bytes}
  (hj : en.Judged body header payload) {first : Env} (hfirst : first.NoFault) {rest : List Env}
  (hrest : ∀ env ∈ rest, env.NoFault) {s : EngineState} {last : Env} {answered : Bool}

include hj hfirst

/-- After the first call nothing is accepted any more, unless the clock lets it. -/
theorem accepts_again (hon : en.frameHandlerCfg.antiReplayEnabled = true)
    (hlate : ¬ en.AcceptedLate body s first rest) {v : EngineState}
    (hv : en.SameState (en.process body s first) v) {env : Env} (henv : env ∈ rest) :
    en.accepts body v env = false := by
  cases hseen : en.seen header v with
  | true => exact accepts_of_seen hj hseen
  | false =>
    rw [hv.seen] at hseen
    have hdenied : en.accepts body s first = false := by
      by_contra hallow
      have := seen_process_of_accepts hj hfirst hon (by simpa using hallow)
      rw [hseen] at this
      exact absurd this (by simp)
    have hunseen : en.seen header s = false := by
      by_contra hold
      have := seen_process hj hfirst (by simpa using hold)
      rw [hseen] at this
      exact absurd this (by simp)
    by_contra hallow
    refine hlate ⟨hdenied, env, henv, ?_⟩
    have hsame := hj.unseen env.now v s (by rw [hv.seen, hseen]) hunseen
    unfold accepts at *
    rw [← hsame]
    simpa using hallow

/-- What the first call has not recorded is not taken for a replay later. -/
theorem not_replay_again (hreason : (en.verdict first.now s body).reason ≠ "replay")
    (hdenied : en.frameHandlerCfg.antiReplayEnabled = true → en.accepts body s first = false)
    {v : EngineState} (hv : en.SameState (en.process body s first) v) (env : Env) :
    (en.verdict env.now v body).reason ≠ "replay" := by
  intro hreplay
  have hseen := (hj.replay _ _ hreplay).2
  have hseen_first : en.seen header s = true := by
    unfold seen at *
    rwa [hv.windows.contains, (windows_process hfirst hdenied).contains] at hseen
  exact hreason (by rw [hj.known first.now env.now s v hseen_first hseen, hreplay])

omit [JsonLib] hfirst in
/-- Without the replay check the verdict depends on the clock only. -/
theorem accepts_of_off (hoff : en.frameHandlerCfg.antiReplayEnabled = false) (env : Env)
    (v : EngineState) : en.accepts body v env = en.accepts body s env := by
  have hunseen : ∀ u, en.seen header u = false := fun u => by simp [seen, hoff]
  unfold accepts
  rw [hj.unseen env.now v s (hunseen v) (hunseen s)]

include hrest

/-- After the first call the others leave everything as it is. -/
theorem sameState_again (hsafe : ¬ en.Harmful body header payload s first rest last answered)
    {v : EngineState} (hv : en.SameState (en.process body s first) v) {env : Env}
    (henv : env ∈ rest) : en.SameState v (en.process body v env) := by
  have hlate : en.frameHandlerCfg.antiReplayEnabled = true →
      ¬ en.AcceptedLate body s first rest := fun hon late => hsafe (.recordedLate hon late)
  refine sameState_process hj (hrest env henv)
    (fun hon => accepts_again hj hfirst hon (hlate hon) hv henv) ?_
  by_cases hignored : en.detectorActive = false ∨
      (v.readers.getState header.readerId).quarantine.isSome = true
  · exact getState_process_of_ignored hj (hrest env henv) hignored
  obtain ⟨hactive, hquar⟩ : en.detectorActive = true ∧
      ¬ (v.readers.getState header.readerId).quarantine.isSome = true := by
    simpa using hignored
  rw [hv.readers] at hquar
  -- the first call was neither refused nor a replay, or else there would be a quarantine
  have hpass : en.refuses header (s.readers.getState header.readerId) = false := by
    by_contra hrefuses
    exact hquar (isSome_quarantine_process_of_refuses hj hfirst (by simpa using hrefuses))
  have hreason : (en.verdict first.now s body).reason ≠ "replay" := fun hreplay =>
    hquar (isSome_quarantine_process_of_replay hj hfirst hactive hreplay)
  obtain ⟨hnone, hseq, hwraps⟩ := passed_process hj hfirst hactive hpass hreason
  have hstate := getState_process_of_passes hj hfirst hactive hpass hreason
  have hpass_again : en.refuses header (v.readers.getState header.readerId) = false := by
    rw [hv.readers, ← Bool.not_eq_true, hwraps]
    exact fun wraps => hsafe (.rollback hactive hpass hreason wraps)
  have hreason_again := not_replay_again hj hfirst hreason
    (fun hon => Bool.eq_false_of_not_eq_true fun accepted =>
      hsafe (.quarantined hon hactive hpass accepted)) hv env
  rw [getState_process_of_passes hj (hrest env henv) hactive hpass_again hreason_again, hv.readers,
    ReaderState.raise_of_le hseq]
  split_ifs with hallow
  · -- accepted again, so the replay check is off and the streak of failures is already zero
    have hoff : en.frameHandlerCfg.antiReplayEnabled = false := by
      by_contra hon
      have hdenied := accepts_again hj hfirst (by simpa using hon) (hlate (by simpa using hon)) hv
        henv
      simp [hdenied] at hallow
    have hstreak : ((en.process body s first).readers.getState
        header.readerId).consecutiveTagFails = 0 := by
      rw [hstate]
      split_ifs with haccepted
      · rfl
      · by_contra hstreak
        rw [accepts_of_off hj hoff env v] at hallow
        exact hsafe (.streakCleared hoff hactive hpass ⟨by simpa using haccepted, env, henv, hallow⟩
          (by simpa using hstreak))
    rw [← hstreak]
  · rfl

/-- The state after all the calls. -/
theorem sameState_run (hsafe : ¬ en.Harmful body header payload s first rest last answered)
    {envs : List Env} (henvs : ∀ env ∈ envs, env ∈ rest) :
    en.SameState (en.process body s first)
      (run (en.process body) (en.process body s first) envs) := by
  have hrefl : en.SameState (en.process body s first) (en.process body s first) := .refl en _
  refine run_preserves (I := fun v => en.SameState (en.process body s first) v)
    (Q := fun env => env ∈ rest) ?_ henvs hrefl
  intro v env henv hv
  exact hv.trans (sameState_again hj hfirst hrest hsafe hv henv)

omit hrest in
/-- The last answer is the one that the first call gave. -/
theorem answer_again (hsafe : ¬ en.Harmful body header payload s first rest last true)
    (hlast : last ∈ rest) {v : EngineState} (hv : en.SameState (en.process body s first) v) :
    (en.answer last.now v.readers (en.verdict last.now v body)).allow =
      (en.answer first.now s.readers (en.verdict first.now s body)).allow := by
  have hoff : ∀ env, en.frameHandlerCfg.antiReplayEnabled = false →
      en.accepts body v env = en.accepts body s env :=
    fun env hoff => accepts_of_off hj hoff env v
  rw [Bool.eq_iff_iff, answer_allow_iff hj, answer_allow_iff hj, hv.readers]
  cases hpass : en.refuses header (s.readers.getState header.readerId) with
  | true =>
    have hquar := isSome_quarantine_process_of_refuses hj hfirst hpass
    have hactive : en.detectorActive = true := by
      by_contra hinactive
      simp [refuses, hinactive] at hpass
    simp [refuses, hactive, hquar]
  | false =>
    cases hreplay : en.frameHandlerCfg.antiReplayEnabled with
    | true =>
      have hdenied := accepts_again hj hfirst hreplay
        (fun late => hsafe (.recordedLate hreplay late)) hv hlast
      have hfirst_denied : en.accepts body s first = true → ¬ en.Grants header payload :=
        fun haccepted hgrants => hsafe (.denied hreplay rfl hpass haccepted hgrants)
      simpa [hdenied] using hfirst_denied
    | false =>
      by_cases hgrants : en.Grants header payload
      · have hsame : en.accepts body s first = en.accepts body s last := by
          by_contra hchanged
          exact hsafe (.clockChanged hreplay rfl hpass hchanged hgrants)
        have hpassed : en.accepts body s first = true → en.refuses header
            ((en.process body s first).readers.getState header.readerId) = false := by
          intro haccepted
          cases hactive : en.detectorActive with
          | false => simp [refuses, hactive]
          | true =>
            have hreason := not_replay_of_accepts hj haccepted
            rw [← Bool.not_eq_true, (passed_process hj hfirst hactive hpass hreason).2.2]
            exact fun wraps => hsafe (.rollback hactive hpass hreason wraps)
        rw [hoff last hreplay, ← hsame]
        constructor
        · rintro ⟨-, haccepted, -⟩
          exact ⟨rfl, haccepted, hgrants⟩
        · rintro ⟨-, haccepted, -⟩
          exact ⟨hpassed haccepted, haccepted, hgrants⟩
      · simp [hgrants]

/-! ## When it does have one -/

omit hfirst hrest

theorem seen_run {envs : List Env} (henvs : ∀ env ∈ envs, env.NoFault) {v : EngineState}
    (hv : en.seen header v = true) : en.seen header (run (en.process body) v envs) = true := by
  refine run_preserves (I := fun v => en.seen header v = true) ?_ henvs hv
  intro v env henv hv
  exact seen_process hj henv hv

theorem isSome_quarantine_run {envs : List Env} (henvs : ∀ env ∈ envs, env.NoFault)
    {v : EngineState} (hv : (v.readers.getState header.readerId).quarantine.isSome = true) :
    ((run (en.process body) v envs).readers.getState header.readerId).quarantine.isSome = true := by
  refine run_preserves (I := fun v : EngineState =>
    (v.readers.getState header.readerId).quarantine.isSome = true) ?_ henvs hv
  intro v env henv hv
  rw [getState_process_of_ignored hj henv (.inr hv)]
  exact hv

/-- The detector does not refuse the frame the next time either. -/
def Passing (en : Engine) (header : Header) (v : EngineState) : Prop :=
  en.refuses header (v.readers.getState header.readerId) = false ∧
    header.seq ≤ (v.readers.getState header.readerId).maxSeenSeq

theorem passing_process (hactive : en.detectorActive = true)
    (hoff : en.frameHandlerCfg.antiReplayEnabled = false) {v : EngineState}
    (hv : en.Passing header v) {env : Env} (henv : env.NoFault) :
    en.Passing header (en.process body v env) := by
  have hreason : (en.verdict env.now v body).reason ≠ "replay" := by
    intro hreplay
    simpa [seen, hoff] using (hj.replay _ _ hreplay).2
  obtain ⟨-, hseq, hwraps⟩ := passed_process hj henv hactive hv.1 hreason
  refine ⟨?_, hseq⟩
  rw [← Bool.not_eq_true, hwraps]
  rintro ⟨hnew, -⟩
  exact absurd hv.2 (UInt64.not_le.mpr hnew)

/-- A run that comes to accept a frame, with the replay check on, has then seen its number. -/
theorem seen_of_late (hon : en.frameHandlerCfg.antiReplayEnabled = true) {v : EngineState}
    (hv : en.seen header v = false) (hs : en.seen header s = false) {envs : List Env}
    (henvs : ∀ env ∈ envs, env.NoFault) {env : Env} (henv : env ∈ envs)
    (haccepts : en.accepts body s env = true) :
    en.seen header (run (en.process body) v envs) = true := by
  induction envs generalizing v with
  | nil => simp at henv
  | cons e envs ih =>
    have hrest : ∀ env ∈ envs, env.NoFault := fun c hc => henvs c (.tail _ hc)
    rw [run_cons]
    cases hnext : en.seen header (en.process body v e) with
    | true => exact seen_run hj hrest hnext
    | false =>
      rcases List.mem_cons.mp henv with rfl | hmem
      · have hsame : en.accepts body v env = true := by
          unfold accepts at *
          rwa [hj.unseen env.now v s hv hs]
        rw [seen_process_of_accepts hj (henvs env (.head _)) hon hsame] at hnext
        exact absurd hnext (by simp)
      · exact ih hnext hrest hmem

theorem passing_run (hactive : en.detectorActive = true)
    (hoff : en.frameHandlerCfg.antiReplayEnabled = false) {v : EngineState}
    (hv : en.Passing header v) {envs : List Env} (henvs : ∀ env ∈ envs, env.NoFault) :
    en.Passing header (run (en.process body) v envs) := by
  refine run_preserves (I := fun v => en.Passing header v) ?_ henvs hv
  intro v env henv hv
  exact passing_process hj hactive hoff hv henv

/-- A run that comes to accept a frame, with the replay check off, has then no failures left. -/
theorem streak_of_late (hactive : en.detectorActive = true)
    (hoff : en.frameHandlerCfg.antiReplayEnabled = false) {v : EngineState}
    (hv : en.Passing header v) {envs : List Env} (henvs : ∀ env ∈ envs, env.NoFault) {env : Env}
    (henv : env ∈ envs) (haccepts : en.accepts body s env = true) :
    ((run (en.process body) v envs).readers.getState header.readerId).consecutiveTagFails = 0 := by
  have hstep : ∀ {w : EngineState} {e : Env}, en.Passing header w → e.NoFault →
      (en.process body w e).readers.getState header.readerId =
        if en.accepts body w e then
          { (w.readers.getState header.readerId).raise header.seq with consecutiveTagFails := 0 }
        else (w.readers.getState header.readerId).raise header.seq := by
    intro w e hw he
    refine getState_process_of_passes hj he hactive hw.1 fun hreplay => ?_
    simpa [seen, hoff] using (hj.replay _ _ hreplay).2
  obtain ⟨before, rest, rfl⟩ := List.append_of_mem henv
  have hbefore : en.Passing header (run (en.process body) v before) :=
    passing_run hj hactive hoff hv fun c hc => henvs c (by simp [hc])
  have henv_ok := henvs env (by simp)
  have hrest : ∀ c ∈ rest, c.NoFault := fun c hc => henvs c (by simp [hc])
  rw [run_append, run_cons]
  refine (run_preserves (I := fun w : EngineState => en.Passing header w ∧
    (w.readers.getState header.readerId).consecutiveTagFails = 0) ?_ hrest
    ⟨passing_process hj hactive hoff hbefore henv_ok, ?_⟩).2
  · rintro w e he ⟨hw, hzero⟩
    refine ⟨passing_process hj hactive hoff hw he, ?_⟩
    rw [hstep hw he]
    split_ifs
    · rfl
    · simpa using hzero
  · rw [hstep hbefore henv_ok, accepts_of_off hj hoff env _, if_pos haccepts]

variable (hfirst : first.NoFault) {mid : List Env} (hmid : ∀ env ∈ mid, env.NoFault)
  (hlast : last.NoFault)

include hmid hlast

/-- A quarantine that the second call imposes stays, so the repetition is noticed. -/
theorem not_safe_of_quarantine (hactive : en.detectorActive = true)
    (hnone : ((en.process body s first).readers.getState header.readerId).quarantine = none)
    (hnext : ∀ env, env.NoFault → ((en.process body (en.process body s first) env).readers.getState
      header.readerId).quarantine.isSome = true) :
    ¬ en.RepeatSafe body s first mid last answered := by
  intro hsafe
  have hfinal : (run (en.process body) s (first :: (mid ++ [last]))).readers.isQuarantined
      header.readerId = true := by
    rw [Readers.isQuarantined_eq, run_cons]
    cases mid with
    | nil => exact hnext last hlast
    | cons env mid =>
      rw [List.cons_append, run_cons]
      refine isSome_quarantine_run hj ?_ (hnext env (hmid env (.head _)))
      intro c hc
      rcases List.mem_append.mp hc with hc | hc
      · exact hmid c (.tail _ hc)
      · rwa [List.mem_singleton.mp hc]
  have hquar := hsafe.quarantine hactive header.readerId hfinal
  rw [Readers.isQuarantined_eq, hnone] at hquar
  exact absurd hquar (by simp)

include hfirst in
theorem not_safe_of_rollback (hactive : en.detectorActive = true)
    (hpass : en.refuses header (s.readers.getState header.readerId) = false)
    (hknown : (en.verdict first.now s body).reason ≠ "replay")
    (hwraps : en.Wraps header (s.readers.getState header.readerId)) :
    ¬ en.RepeatSafe body s first mid last answered := by
  obtain ⟨hnone, -, hrefuses⟩ := passed_process hj hfirst hactive hpass hknown
  refine not_safe_of_quarantine hj hmid hlast hactive hnone fun env henv => ?_
  exact isSome_quarantine_process_of_refuses hj henv (hrefuses.mpr hwraps)

omit [Sodium] [JsonLib] hj in
theorem noFault_rest : ∀ env ∈ mid ++ [last], env.NoFault := by
  intro env henv
  rcases List.mem_append.mp henv with henv | henv
  · exact hmid env henv
  · rwa [List.mem_singleton.mp henv]

include hfirst in
theorem not_safe_of_recordedLate (hon : en.frameHandlerCfg.antiReplayEnabled = true)
    (hlate : en.AcceptedLate body s first (mid ++ [last])) :
    ¬ en.RepeatSafe body s first mid last answered := by
  obtain ⟨hdenied, env, henv, haccepts⟩ := hlate
  have hs := (hj.accepted _ _ haccepts).2
  have hu : en.seen header (en.process body s first) = false := by
    unfold seen at *
    rwa [(windows_process hfirst fun _ => hdenied).contains]
  have ht := seen_of_late hj hon hu hs (noFault_rest hmid hlast) henv haccepts
  rw [← run_cons] at ht
  intro hsafe
  rcases hsafe.state with hsame | hsame
  · rw [hsame.seen, hs] at ht
    exact absurd ht (by simp)
  · rw [hsame.seen, hu] at ht
    exact absurd ht (by simp)

include hfirst in
theorem not_safe_of_quarantined (hon : en.frameHandlerCfg.antiReplayEnabled = true)
    (hactive : en.detectorActive = true)
    (hpass : en.refuses header (s.readers.getState header.readerId) = false)
    (haccepted : en.accepts body s first = true) :
    ¬ en.RepeatSafe body s first mid last answered := by
  have hnone := (passed_process hj hfirst hactive hpass (not_replay_of_accepts hj haccepted)).1
  refine not_safe_of_quarantine hj hmid hlast hactive hnone fun env henv => ?_
  refine isSome_quarantine_process_of_replay hj henv hactive ?_
  exact hj.again _ _ _ _ haccepted (seen_process_of_accepts hj hfirst hon haccepted)

omit hmid in
include hfirst in
/-- The answers to the first and the last call. -/
theorem RepeatSafe.answer_iff (h : en.RepeatSafe body s first mid last true) :
    (en.refuses header (s.readers.getState header.readerId) = false ∧
      en.accepts body s first = true ∧ en.Grants header payload) ↔
    (en.refuses header
        ((run (en.process body) s (first :: mid)).readers.getState header.readerId) = false ∧
      en.accepts body (run (en.process body) s (first :: mid)) last = true ∧
      en.Grants header payload) := by
  obtain ⟨r, hr, heffect⟩ := process_effect en body hfirst s
  obtain ⟨d, hd, heffect'⟩ := process_effect en body hlast (run (en.process body) s (first :: mid))
  rw [← answer_allow_iff hj, ← answer_allow_iff hj, ← heffect.answer, ← heffect'.answer,
    h.answer rfl _ _ _ _ hr hd]

include hfirst in
theorem not_safe_of_denied (hon : en.frameHandlerCfg.antiReplayEnabled = true)
    (hpass : en.refuses header (s.readers.getState header.readerId) = false)
    (haccepted : en.accepts body s first = true) (hgrants : en.Grants header payload) :
    ¬ en.RepeatSafe body s first mid last true := by
  intro hsafe
  have hlater := ((hsafe.answer_iff hj hfirst hlast).mp ⟨hpass, haccepted, hgrants⟩).2.1
  have hseen := seen_run hj hmid (seen_process_of_accepts hj hfirst hon haccepted)
  rw [run_cons, accepts_of_seen hj hseen] at hlater
  exact absurd hlater (by simp)

omit hmid hlast in
include hfirst in
/-- With the replay check off and no rollback, the detector does not refuse the frame the
second time. -/
theorem passing_of_off (hactive : en.detectorActive = true)
    (hoff : en.frameHandlerCfg.antiReplayEnabled = false)
    (hpass : en.refuses header (s.readers.getState header.readerId) = false)
    (hwraps : ¬ en.Wraps header (s.readers.getState header.readerId)) :
    en.Passing header (en.process body s first) := by
  have hreason : (en.verdict first.now s body).reason ≠ "replay" := by
    intro hreplay
    simpa [seen, hoff] using (hj.replay _ _ hreplay).2
  obtain ⟨-, hseq, hrefuses⟩ := passed_process hj hfirst hactive hpass hreason
  refine ⟨?_, hseq⟩
  rwa [← Bool.not_eq_true, hrefuses]

include hfirst in
theorem not_safe_of_clockChanged (hoff : en.frameHandlerCfg.antiReplayEnabled = false)
    (hpass : en.refuses header (s.readers.getState header.readerId) = false)
    (hwraps : en.detectorActive = true → ¬ en.Wraps header (s.readers.getState header.readerId))
    (hchanged : en.accepts body s first ≠ en.accepts body s last)
    (hgrants : en.Grants header payload) : ¬ en.RepeatSafe body s first mid last true := by
  intro hsafe
  have hiff := hsafe.answer_iff hj hfirst hlast
  have hpassing : en.refuses header
      ((run (en.process body) s (first :: mid)).readers.getState header.readerId) = false := by
    cases hactive : en.detectorActive with
    | false => simp [refuses, hactive]
    | true =>
      have hpassing := passing_of_off hj hfirst hactive hoff hpass (hwraps hactive)
      exact (passing_run hj hactive hoff hpassing hmid).1
  rw [accepts_of_off (s := s) hj hoff last] at hiff
  refine hchanged (Bool.eq_iff_iff.mpr ⟨fun haccepted => ?_, fun haccepted => ?_⟩)
  · exact (hiff.mp ⟨hpass, haccepted, hgrants⟩).2.1
  · exact (hiff.mpr ⟨hpassing, haccepted, hgrants⟩).2.1

include hfirst in
theorem not_safe_of_streakCleared (hoff : en.frameHandlerCfg.antiReplayEnabled = false)
    (hactive : en.detectorActive = true)
    (hpass : en.refuses header (s.readers.getState header.readerId) = false)
    (hwraps : ¬ en.Wraps header (s.readers.getState header.readerId))
    (hlate : en.AcceptedLate body s first (mid ++ [last]))
    (hstreak : (s.readers.getState header.readerId).consecutiveTagFails ≠ 0) :
    ¬ en.RepeatSafe body s first mid last answered := by
  obtain ⟨hdenied, env, henv, haccepts⟩ := hlate
  have hpassing : en.Passing header (en.process body s first) :=
    passing_of_off hj hfirst hactive hoff hpass hwraps
  have hzero := streak_of_late hj hactive hoff hpassing (noFault_rest hmid hlast) henv haccepts
  rw [← run_cons] at hzero
  have hfirst_streak : ((en.process body s first).readers.getState
      header.readerId).consecutiveTagFails ≠ 0 := by
    have hstate := getState_process_of_passes hj hfirst hactive hpass fun hreplay => by
      simpa [seen, hoff] using (hj.replay _ _ hreplay).2
    rw [hstate, hdenied, if_neg (by simp)]
    simpa using hstreak
  intro hsafe
  rcases hsafe.state with hsame | hsame
  · rw [hsame.readers] at hzero
    exact hstreak hzero
  · rw [hsame.readers] at hzero
    exact hfirst_streak hzero

include hfirst in
/-- Processing the bytes again is without effect except in the listed cases. -/
theorem repeated_safe_iff : en.RepeatSafe body s first mid last answered ↔
    ¬ en.Harmful body header payload s first (mid ++ [last]) last answered := by
  have hrest := noFault_rest hmid hlast
  constructor
  · intro hsafe hharm
    revert hsafe
    cases hharm with
    | recordedLate hon late => exact not_safe_of_recordedLate hj hfirst hmid hlast hon late
    | quarantined hon active pass accepted =>
      exact not_safe_of_quarantined hj hfirst hmid hlast hon active pass accepted
    | denied hon answer pass accepted grants =>
      subst answer
      exact not_safe_of_denied hj hfirst hmid hlast hon pass accepted grants
    | clockChanged off answer pass changed grants =>
      subst answer
      by_cases hwraps : en.detectorActive = true ∧
          en.Wraps header (s.readers.getState header.readerId)
      · refine not_safe_of_rollback hj hfirst hmid hlast hwraps.1 pass (fun hreplay => ?_) hwraps.2
        simpa [seen, off] using (hj.replay _ _ hreplay).2
      · exact not_safe_of_clockChanged hj hfirst hmid hlast off pass
          (fun active wraps => hwraps ⟨active, wraps⟩) changed grants
    | streakCleared off active pass late streak =>
      by_cases hwraps : en.Wraps header (s.readers.getState header.readerId)
      · refine not_safe_of_rollback hj hfirst hmid hlast active pass (fun hreplay => ?_) hwraps
        simpa [seen, off] using (hj.replay _ _ hreplay).2
      · exact not_safe_of_streakCleared hj hfirst hmid hlast off active pass hwraps late streak
    | rollback active pass known wraps =>
      exact not_safe_of_rollback hj hfirst hmid hlast active pass known wraps
  · intro hharm
    have hsame := sameState_run hj hfirst hrest hharm fun env henv => henv
    refine ⟨.inr hsame, fun hanswered r d t u hr hd => ?_, fun _ r hquar => ?_⟩
    · subst hanswered
      have hmid_same := sameState_run hj hfirst hrest hharm fun env (henv : env ∈ mid) => by
        simp [henv]
      rw [(returns_handleFrameBytes hr).answer, (returns_handleFrameBytes hd).answer]
      exact answer_again hj hfirst hharm (by simp) hmid_same
    · rw [Readers.isQuarantined_eq] at hquar ⊢
      rwa [run_cons, hsame.readers] at hquar

end

end AccessSecurity.Decision.Engine
