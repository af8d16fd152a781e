import AccessSecurity.Decision.Quarantine
import AccessSecurity.Foundation.Run

/-!
# Lifting a quarantine

`unquarantineReader` of `readers_service.cpp`, and the machine whose commands are frames
and liftings. A quarantine record never changes until it is lifted, and until then every
frame of the reader is denied (`quarantine_until_lifted`).
-/

namespace AccessSecurity.Decision.Engine

open Foundation Protocol Crypto Core

/-- `admin::service::unquarantineReader`: the error of the failed request, if any. -/
def unquarantineReader (en : Engine) (nowUnixMs : UInt64) (readerId : UInt32) :
    EngineM (Option String) := do
  if en.detectorActive = false then
    return some "misuse_detection_disabled"
  else
    let (was, readers) := (← get).readers.unquarantine readerId
    modify fun s => { s with readers }
    if was = false then return some "not_quarantined"
    else
      en.push {
        tsUnixMs := nowUnixMs
        kind := "admin"
        message := bytesOf "unquarantine"
        readerId }
      return none

inductive Command where
  | frame (env : Env) (frameBytes : Bytes)
  | unquarantine (nowUnixMs : UInt64) (readerId : UInt32)

/-- The command lifts the quarantine of the reader. -/
def Command.Lifts (readerId : UInt32) : Command → Prop
  | .frame _ _ => False
  | .unquarantine _ r => r = readerId

/-- A call that throws leaves the state it has reached. -/
def step [Sodium] [JsonLib] (en : Engine) (s : EngineState) : Command → EngineState
  | .frame env frameBytes => after (en.handleFrameBytes env frameBytes) s
  | .unquarantine nowUnixMs readerId => after (en.unquarantineReader nowUnixMs readerId) s

/-- Lifting one quarantine leaves the state of every other reader alone. -/
theorem readers_unquarantineReader (en : Engine) (nowUnixMs : UInt64) {r q : UInt32} (h : q ≠ r)
    (s : EngineState) : (after (en.unquarantineReader nowUnixMs r) s).readers q = s.readers q := by
  have hlog : ∀ t u : EngineState, SameControl t u → t.readers q = s.readers q →
      u.readers q = s.readers q := by
    intro t u hsame ht
    rw [hsame.2, ht]
  have hkeeps : Keeps (fun t => t.readers q = s.readers q) (en.unquarantineReader nowUnixMs r) := by
    unfold unquarantineReader
    split
    · exact keeps_pure _
    · refine keeps_get_bind fun t ht => keeps_bind (keeps_modify ?_) fun _ => ?_
      · intro u hu
        rw [← ht]
        exact Readers.unquarantine_of_ne _ h
      · split_ifs
        · exact keeps_pure _
        · exact keeps_bind (push_keeps hlog en _) fun _ => keeps_pure _
  exact hkeeps s rfl

section

variable [Sodium] [JsonLib] {en : Engine} (hactive : en.detectorActive = true)

include hactive in
theorem step_keeps {readerId : UInt32} {state : ReaderState}
    (hstate : state.quarantine.isSome = true) {s : EngineState} {c : Command}
    (hc : ¬ c.Lifts readerId) (hs : s.readers readerId = some state) :
    (en.step s c).readers readerId = some state := by
  cases c with
  | frame env frameBytes => exact handleFrameBytes_keeps hactive hstate env frameBytes s hs
  | unquarantine nowUnixMs r =>
    rw [step, readers_unquarantineReader en nowUnixMs (Ne.symm hc), hs]

include hactive in
/-- From any state in which a reader is in quarantine, as long as no command lifts it: the
record stays as it is, and every call that returns for a frame of the reader denies it.
Lifting the quarantine of one reader changes the state of no other. -/
theorem quarantine_until_lifted {s : EngineState} {readerId : UInt32} {info : QuarantineInfo}
    (hinfo : s.readers.quarantineInfo readerId = some info) {commands : List Command}
    (hcommands : ∀ c ∈ commands, ¬ c.Lifts readerId) :
    (∀ pre, pre <+: commands →
      (run en.step s pre).readers.quarantineInfo readerId = some info) ∧
    (∀ pre env frameBytes frame r t, pre ++ [.frame env frameBytes] <+: commands →
      parseFrame frameBytes en.frameHandlerCfg.maxCtLen = .ok frame →
      frame.header.readerId = readerId →
      Returns (en.handleFrameBytes env frameBytes) (run en.step s pre) r t →
      r = createDeniedResult "quarantined") ∧
    ∀ nowUnixMs q r t, q ≠ r → (en.step t (.unquarantine nowUnixMs r)).readers q = t.readers q := by
  obtain ⟨state, hstate, hrecord⟩ : ∃ state, s.readers readerId = some state ∧
      state.quarantine = some info := by
    unfold Readers.quarantineInfo at hinfo
    split at hinfo
    · simp at hinfo
    · rename_i state hstate
      exact ⟨state, hstate, hinfo⟩
  have hkept : ∀ pre, pre <+: commands →
      (run en.step s pre).readers.quarantineInfo readerId = some info := by
    intro pre hpre
    have hrun : (run en.step s pre).readers readerId = some state := by
      refine run_preserves (I := fun t : EngineState => t.readers readerId = some state)
        (fun t c hc ht => ?_) (fun c hc => hcommands c (hpre.subset hc)) hstate
      exact step_keeps hactive (by simp [hrecord]) hc ht
    simp [Readers.quarantineInfo, hrun, hrecord]
  refine ⟨hkept, ?_, fun nowUnixMs q r t h => readers_unquarantineReader en nowUnixMs h t⟩
  intro pre env frameBytes frame r t hpre hparse hreader h
  have hquar : (run en.step s pre).readers.isQuarantined frame.header.readerId = true := by
    rw [hreader, Readers.isQuarantined_iff]
    exact ⟨info, hkept pre ((List.prefix_append _ _).trans hpre)⟩
  exact denied_of_isQuarantined hactive hparse hquar h

end

/-- Reader 7 is in quarantine, and frames in its name keep arriving. -/
theorem quarantine_until_lifted_knock :
    letI : Sodium := .transparent
    letI : JsonLib := .requests
    ∃ t, Returns (permissive.handleFrameBytes .quiet (serialize knock))
      (run permissive.step locked [.frame .quiet (serialize knock), .unquarantine 0 8])
      (createDeniedResult "quarantined") t := by
  let _ : Sodium := .transparent
  let _ : JsonLib := .requests
  have hactive : permissive.detectorActive = true := rfl
  have hinfo : locked.readers.quarantineInfo 7 = some ⟨0, .seqReuse, "seq=1"⟩ := rfl
  let commands : List Command :=
    [.frame .quiet (serialize knock), .unquarantine 0 8, .frame .quiet (serialize knock)]
  have hcommands : ∀ c ∈ commands, ¬ c.Lifts 7 := by
    simp [commands, Command.Lifts]
  obtain ⟨-, hdenied, -⟩ := quarantine_until_lifted hactive hinfo hcommands
  obtain ⟨r, t, h⟩ := handleFrameBytes_total permissive Env.quiet_noFault (serialize knock)
    (run permissive.step locked [.frame .quiet (serialize knock), .unquarantine 0 8])
  have hr := hdenied _ _ _ knock r t (List.prefix_refl _) (by decide +kernel) rfl h
  exact ⟨t, hr ▸ h⟩

end AccessSecurity.Decision.Engine
