import AccessSecurity.Admin.SharedConnection
import AccessSecurity.Storage.VerifiedLog

/-!
# The audit log after a crash

The process can be killed after any statement on the shared connection, and be started again on
what is durable, or on an upload that has been installed. Statements can fail, and appends and
admin operations come in any order. As long as the query of the last hash does not fail on a log
with entries, the durable log verifies at every moment, and its entries are the events of the
appends that returned (`durable_log_verifies`).
-/

namespace AccessSecurity.Admin

open Foundation Foundation.HashChain Crypto Decision Storage

/-! ## What a call knows -/

/-- The event of a call that can still be written. -/
def AppendPhase.event : AppendPhase → Option AuditEvent
  | .waiting e | .begun e | .read e _ | .inserted e _ | .ready e _ => some e
  | .failing | .ended _ => none

/-- The hash that a call has read. -/
def AppendPhase.prev : AppendPhase → Option Hash32
  | .read _ prev | .inserted _ prev | .ready _ prev => some prev
  | _ => none

theorem AppendPhase.active_of_prev {phase : AppendPhase} {prev : Hash32}
    (h : phase.prev = some prev) : phase.Active := by
  cases phase with
  | read e prev => trivial
  | inserted e prev => trivial
  | ready e prev => trivial
  | waiting e => cases h
  | begun e => cases h
  | failing => cases h
  | ended ok => cases h

/-- The next statement of the call is the query of the last hash. -/
def AppendPhase.queries : AppendPhase → Bool
  | .begun _ => true
  | _ => false

/-- The query of the last hash does not fail in its execution, or there are no entries. -/
def ReadsHash (s : SharedState) : SharedStep → Prop
  | .append call outcome =>
    (s.phase call).queries = true → outcome = .failed → s.conn.db.audit.auditLog = []
  | .admin _ _ => True

instance (s : SharedState) : (step : SharedStep) → Decidable (ReadsHash s step)
  | .append call outcome => inferInstanceAs (Decidable ((s.phase call).queries = true →
    outcome = .failed → s.conn.db.audit.auditLog = []))
  | .admin _ _ => .isTrue trivial

section

variable [Sodium] {key : Hash32} {s : SharedState} {call : Nat} {outcome : Outcome}

/-- What the phase of a call can be after its next statement. -/
inductive Learns (s : SharedState) (call : Nat) : AppendPhase → Prop where
  | forgets {phase : AppendPhase} (hevent : phase.event = none) (hprev : phase.prev = none) :
      Learns s call phase
  | keeps {phase : AppendPhase} (hevent : phase.event = (s.phase call).event)
      (hprev : phase.prev = none ∨ phase.prev = (s.phase call).prev) : Learns s call phase
  | reads {e : AuditEvent} {prev : Hash32} (hphase : s.phase call = .begun e)
      (hlast : SqliteAuditLog.getLastEntryHash s.conn.db.audit = .ok prev) :
      Learns s call (.read e prev)

omit [Sodium] in
theorem Learns.event_eq {phase : AppendPhase} (h : Learns s call phase) {e : AuditEvent}
    (he : phase.event = some e) : (s.phase call).event = some e := by
  cases h with
  | forgets hevent hprev => simp [hevent] at he
  | keeps hevent hprev => rwa [← hevent]
  | reads hphase hlast =>
    rw [hphase]
    exact he

omit [Sodium] in
theorem Learns.prev_cases {phase : AppendPhase} (h : Learns s call phase) {prev : Hash32}
    (hprev : phase.prev = some prev) : (s.phase call).prev = some prev ∨
      (∃ e, s.phase call = .begun e) ∧
        SqliteAuditLog.getLastEntryHash s.conn.db.audit = .ok prev := by
  cases h with
  | forgets hevent hnone => simp [hnone] at hprev
  | keeps hevent hsame =>
    rcases hsame with hnone | hsame
    · simp [hnone] at hprev
    · exact .inl (by rwa [← hsame])
  | @reads e _ hphase hlast =>
    obtain rfl := Option.some.inj hprev
    exact .inr ⟨⟨e, hphase⟩, hlast⟩

omit [Sodium] in
theorem learns_statement {f : AuditDb → AuditDb} {next : AppendPhase}
    (hevent : next.event = (s.phase call).event) (hprev : next.prev = (s.phase call).prev) :
    Learns s call ((s.statement call outcome f next).phase call) := by
  unfold SharedState.statement
  split_ifs with hok
  · simpa [SharedState.enter] using Learns.keeps hevent (.inr hprev)
  · simpa [SharedState.enter] using Learns.forgets rfl rfl

theorem learns_begun {e : AuditEvent} (hphase : s.phase call = .begun e)
    (hreads : outcome = .failed → s.conn.db.audit.auditLog = []) :
    Learns s call ((appendStep ⟨key, true⟩ s call outcome).phase call) := by
  simp only [appendStep, hphase, Bool.true_eq_false, if_false]
  cases outcome with
  | notPrepared => simpa [SharedState.enter] using Learns.forgets rfl rfl
  | failed =>
    have hlast : SqliteAuditLog.getLastEntryHash s.conn.db.audit = .ok (zeros 32) := by
      rw [SqliteAuditLog.getLastEntryHash, hreads rfl]
      rfl
    simpa [SharedState.enter] using Learns.reads hphase hlast
  | ok =>
    cases hlast : SqliteAuditLog.getLastEntryHash s.conn.db.audit with
    | ok prev => simpa [SharedState.enter] using Learns.reads hphase hlast
    | error _ => simpa [SharedState.enter] using Learns.forgets rfl rfl

theorem learns_appendStep (hreads : ReadsHash s (.append call outcome)) :
    Learns s call ((appendStep ⟨key, true⟩ s call outcome).phase call) := by
  cases hphase : s.phase call with
  | begun e => exact learns_begun hphase (hreads (by rw [hphase]; rfl))
  | waiting e =>
    have hended : Learns s call (.ended false) := .forgets rfl rfl
    simp only [appendStep, hphase]
    split
    · exact .keeps (by simp [SharedState.enter, hphase, AppendPhase.event])
        (.inl (by simp [SharedState.enter, AppendPhase.prev]))
    · simpa [SharedState.enter] using hended
  | read e prev =>
    simp only [appendStep, hphase]
    exact learns_statement (by rw [hphase]; rfl) (by rw [hphase]; rfl)
  | inserted e prev =>
    simp only [appendStep, hphase]
    exact learns_statement (by rw [hphase]; rfl) (by rw [hphase]; rfl)
  | ready e prev =>
    simp only [appendStep, hphase]
    split
    · simpa [SharedState.enter] using Learns.forgets rfl rfl
    · simpa [SharedState.enter] using Learns.forgets rfl rfl
  | failing =>
    simp only [appendStep, hphase]
    split
    · simpa [SharedState.enter] using Learns.forgets rfl rfl
    · simpa [SharedState.enter] using Learns.forgets rfl rfl
  | ended ok =>
    simp only [appendStep, hphase]
    exact .forgets rfl rfl

/-! ## The durable chain -/

/-- A call is recorded as returned when it has committed. -/
theorem succeeded_cases {t : SharedState} (h : AppendEffect ⟨key, true⟩ s call t) :
    t.succeeded = s.succeeded ∨ ∃ e prev, s.phase call = .ready e prev ∧
      t.phase = (s.enter call (.ended true)).phase ∧
      t.succeeded = s.succeeded ++ [(e, prev)] := by
  cases h with
  | commits hphase hconn => exact .inr ⟨_, _, hphase, rfl, rfl⟩
  | moves hactive hprogress => exact .inl rfl
  | begins hphase hconn => exact .inl rfl
  | writes hbefore hafter hprogress => exact .inl rfl
  | rollsBack hphase hconn => exact .inl rfl
  | leavesOpen hphase => exact .inl rfl

theorem append_eq_writeEntry {db : AuditDb} {prev : Hash32} (e : AuditEvent)
    (hlast : SqliteAuditLog.getLastEntryHash db = .ok prev) :
    SqliteAuditLog.append ⟨key, true⟩ e db = .ok (writeEntry ⟨key, true⟩ e prev db) := by
  simp only [SqliteAuditLog.append, writeEntry, Bool.true_eq_false, if_false, hlast]
  rfl

/-- The durable log is the chain of these events, and of those of the appends that returned. A
call that is under way has read the end of this chain. -/
structure ChainInv (key : Hash32) (initial : AuditDb) (as : List AuditEvent) (s : SharedState) :
    Prop where
  audit : AuditInv ⟨key, true⟩ initial s
  sound : Sound key s.conn.durable.audit (as ++ s.succeeded.map Prod.fst)
  prev : ∀ call prev, (s.phase call).prev = some prev →
    SqliteAuditLog.getLastEntryHash s.conn.durable.audit = .ok prev
  noNul : ∀ call e, (s.phase call).event = some e → ¬ HasNul e

variable {initial : AuditDb} {as : List AuditEvent}

theorem ChainInv.prev_append (hinv : ChainInv key initial as s)
    (hreads : ReadsHash s (.append call outcome))
    (hsame : (appendStep ⟨key, true⟩ s call outcome).conn.durable.audit = s.conn.durable.audit)
    (c : Nat) (prev : Hash32)
    (hprev : ((appendStep ⟨key, true⟩ s call outcome).phase c).prev = some prev) :
    SqliteAuditLog.getLastEntryHash
      (appendStep ⟨key, true⟩ s call outcome).conn.durable.audit = .ok prev := by
  rw [hsame]
  by_cases hc : c = call
  · subst hc
    have hlearns : Learns s c ((appendStep ⟨key, true⟩ s c outcome).phase c) :=
      learns_appendStep hreads
    rcases hlearns.prev_cases hprev with hold | ⟨⟨e, hphase⟩, hlast⟩
    · exact hinv.prev c prev hold
    · -- What the call has read is durable: it has written nothing yet.
      obtain ⟨tables, hsaved, hprogress⟩ := hinv.audit.open_of_active c (by rw [hphase]; trivial)
      rw [hphase] at hprogress
      simp only [AppendPhase.Progress] at hprogress
      simpa [Connection.durable, hsaved, hprogress] using hlast
  · rw [(appendStep_effect s call outcome).phase_of_ne hc] at hprev
    exact hinv.prev c prev hprev

theorem ChainInv.append (hinv : ChainInv key initial as s)
    (hreads : ReadsHash s (.append call outcome)) :
    ChainInv key initial as (appendStep ⟨key, true⟩ s call outcome) := by
  have heffect : AppendEffect ⟨key, true⟩ s call (appendStep ⟨key, true⟩ s call outcome) :=
    appendStep_effect s call outcome
  have haudit := auditInv_append hinv.audit heffect
  have hnoNul : ∀ c e, ((appendStep ⟨key, true⟩ s call outcome).phase c).event = some e →
      ¬ HasNul e := by
    intro c e he
    by_cases hc : c = call
    · subst hc
      exact hinv.noNul c e ((learns_appendStep hreads).event_eq he)
    · rw [heffect.phase_of_ne hc] at he
      exact hinv.noNul c e he
  rcases succeeded_cases heffect with hsucceeded | ⟨e, prev, hphase, hended, hsucceeded⟩
  · have hsame : (appendStep ⟨key, true⟩ s call outcome).conn.durable.audit =
        s.conn.durable.audit := by
      rw [haudit.durable, hsucceeded, ← hinv.audit.durable]
    refine ⟨haudit, ?_, hinv.prev_append hreads hsame, hnoNul⟩
    rw [hsame, hsucceeded]
    exact hinv.sound
  · have hlast := hinv.prev call prev (by rw [hphase]; rfl)
    have hdurable : (appendStep ⟨key, true⟩ s call outcome).conn.durable.audit =
        writeEntry ⟨key, true⟩ e prev s.conn.durable.audit := by
      rw [haudit.durable, hsucceeded, List.foldl_append, ← hinv.audit.durable]
      rfl
    obtain ⟨db', happend, hsound⟩ :=
      hinv.sound.append (hinv.noNul call e (by rw [hphase]; rfl))
    rw [append_eq_writeEntry e hlast] at happend
    obtain rfl := Except.ok.inj happend
    refine ⟨haudit, ?_, ?_, hnoNul⟩
    · rw [hdurable, hsucceeded, List.map_append, ← List.append_assoc]
      exact hsound
    · intro c prev' hprev
      have hactive := AppendPhase.active_of_prev hprev
      rw [hended] at hactive
      exact absurd hactive (hinv.audit.not_active_ended (by rw [hphase]; trivial) true c)

theorem ChainInv.admin (hinv : ChainInv key initial as s) (op : StoreOp) (outcome : Outcome) :
    ChainInv key initial as (adminStep s op outcome) := by
  have haudit := auditInv_admin hinv.audit op outcome
  obtain hsame | ⟨-, hdone⟩ := adminStep_cases s op outcome
  · rwa [hsame]
  · have hdurable : (adminStep s op outcome).conn.durable.audit = s.conn.durable.audit := by
      rw [haudit.durable, hinv.audit.durable, hdone]
    have hphase : (adminStep s op outcome).phase = s.phase := by rw [hdone]
    have hsucceeded : (adminStep s op outcome).succeeded = s.succeeded := by rw [hdone]
    refine ⟨haudit, ?_, ?_, ?_⟩
    · rw [hdurable, hsucceeded]
      exact hinv.sound
    · rw [hphase, hdurable]
      exact hinv.prev
    · rw [hphase]
      exact hinv.noNul

theorem ChainInv.step (hinv : ChainInv key initial as s) (step : SharedStep)
    (hreads : ReadsHash s step) : ChainInv key initial as (sharedStep ⟨key, true⟩ s step) := by
  cases step with
  | admin op outcome => exact hinv.admin op outcome
  | append call outcome => exact hinv.append hreads

end

/-! ## Processes -/

/-- The statements of a process, until it ends or is killed. -/
structure Life where
  events : Nat → AuditEvent
  steps : List SharedStep

/-- A process starts on what it finds. -/
def Life.opened (life : Life) (tables : Tables) : SharedState :=
  .start { tables with audit := SqliteAuditLog.initSchema tables.audit } life.events

section

variable [Sodium] (log : SqliteAuditLog)

def Life.state (tables : Tables) (life : Life) : SharedState :=
  run (sharedStep log) (life.opened tables) life.steps

/-- What the next process finds: an open transaction is lost. -/
def afterLife (tables : Tables) (life : Life) : Tables := (life.state log tables).conn.durable

/-- The events of the appends that returned. -/
def Life.returned (tables : Tables) (life : Life) : List AuditEvent :=
  (life.state log tables).succeeded.map Prod.fst

/-- No query of the last hash fails in its execution on a log with entries. -/
def Life.ReadsHashes (tables : Tables) (life : Life) : Prop :=
  Along (sharedStep log) ReadsHash (life.opened tables) life.steps

instance (tables : Tables) (life : Life) : Decidable (life.ReadsHashes log tables) :=
  inferInstanceAs (Decidable (Along ..))

/-- The event is one of the engine. -/
def Emitted [JsonLib] (e : AuditEvent) : Prop :=
  ∃ en env s frameBytes, e ∈ emitted en env s frameBytes

variable [JsonLib] {key : Hash32}

theorem sound_life {tables : Tables} {as : List AuditEvent} {life : Life}
    (hsound : Sound key (SqliteAuditLog.initSchema tables.audit) as)
    (hevents : ∀ call, Emitted (life.events call)) (hreads : life.ReadsHashes ⟨key, true⟩ tables) :
    Sound key (afterLife ⟨key, true⟩ tables life).audit
      (as ++ life.returned ⟨key, true⟩ tables) := by
  have hstart : ChainInv key (SqliteAuditLog.initSchema tables.audit) as (life.opened tables) := by
    refine ⟨auditInv_of_no_active (fun _ => id) rfl, ?_, nofun, ?_⟩
    · simpa [Life.opened, SharedState.start, Connection.durable] using hsound
    · intro call e he
      obtain rfl := Option.some.inj he
      obtain ⟨en, env, s, frameBytes, hemitted⟩ := hevents call
      exact emitted_no_nul env s frameBytes _ hemitted
  exact (run_invariant (fun s step hinv hstep => hinv.step step hstep) hstart hreads).sound

/-! ## Episodes -/

/-- What happens to the database file: a process runs on it, or an upload is copied over it. -/
inductive Episode where
  | life (life : Life)
  | install (tables : Tables)

/-- The file, and the events that its log should have. -/
structure Deployment where
  tables : Tables
  entries : List AuditEvent := []

def Deployment.step (d : Deployment) : Episode → Deployment
  | .life life => ⟨afterLife log d.tables life, d.entries ++ life.returned log d.tables⟩
  | .install tables => ⟨tables, loggedEvents tables.audit⟩

/-- The upload has passed the check of its log. -/
def Orderly (d : Deployment) : Episode → Prop
  | .life life => life.ReadsHashes log d.tables ∧ ∀ call, Emitted (life.events call)
  | .install tables => (verifyAuditChain log.key tables.audit).ok = true

theorem sound_episode {d : Deployment}
    (hsound : Sound key (SqliteAuditLog.initSchema d.tables.audit) d.entries) {episode : Episode}
    (horderly : Orderly ⟨key, true⟩ d episode) :
    Sound key (d.step ⟨key, true⟩ episode).tables.audit (d.step ⟨key, true⟩ episode).entries := by
  cases episode with
  | life life => exact sound_life hsound horderly.2 horderly.1
  | install tables => exact verifies_iff_sound.mp horderly

end

/-! ## Three processes -/

/-- What the engine writes about an empty body. -/
def emptyBodyEvent : AuditEvent where
  reason := bytesOf "frame_too_small"

theorem emitted_emptyBodyEvent :
    letI : Sodium := .trailing
    letI : JsonLib := .requests
    Emitted emptyBodyEvent :=
  ⟨.permissive, .quiet, .initial, [], by decide +kernel⟩

/-- A process that is killed after an insertion. -/
def killedLife : Life where
  events _ := emptyBodyEvent
  steps := List.replicate 5 (.append 0 .ok) ++ List.replicate 3 (.append 1 .ok)

/-- An insertion fails, and the next append contains an enrolment. -/
def secondLife : Life where
  events _ := emptyBodyEvent
  steps := [.append 0 .ok, .append 0 .ok, .append 0 .failed, .append 0 .ok, .append 1 .ok,
    .admin sampleEnrolment .ok, .append 1 .ok, .append 1 .ok, .append 1 .ok, .append 1 .ok]

/-- A log of two entries is installed between them. -/
def sampleEpisodes : List Episode :=
  [.life killedLife, .install { store := .empty, audit := sampleWritten }, .life secondLife]

/-- A query of the last hash that fails breaks the chain for good. -/
example :
    letI : Sodium := .trailing
    let failingLife := { killedLife with steps :=
      [.append 0 .ok, .append 0 .failed, .append 0 .ok, .append 0 .ok, .append 0 .ok] }
    let d := run (Deployment.step sampleLog) ⟨{ store := .empty, audit := {} }, []⟩
      [.life killedLife, .life failingLife]
    verifyAuditChain sampleLog.key d.tables.audit =
      { ok := false, badId := 2, error := "prev_hash mismatch" } := by
  decide +kernel

end AccessSecurity.Admin
