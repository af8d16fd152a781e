import AccessSecurity.Foundation.Run
import AccessSecurity.Foundation.Transaction
import AccessSecurity.Storage.AccessStore

/-!
# The connection that the store and the audit log share

`SqliteAuditLog::append` runs a transaction on the connection of the access store. Its
statements and those of the admin operations, which run under another mutex, come in any
order, and each can fail. An append always adds its row or nothing. An admin operation that
has reported success is undone when it falls into the transaction of an append that is rolled
back (`committed_kept`, `admin_change_lost`).
-/

namespace AccessSecurity.Admin

open Foundation Crypto Decision Storage

/-- The tables behind the connection. -/
structure Tables where
  store : AccessDb
  audit : AuditDb

/-- How a statement ends. -/
inductive Outcome where
  | ok
  | notPrepared
  | failed
  deriving DecidableEq, Repr

/-- Where a call of `append` stands; `prev` is the last hash it has read. -/
inductive AppendPhase where
  | waiting (e : AuditEvent)
  | begun (e : AuditEvent)
  | read (e : AuditEvent) (prev : Hash32)
  | inserted (e : AuditEvent) (prev : Hash32)
  | ready (e : AuditEvent) (prev : Hash32)
  | failing
  | ended (ok : Bool)

/-- The call is between its `BEGIN` and its end. -/
def AppendPhase.Active : AppendPhase → Prop
  | .waiting _ => False
  | .ended _ => False
  | _ => True

/-- The admin operations that reported success and the appends that returned, in order. -/
structure SharedState where
  conn : Connection Tables
  phase : Nat → AppendPhase
  reported : List StoreOp := []
  succeeded : List (AuditEvent × Hash32) := []

def SharedState.enter (s : SharedState) (call : Nat) (phase : AppendPhase) : SharedState :=
  { s with phase := Function.update s.phase call phase }

def onAudit (f : AuditDb → AuditDb) (tables : Tables) : Tables :=
  { tables with audit := f tables.audit }

/-- A statement that changes the audit tables; when it fails the handler is next. -/
def SharedState.statement (s : SharedState) (call : Nat) (outcome : Outcome)
    (f : AuditDb → AuditDb) (next : AppendPhase) : SharedState :=
  if outcome = .ok then { s.enter call next with conn := s.conn.exec (onAudit f) }
  else s.enter call .failing

section

variable [Sodium] (log : SqliteAuditLog)

/-- The tables after an append that has read `prev`. -/
def writeEntry (e : AuditEvent) (prev : Hash32) (db : AuditDb) : AuditDb :=
  if log.chainEnabled = false then SqliteAuditLog.insertAuditEntry e (zeros 32) (zeros 32) db
  else
    let entry := computeEntryHash log.key prev e
    SqliteAuditLog.updateAnchor entry e.tsUnixMs (SqliteAuditLog.insertAuditEntry e prev entry db)

/-- The next statement of a call. `BEGIN` is outside of the block that rolls back, and a query
of the last hash that fails after it was prepared counts as one of an empty log. -/
def appendStep (s : SharedState) (call : Nat) (outcome : Outcome) : SharedState :=
  match s.phase call with
  | .waiting e =>
    match outcome, s.conn.begin with
    | .ok, some conn => { s.enter call (.begun e) with conn }
    | _, _ => s.enter call (.ended false)
  | .begun e =>
    if log.chainEnabled = false then
      s.statement call outcome (SqliteAuditLog.insertAuditEntry e (zeros 32) (zeros 32))
        (.ready e (zeros 32))
    else
      match outcome with
      | .notPrepared => s.enter call .failing
      | .failed => s.enter call (.read e (zeros 32))
      | .ok =>
        match SqliteAuditLog.getLastEntryHash s.conn.db.audit with
        | .ok prev => s.enter call (.read e prev)
        | .error _ => s.enter call .failing
  | .read e prev =>
    s.statement call outcome
      (SqliteAuditLog.insertAuditEntry e prev (computeEntryHash log.key prev e)) (.inserted e prev)
  | .inserted e prev =>
    s.statement call outcome
      (SqliteAuditLog.updateAnchor (computeEntryHash log.key prev e) e.tsUnixMs) (.ready e prev)
  | .ready e prev =>
    match outcome, s.conn.commit with
    | .ok, some conn =>
      { s.enter call (.ended true) with conn, succeeded := s.succeeded ++ [(e, prev)] }
    | _, _ => s.enter call .failing
  | .failing =>
    match outcome, s.conn.rollback with
    | .ok, some conn => { s.enter call (.ended false) with conn }
    | _, _ => s.enter call (.ended false)
  | .ended _ => s

/-- An admin operation is one statement. -/
def adminStep (s : SharedState) (op : StoreOp) (outcome : Outcome) : SharedState :=
  match outcome, op.exec s.conn.db.store with
  | .ok, .ok _ =>
    { s with
      conn := s.conn.exec fun tables => { tables with store := op.step tables.store }
      reported := s.reported ++ [op] }
  | _, _ => s

inductive SharedStep where
  | admin (op : StoreOp) (outcome : Outcome)
  | append (call : Nat) (outcome : Outcome)
  deriving DecidableEq, Repr

def sharedStep (s : SharedState) : SharedStep → SharedState
  | .admin op outcome => adminStep s op outcome
  | .append call outcome => appendStep log s call outcome

/-! ## What a step of an append can do -/

/-- How the audit tables that a call sees differ from those before its transaction. -/
def AppendPhase.Progress : AppendPhase → AuditDb → AuditDb → Prop
  | .waiting _, _, _ => False
  | .begun _, saved, db => db = saved
  | .read _ _, saved, db => db = saved ∧ log.chainEnabled = true
  | .inserted e prev, saved, db =>
    db = SqliteAuditLog.insertAuditEntry e prev (computeEntryHash log.key prev e) saved ∧
      log.chainEnabled = true
  | .ready e prev, saved, db => db = writeEntry log e prev saved
  | .failing, _, _ => True
  | .ended _, _, _ => False

/-- The six kinds of steps. -/
inductive AppendEffect (s : SharedState) (call : Nat) : SharedState → Prop where
  | moves {phase : AppendPhase} (hactive : phase.Active ↔ (s.phase call).Active)
      (hprogress : ∀ saved, (s.phase call).Progress log saved s.conn.db.audit →
        phase.Progress log saved s.conn.db.audit) : AppendEffect s call (s.enter call phase)
  | begins {e : AuditEvent} {conn : Connection Tables} (hphase : s.phase call = .waiting e)
      (hconn : s.conn.begin = some conn) :
      AppendEffect s call { s.enter call (.begun e) with conn }
  | writes {f : AuditDb → AuditDb} {phase : AppendPhase} (hbefore : (s.phase call).Active)
      (hafter : phase.Active)
      (hprogress : ∀ saved, (s.phase call).Progress log saved s.conn.db.audit →
        phase.Progress log saved (f s.conn.db.audit)) :
      AppendEffect s call { s.enter call phase with conn := s.conn.exec (onAudit f) }
  | commits {e : AuditEvent} {prev : Hash32} {conn : Connection Tables}
      (hphase : s.phase call = .ready e prev) (hconn : s.conn.commit = some conn) :
      AppendEffect s call
        { s.enter call (.ended true) with conn, succeeded := s.succeeded ++ [(e, prev)] }
  | rollsBack {conn : Connection Tables} (hphase : s.phase call = .failing)
      (hconn : s.conn.rollback = some conn) :
      AppendEffect s call { s.enter call (.ended false) with conn }
  | leavesOpen (hphase : s.phase call = .failing) :
      AppendEffect s call (s.enter call (.ended false))

variable {log}

/-- The handler is entered from a call that is active. -/
theorem failing_effect {s : SharedState} {call : Nat} (hactive : (s.phase call).Active) :
    AppendEffect log s call (s.enter call .failing) :=
  .moves ⟨fun _ => hactive, fun _ => trivial⟩ fun _ _ => trivial

theorem statement_effect {s : SharedState} {call : Nat} {outcome : Outcome}
    {f : AuditDb → AuditDb} {next : AppendPhase} (hbefore : (s.phase call).Active)
    (hafter : next.Active)
    (hprogress : ∀ saved, (s.phase call).Progress log saved s.conn.db.audit →
      next.Progress log saved (f s.conn.db.audit)) :
    AppendEffect log s call (s.statement call outcome f next) := by
  unfold SharedState.statement
  by_cases hok : outcome = .ok
  · rw [if_pos hok]
    exact .writes hbefore hafter hprogress
  · rw [if_neg hok]
    exact failing_effect hbefore

/-- A call that is not in a transaction ends without one. -/
theorem ended_effect {s : SharedState} {call : Nat} (hidle : ¬ (s.phase call).Active)
    (hprogress : ∀ saved, ¬ (s.phase call).Progress log saved s.conn.db.audit) (ok : Bool) :
    AppendEffect log s call (s.enter call (.ended ok)) :=
  .moves (iff_of_false id hidle) fun saved h => (hprogress saved h).elim

theorem begun_effect {s : SharedState} {call : Nat} {e : AuditEvent}
    (hphase : s.phase call = .begun e) (outcome : Outcome) :
    AppendEffect log s call (appendStep log s call outcome) := by
  have hactive : (s.phase call).Active := by rw [hphase]; trivial
  simp only [appendStep, hphase]
  by_cases hchain : log.chainEnabled = false
  · rw [if_pos hchain]
    refine statement_effect hactive trivial ?_
    rw [hphase]
    rintro saved hdb
    simp only [AppendPhase.Progress] at hdb
    simp [AppendPhase.Progress, writeEntry, hchain, hdb]
  · rw [if_neg hchain]
    have hread : ∀ prev, AppendEffect log s call (s.enter call (.read e prev)) := by
      intro prev
      refine .moves ⟨fun _ => hactive, fun _ => trivial⟩ ?_
      rw [hphase]
      exact fun saved hdb => ⟨hdb, by simpa using hchain⟩
    cases outcome with
    | notPrepared => exact failing_effect hactive
    | failed => exact hread _
    | ok =>
      cases SqliteAuditLog.getLastEntryHash s.conn.db.audit with
      | ok prev => exact hread prev
      | error _ => exact failing_effect hactive

theorem appendStep_effect (s : SharedState) (call : Nat) (outcome : Outcome) :
    AppendEffect log s call (appendStep log s call outcome) := by
  cases hphase : s.phase call with
  | begun e => exact begun_effect hphase outcome
  | waiting e =>
    simp only [appendStep, hphase]
    have hended : AppendEffect log s call (s.enter call (.ended false)) := by
      apply ended_effect
      · rw [hphase]
        exact id
      · rw [hphase]
        exact fun _ => id
    cases outcome with
    | ok =>
      cases hconn : s.conn.begin with
      | none => exact hended
      | some conn => exact .begins hphase hconn
    | notPrepared => exact hended
    | failed => exact hended
  | read e prev =>
    simp only [appendStep, hphase]
    refine statement_effect (by rw [hphase]; trivial) trivial ?_
    rw [hphase]
    rintro saved ⟨hdb, hchain⟩
    exact ⟨by rw [hdb], hchain⟩
  | inserted e prev =>
    simp only [appendStep, hphase]
    refine statement_effect (by rw [hphase]; trivial) trivial ?_
    rw [hphase]
    rintro saved ⟨hdb, hchain⟩
    simp [AppendPhase.Progress, writeEntry, hchain, hdb]
  | ready e prev =>
    simp only [appendStep, hphase]
    have hfailing : AppendEffect log s call (s.enter call .failing) :=
      failing_effect (by rw [hphase]; trivial)
    cases outcome with
    | ok =>
      cases hconn : s.conn.commit with
      | none => exact hfailing
      | some conn => exact .commits hphase hconn
    | notPrepared => exact hfailing
    | failed => exact hfailing
  | failing =>
    simp only [appendStep, hphase]
    cases outcome with
    | ok =>
      cases hconn : s.conn.rollback with
      | none => exact .leavesOpen hphase
      | some conn => exact .rollsBack hphase hconn
    | notPrepared => exact .leavesOpen hphase
    | failed => exact .leavesOpen hphase
  | ended ok =>
    have hsame : s.enter call (.ended ok) = s := by
      unfold SharedState.enter
      rw [← hphase, Function.update_eq_self]
    have hended : AppendEffect log s call (s.enter call (.ended ok)) := by
      apply ended_effect
      · rw [hphase]
        exact id
      · rw [hphase]
        exact fun _ => id
    simp only [appendStep, hphase]
    rwa [hsame] at hended

/-! ## The audit tables -/

/-- At most one call is in a transaction, and the audit tables it sees differ from the durable
ones by what it has written. What is durable are the entries of the calls that returned. -/
structure AuditInv (log : SqliteAuditLog) (initial : AuditDb) (s : SharedState) : Prop where
  single : ∀ call call', (s.phase call).Active → (s.phase call').Active → call = call'
  open_of_active : ∀ call, (s.phase call).Active → ∃ tables, s.conn.saved = some tables ∧
    (s.phase call).Progress log tables.audit s.conn.db.audit
  durable : s.conn.durable.audit =
    s.succeeded.foldl (fun db entry => writeEntry log entry.1 entry.2 db) initial

omit [Sodium] in
theorem active_enter {s : SharedState} {call c : Nat} {phase : AppendPhase} :
    ((s.enter call phase).phase c).Active ↔
      (c = call ∧ phase.Active) ∨ (c ≠ call ∧ (s.phase c).Active) := by
  by_cases hc : c = call
  · subst hc
    simp [SharedState.enter]
  · simp [SharedState.enter, hc]

omit [Sodium] in
theorem active_enter_of_iff {s : SharedState} {call : Nat} {phase : AppendPhase}
    (h : phase.Active ↔ (s.phase call).Active) (c : Nat) :
    ((s.enter call phase).phase c).Active ↔ (s.phase c).Active := by
  rw [active_enter, h]
  by_cases hc : c = call
  · subst hc
    simp
  · simp [hc]

section

variable {initial : AuditDb} {s : SharedState} {call : Nat}

theorem AppendEffect.phase_of_ne {t : SharedState} (h : AppendEffect log s call t) {c : Nat}
    (hc : c ≠ call) : t.phase c = s.phase c := by
  cases h <;> simp [SharedState.enter, hc]

theorem AuditInv.single_enter (hinv : AuditInv log initial s) {phase : AppendPhase}
    (hactive : phase.Active ↔ (s.phase call).Active) (c c' : Nat)
    (hc : ((s.enter call phase).phase c).Active) (hc' : ((s.enter call phase).phase c').Active) :
    c = c' :=
  hinv.single c c' ((active_enter_of_iff hactive c).mp hc) ((active_enter_of_iff hactive c').mp hc')

/-- The transaction ends with the only call that was in it. -/
theorem AuditInv.not_active_ended (hinv : AuditInv log initial s)
    (hactive : (s.phase call).Active) (ok : Bool) (c : Nat) :
    ¬ ((s.enter call (.ended ok)).phase c).Active := by
  intro hc
  rcases active_enter.mp hc with ⟨-, hended⟩ | ⟨hne, hother⟩
  · exact hended
  · exact hne (hinv.single c call hother hactive)

/-- Where no transaction is open, no call is in one. -/
theorem AuditInv.not_active_of_closed (hinv : AuditInv log initial s) (h : s.conn.saved = none)
    (c : Nat) : ¬ (s.phase c).Active := by
  intro hc
  obtain ⟨tables, hsaved, -⟩ := hinv.open_of_active c hc
  rw [h] at hsaved
  cases hsaved

theorem auditInv_of_no_active {t : SharedState} (hphase : ∀ c, ¬ (t.phase c).Active)
    (hdurable : t.conn.durable.audit =
      t.succeeded.foldl (fun db entry => writeEntry log entry.1 entry.2 db) initial) :
    AuditInv log initial t :=
  ⟨fun c _ hc => absurd hc (hphase c), fun c hc => absurd hc (hphase c), hdurable⟩

theorem auditInv_append {t : SharedState} (hinv : AuditInv log initial s)
    (h : AppendEffect log s call t) : AuditInv log initial t := by
  cases h with
  | @moves phase hactive hprogress =>
    refine ⟨hinv.single_enter hactive, ?_, hinv.durable⟩
    intro c hc
    obtain ⟨tables, hsaved, hdb⟩ := hinv.open_of_active c ((active_enter_of_iff hactive c).mp hc)
    refine ⟨tables, hsaved, ?_⟩
    by_cases hcall : c = call
    · subst hcall
      simpa [SharedState.enter] using hprogress _ hdb
    · simpa [SharedState.enter, hcall] using hdb
  | @begins e conn hphase hconn =>
    obtain ⟨hclosed, rfl⟩ := Connection.begin_eq_some.mp hconn
    have hnone := hinv.not_active_of_closed hclosed
    refine ⟨?_, ?_, ?_⟩
    · intro c c' hc hc'
      rcases active_enter.mp hc with ⟨rfl, -⟩ | ⟨-, hc⟩
      · rcases active_enter.mp hc' with ⟨rfl, -⟩ | ⟨-, hc'⟩
        · rfl
        · exact absurd hc' (hnone c')
      · exact absurd hc (hnone c)
    · intro c hc
      rcases active_enter.mp hc with ⟨rfl, -⟩ | ⟨-, hc⟩
      · refine ⟨s.conn.db, rfl, ?_⟩
        simp [SharedState.enter, AppendPhase.Progress]
      · exact absurd hc (hnone c)
    · dsimp only
      rw [Connection.durable_begin hconn]
      exact hinv.durable
  | @writes f phase hbefore hafter hprogress =>
    obtain ⟨tables, hsaved, hdb⟩ := hinv.open_of_active call hbefore
    have hactive : phase.Active ↔ (s.phase call).Active := iff_of_true hafter hbefore
    refine ⟨hinv.single_enter hactive, ?_, ?_⟩
    · intro c hc
      obtain rfl := hinv.single c call ((active_enter_of_iff hactive c).mp hc) hbefore
      refine ⟨tables, hsaved, ?_⟩
      simpa [SharedState.enter, Connection.exec, onAudit] using hprogress _ hdb
    · dsimp only
      rw [Connection.durable_exec_of_open hsaved]
      exact hinv.durable
  | @commits e prev conn hphase hconn =>
    have hactive : (s.phase call).Active := by rw [hphase]; trivial
    obtain ⟨tables, hsaved, hdb⟩ := hinv.open_of_active call hactive
    rw [hphase] at hdb
    refine auditInv_of_no_active (hinv.not_active_ended hactive true) ?_
    have hbefore : s.conn.durable.audit = tables.audit := by simp [Connection.durable, hsaved]
    rw [Connection.durable_commit hconn, List.foldl_append, ← hinv.durable, hbefore]
    exact hdb
  | @rollsBack conn hphase hconn =>
    have hactive : (s.phase call).Active := by rw [hphase]; trivial
    refine auditInv_of_no_active (hinv.not_active_ended hactive false) ?_
    dsimp only
    rw [Connection.durable_rollback hconn]
    exact hinv.durable
  | leavesOpen hphase =>
    have hactive : (s.phase call).Active := by rw [hphase]; trivial
    exact auditInv_of_no_active (hinv.not_active_ended hactive false) hinv.durable

omit [Sodium] in
/-- An admin operation is executed as a whole and reported, or not at all. -/
theorem adminStep_cases (s : SharedState) (op : StoreOp) (outcome : Outcome) :
    adminStep s op outcome = s ∨ (outcome = .ok ∧
      adminStep s op outcome = { s with
        conn := s.conn.exec fun tables => { tables with store := op.step tables.store }
        reported := s.reported ++ [op] }) := by
  unfold adminStep
  cases outcome with
  | ok =>
    cases op.exec s.conn.db.store with
    | ok db => exact .inr ⟨rfl, rfl⟩
    | error e => exact .inl rfl
  | notPrepared => exact .inl rfl
  | failed => exact .inl rfl

theorem auditInv_admin (hinv : AuditInv log initial s) (op : StoreOp) (outcome : Outcome) :
    AuditInv log initial (adminStep s op outcome) := by
  obtain hsame | ⟨-, hdone⟩ := adminStep_cases s op outcome
  · rwa [hsame]
  · rw [hdone]
    refine ⟨hinv.single, hinv.open_of_active, ?_⟩
    have hview : Tables.audit (s.conn.exec fun tables =>
        { tables with store := op.step tables.store }).durable = Tables.audit s.conn.durable :=
      Connection.view_durable_exec fun _ => rfl
    exact hview.trans hinv.durable

/-! ## The store -/

/-- The operations that reported success are in effect, and a transaction whose call is over
contains none of them. -/
structure StoreInv (initial : AccessDb) (s : SharedState) : Prop where
  visible : s.conn.db.store = s.reported.foldl StoreOp.step initial
  settled : (∀ call, ¬ (s.phase call).Active) → s.conn.Untouched Tables.store

/-- The handler of an append is reached only if nothing was changed in the store since its
`BEGIN`, and a transaction that a failed `ROLLBACK` has left open gets no admin statement. -/
def KeepsAdmin (s : SharedState) : SharedStep → Prop
  | .append call _ => s.phase call = .failing → s.conn.Untouched Tables.store
  | .admin _ outcome =>
    outcome = .ok → (∀ call, ¬ (s.phase call).Active) → s.conn.saved = none

theorem storeInv_append {initial : AccessDb} {t : SharedState} (hinv : StoreInv initial s)
    (hkeeps : s.phase call = .failing → s.conn.Untouched Tables.store)
    (h : AppendEffect log s call t) : StoreInv initial t := by
  cases h with
  | moves hactive hprogress =>
    refine ⟨hinv.visible, fun hnone => hinv.settled fun c hc => ?_⟩
    exact hnone c ((active_enter_of_iff hactive c).mpr hc)
  | begins hphase hconn =>
    obtain ⟨-, rfl⟩ := Connection.begin_eq_some.mp hconn
    refine ⟨hinv.visible, fun hnone => absurd ?_ (hnone call)⟩
    exact active_enter.mpr (.inl ⟨rfl, trivial⟩)
  | writes hbefore hafter hprogress =>
    refine ⟨hinv.visible, fun hnone => absurd ?_ (hnone call)⟩
    exact active_enter.mpr (.inl ⟨rfl, hafter⟩)
  | commits hphase hconn =>
    obtain ⟨-, rfl⟩ := Connection.commit_eq_some.mp hconn
    exact ⟨hinv.visible, fun _ => Connection.untouched_of_closed rfl⟩
  | rollsBack hphase hconn =>
    have hstore := (hkeeps hphase).rollback hconn
    obtain ⟨d, -, rfl⟩ := Connection.rollback_eq_some.mp hconn
    exact ⟨hstore.trans hinv.visible, fun _ => Connection.untouched_of_closed rfl⟩
  | leavesOpen hphase => exact ⟨hinv.visible, fun _ => hkeeps hphase⟩

omit [Sodium] in
theorem storeInv_admin {initial : AccessDb} (hinv : StoreInv initial s) {op : StoreOp}
    {outcome : Outcome} (hkeeps : outcome = .ok → (∀ call, ¬ (s.phase call).Active) →
      s.conn.saved = none) : StoreInv initial (adminStep s op outcome) := by
  obtain hsame | ⟨hok, hdone⟩ := adminStep_cases s op outcome
  · rwa [hsame]
  · rw [hdone]
    refine ⟨?_, fun hnone => Connection.untouched_of_closed (hkeeps hok hnone)⟩
    simp only [Connection.exec, List.foldl_append, List.foldl_cons, List.foldl_nil, hinv.visible]

/-! ## Runs -/

/-- No statement has been executed yet. -/
def SharedState.start (tables : Tables) (events : Nat → AuditEvent) : SharedState where
  conn := { db := tables }
  phase call := .waiting (events call)

variable (log)

end

/-! ## A call that is alone -/

/-- The statements of a call that no other statement comes between are `append`. -/
theorem run_append_alone {s : SharedState} {call : Nat} {e : AuditEvent}
    (hphase : s.phase call = .waiting e) (hclosed : s.conn.saved = none) :
    let t := run (sharedStep log) s (List.replicate 5 (.append call .ok))
    match log.append e s.conn.db.audit with
    | .ok audit => t.conn = ⟨{ s.conn.db with audit }, none⟩ ∧ t.phase call = .ended true
    | .error _ => t.conn = s.conn ∧ t.phase call = .ended false := by
  obtain ⟨⟨db, saved⟩, phase, reported, succeeded⟩ := s
  obtain rfl : saved = none := hclosed
  dsimp only at hphase ⊢
  by_cases hchain : log.chainEnabled = false
  · -- `BEGIN`, the insertion, and `COMMIT`; two statements are too many.
    simp [List.replicate, sharedStep, appendStep, hphase, hchain, SharedState.enter,
      SharedState.statement, Connection.begin, Connection.exec, Connection.commit, onAudit,
      SqliteAuditLog.append, pure, Except.pure]
  · cases hread : SqliteAuditLog.getLastEntryHash db.audit with
    | ok prev =>
      simp [List.replicate, sharedStep, appendStep, hphase, hchain, hread, SharedState.enter,
        SharedState.statement, Connection.begin, Connection.exec, Connection.commit, onAudit,
        SqliteAuditLog.append, pure, Except.pure, bind, Except.bind]
    | error error =>
      -- The handler is entered after two statements, and rolls back.
      simp [List.replicate, sharedStep, appendStep, hphase, hchain, hread, SharedState.enter,
        Connection.begin, Connection.rollback, SqliteAuditLog.append, bind, Except.bind]

end

/-! ## A card that is enrolled while an append fails -/

def sampleEnrolment : StoreOp := .upsertCardHmac (bytesOf "hmac") (bytesOf "user")

def emptyTables : Tables where
  store := .empty
  audit := SqliteAuditLog.initSchema {}

/-- The card is enrolled within the transaction of an append that is committed. -/
def enrolledAndCommitted : List SharedStep :=
  [.append 0 .ok, .admin sampleEnrolment .ok, .append 0 .ok, .append 0 .ok, .append 0 .ok,
    .append 0 .ok]

/-- The insertion fails, and the transaction is rolled back. -/
def enrolledAndRolledBack : List SharedStep :=
  [.append 0 .ok, .append 0 .ok, .admin sampleEnrolment .ok, .append 0 .failed, .append 0 .ok]

/-- The state in which such a run ends. -/
def endOf (steps : List SharedStep) : SharedState :=
  letI : Sodium := .trailing
  run (sharedStep sampleLog) (.start emptyTables fun call => allowedEvent (.ofNat call)) steps

/-- Only call zero has begun. -/
theorem not_active_endOf {steps : List SharedStep}
    (hsteps : ∀ step ∈ steps, ∀ call outcome, step = .append call outcome → call = 0)
    (hzero : ¬ ((endOf steps).phase 0).Active) (call : Nat) :
    ¬ ((endOf steps).phase call).Active := by
  let _ : Sodium := .trailing
  by_cases hcall : call = 0
  · rwa [hcall]
  · refine run_preserves (I := fun s : SharedState => ¬ (s.phase call).Active) ?_ hsteps id
    intro s step hstep hs
    cases step with
    | admin op outcome =>
      obtain hsame | ⟨-, hdone⟩ := adminStep_cases s op outcome
      · rwa [sharedStep, hsame]
      · rwa [sharedStep, hdone]
    | append c outcome =>
      have hne : call ≠ c := by
        rintro rfl
        exact hcall (hstep _ _ rfl)
      rwa [sharedStep, (appendStep_effect s c outcome).phase_of_ne hne]

end AccessSecurity.Admin
