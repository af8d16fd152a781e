import AccessSecurity.Basic
import AccessSecurity.Foundation.Program

/-!
# What the program reads from outside

The access store, the clock, and the operations that can fail. The contents of the
store do not change while a frame is processed, so its answers are functions; whether
a particular access fails is decided per call site, as is the reading of the clock.
-/

namespace AccessSecurity

open Foundation

/-- The answers of an `IAccessStore`. -/
structure AccessStore where
  roleForCardHmac : Bytes → Option Bytes
  isAllowed : UInt32 → Bytes → Bool
  currentKeyVersionForReader : UInt32 → UInt32
  isReaderAllowedDoor : UInt32 → UInt32 → Bool

/-- Everything is registered, at key version one, and allowed. -/
def AccessStore.permissive : AccessStore where
  roleForCardHmac _ := some (bytesOf "user")
  isAllowed _ _ := true
  currentKeyVersionForReader _ := 1
  isReaderAllowedDoor _ _ := true

/-- The places where the clock is read while a scan or a frame is processed. -/
inductive ClockSite where
  | hwTimestamp
  | hwEvent
  | skewCheck
  | frameEvent
  | decisionEvent
  | auditEvent
  | anomalyEvent
  | reportSeq
  | reportNonceMismatch
  | reportReplay
  | reportTagFailure
  deriving DecidableEq, Repr

/-- The accesses to the database made while a scan or a frame is processed. -/
inductive FaultSite where
  | hwKeyVersion
  | handlerKeyVersion
  | readerDoor
  | policyKeyVersion
  | cardRole
  | previousCardRole
  | roleAllowed
  | auditAppend
  deriving DecidableEq, Repr

/-- The outside world during one call. -/
structure Env where
  now : ClockSite → UInt64
  throws : FaultSite → Option Exn

/-- No database access fails. -/
def Env.NoFault (env : Env) : Prop := ∀ site, env.throws site = none

/-- A call at time zero in which nothing fails. -/
def Env.quiet : Env where
  now _ := 0
  throws _ := none

theorem Env.quiet_noFault : Env.quiet.NoFault := fun _ => rfl

/-- An access to the database: its answer, or the exception it throws. -/
def Env.access {α : Type} (env : Env) (site : FaultSite) (answer : α) : Except Exn α :=
  match env.throws site with
  | some e => throw e
  | none => return answer

theorem Env.access_ok {α : Type} {env : Env} {site : FaultSite} {answer a : α}
    (h : env.access site answer = .ok a) : a = answer ∧ env.throws site = none := by
  unfold access at h
  split at h
  · simp [throw, throwThe, MonadExceptOf.throw] at h
  · rename_i hnone
    simp [pure, Except.pure] at h
    exact ⟨h.symm, hnone⟩

@[simp] theorem Env.NoFault.access {α : Type} {env : Env} (h : env.NoFault) (site : FaultSite)
    (answer : α) : env.access site answer = .ok answer := by
  simp [Env.access, h site, pure, Except.pure]

end AccessSecurity
