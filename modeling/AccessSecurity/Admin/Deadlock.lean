import AccessSecurity.Foundation.Locks
import Mathlib.Data.Fin.VecNotation

/-!
# The mutexes of the server

The locks that the handlers of the two HTTP servers take: the mutexes of `AppState`, of the
detector and of the event bus, and the threads on which the servers run their handlers. A scan
releases `m` before it asks the decision service, "to avoid deadlock". There is none: whatever
requests are made, however their steps are interleaved, all of them come to their end
(`requests_finish`).
-/

namespace AccessSecurity.Admin

open Foundation

/-- The mutexes, and the threads of the admin server and of the decision server. -/
inductive Resource where
  | worker
  | m
  | decisionWorker
  | engineMutex
  | detector
  | bus
  deriving DecidableEq, Repr

instance : Fintype Resource where
  elems := {.worker, .m, .decisionWorker, .engineMutex, .detector, .bus}
  complete l := by cases l <;> simp

/-- The order in which they are taken. -/
def Resource.rank : Resource → Nat
  | .worker => 1
  | .m => 2
  | .decisionWorker => 3
  | .engineMutex => 4
  | .detector => 5
  | .bus => 6

namespace Locking

/-! ## The engine -/

/-- `EventBus::push`, `getAfter` and `lastId` -/
def bus : Skeleton Resource := .hold .bus .skip

/-- The operations of `ProtocolAnomalyDetector` on a reader. -/
def detector : Skeleton Resource := .hold .detector .skip

/-- An event is pushed when there is a bus. -/
def publish : Skeleton Resource := .choice bus .skip

def logAuditEvent : Skeleton Resource := .choice publish .skip

def refuseQuarantined : Skeleton Resource := .seq logAuditEvent publish

def checkRollback : Skeleton Resource := .seq detector (.choice publish .skip)

def checkNonce : Skeleton Resource := .choice (.seq detector publish) .skip

def reportDenied : Skeleton Resource := .choice (.seq detector (.choice publish .skip)) .skip

def finish : Skeleton Resource :=
  .seq publish (.choice (.seq reportDenied logAuditEvent)
    (.seq (.choice detector .skip) logAuditEvent))

def handleFrameBytes : Skeleton Resource :=
  .seq publish (.seq (.choice detector .skip) (.choice refuseQuarantined
    (.seq (.choice checkRollback .skip) (.choice refuseQuarantined
      (.seq checkNonce (.choice refuseQuarantined finish))))))

/-! ## The services -/

/-- `/api/decision/frame` -/
def decisionFrame : Skeleton Resource := .hold .decisionWorker (.hold .engineMutex handleFrameBytes)

def openOrCreate : Skeleton Resource := .hold .m bus

/-- The checks of the upload come before the first lock. -/
def importDbFile : Skeleton Resource := .seq (.hold .m .skip) (.seq openOrCreate bus)

/-- In remote mode the thread waits for the answer of the decision service, up to three times. -/
def processHwUid : Skeleton Resource :=
  .seq (.hold .m (.choice bus bus)) (.choice (.hold .m handleFrameBytes) (.loop decisionFrame))

end Locking

/-- The requests, by the service that handles them. -/
inductive Route where
  | getEvents
  | listReaders | upsertReader | deleteReader | bindDoor | unbindDoor | unquarantineReader
  | listDoorRoles | allowRole | revokeRole
  | listCards | upsertCard | deleteCard
  | listAuditLog | verifyAuditChain
  | exportDatabase | importDatabase
  | processHwUid
  | decisionFrame
  deriving DecidableEq, Repr

def Route.skeleton : Route → Skeleton Resource
  | .getEvents => .hold .worker (.seq Locking.bus Locking.bus)
  | .listReaders | .listDoorRoles | .listCards | .listAuditLog | .verifyAuditChain =>
    .hold .worker (.hold .m .skip)
  | .upsertReader | .deleteReader | .bindDoor | .unbindDoor | .allowRole | .revokeRole
  | .upsertCard | .deleteCard => .hold .worker (.hold .m Locking.bus)
  | .unquarantineReader => .hold .worker (.hold .m (.seq Locking.detector Locking.bus))
  | .exportDatabase => .hold .worker .skip
  | .importDatabase => .hold .worker Locking.importDbFile
  | .processHwUid => .hold .worker Locking.processHwUid
  | .decisionFrame => Locking.decisionFrame

/-- The mutexes, and servers with so many threads. -/
def slots (workers decisionWorkers : Nat) : Resource → Nat
  | .worker => workers
  | .decisionWorker => decisionWorkers
  | _ => 1

theorem ascends_skeleton (route : Route) : route.skeleton.Ascends Resource.rank 0 := by
  cases route <;> decide

/-- Any number of requests are handled at the same time, in whatever order the locks are taken.
As long as one of them has something to do, some request can go on; the requests can be brought
to their end from every state that is reached; and no order takes more steps than there are. -/
theorem requests_finish {n : Nat} (routes : Fin n → Route) {todo : Fin n → List (Act Resource)}
    (htodo : ∀ i, (routes i).skeleton.Traces (todo i)) {workers decisionWorkers : Nat}
    (hworkers : 0 < workers) (hdecision : 0 < decisionWorkers) {is : List (Fin n)}
    {s : System (Fin n) Resource}
    (hrun : System.steps ⟨todo, slots workers decisionWorkers⟩ is = some s) :
    (∀ i, s.todo i ≠ [] → ∃ j, (s.step j).isSome = true) ∧
      (∃ js t, s.steps js = some t ∧ ∀ i, t.todo i = []) ∧
      is.length ≤ ∑ i, (todo i).length := by
  have hcapacity : ∀ l, 0 < slots workers decisionWorkers l := by
    intro l
    cases l with
    | worker => exact hworkers
    | decisionWorker => exact hdecision
    | m => exact Nat.one_pos
    | engineMutex => exact Nat.one_pos
    | detector => exact Nat.one_pos
    | bus => exact Nat.one_pos
  obtain ⟨held, hordered⟩ :=
    (System.ordered_start htodo fun i => ascends_skeleton (routes i)).steps hrun
  refine ⟨fun i hi => hordered.progress hcapacity hi, hordered.completes hcapacity, ?_⟩
  have hlength := System.length_steps hrun
  simp only [System.remaining] at hlength
  omega

/-- A scan that fails after its frame was built, and a reader that is registered. -/
def sampleTodo : Fin 2 → List (Act Resource) :=
  ![[.acquire .worker, .acquire .m, .acquire .bus, .release .bus, .release .m, .release .worker],
    [.acquire .worker, .acquire .m, .acquire .bus, .release .bus, .release .m, .release .worker]]

/-- The scan holds `m`, and the other request has to wait for it. -/
theorem requests_finish_two :
    ∃ s, System.steps ⟨sampleTodo, slots 2 1⟩ [0, 1, 0] = some s ∧ (s.step 1).isSome = false ∧
      ∃ js t, s.steps js = some t ∧ ∀ i, t.todo i = [] := by
  obtain ⟨s, hrun⟩ := Option.isSome_iff_exists.mp
    (show (System.steps ⟨sampleTodo, slots 2 1⟩ [0, 1, 0]).isSome = true by decide)
  have hwaits : (System.steps ⟨sampleTodo, slots 2 1⟩ [0, 1, 0]).any
      (fun s => (s.step 1).isSome) = false := by decide
  rw [hrun] at hwaits
  refine ⟨s, hrun, hwaits, (requests_finish ![.processHwUid, .upsertReader] ?_ (by decide)
    (by decide) hrun).2.1⟩
  intro i
  match i with
  | 0 => exact .hold (.throws (.hold (.left (.hold .skip))))
  | 1 => exact .hold (.hold (.hold .skip))

end AccessSecurity.Admin
