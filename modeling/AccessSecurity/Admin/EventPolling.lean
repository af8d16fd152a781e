import Mathlib.Algebra.Ring.Nat
import AccessSecurity.Decision.Engine
import AccessSecurity.Foundation.Run

/-!
# Polling the event bus

`event_bus.cpp`, `events_service.cpp` and `pollEvents` of `events.js`. An answer consists of
two reads of the bus, each under its lock, and the client continues from the second one. What
is pushed between the reads, and what the limit cuts off, is skipped for good
(`events_skipped`); as long as neither happens, a client gets every event that is in the
buffer when it polls (`polling_lossless`).
-/

namespace AccessSecurity.Admin

open Foundation Decision

/-! ## Event bus -/

/-- An event with the id that the bus assigned. -/
structure BusEvent where
  id : Nat
  event : Event
  deriving DecidableEq

structure EventBus where
  max : Nat
  events : List BusEvent := []
  lastId : Nat := 0

namespace EventBus

/-- Ids are 64 bits wide. -/
def push (bus : EventBus) (e : Event) : EventBus :=
  let id := (bus.lastId + 1) % 2 ^ 64
  let events := if bus.max ≤ bus.events.length then bus.events.tail else bus.events
  { bus with events := events ++ [⟨id, e⟩], lastId := id }

/-- The loop over the buffer, with what has been found so far. -/
def collect (afterId limit : Nat) (out : List BusEvent) : List BusEvent → List BusEvent
  | [] => out
  | e :: es =>
    if afterId < e.id then
      let out := out ++ [e]
      if limit ≤ out.length then out else collect afterId limit out es
    else collect afterId limit out es

def getAfter (bus : EventBus) (afterId limit : Nat) : List BusEvent :=
  collect afterId limit [] bus.events

/-- The events in the buffer that come after an id. -/
def after (bus : EventBus) (afterId : Nat) : List BusEvent :=
  bus.events.filter fun e => afterId < e.id

theorem collect_eq {afterId limit : Nat} {out es : List BusEvent}
    (h : (out ++ es.filter fun e => afterId < e.id).length ≤ limit) :
    collect afterId limit out es = out ++ es.filter fun e => afterId < e.id := by
  induction es generalizing out with
  | nil => simp [collect]
  | cons e es ih =>
    unfold collect
    by_cases he : afterId < e.id
    · simp only [he, decide_true, List.filter_cons_of_pos, List.length_append,
        List.length_cons] at h
      rw [if_pos he, List.filter_cons_of_pos (by simpa using he)]
      dsimp only
      split_ifs with hlimit
      · have hnil : (es.filter fun e => afterId < e.id) = [] := by
          apply List.eq_nil_of_length_eq_zero
          simp only [List.length_append, List.length_singleton] at hlimit
          omega
        rw [hnil]
      · rw [ih]
        · simp
        · simp only [List.length_append, List.length_singleton]
          omega
    · rw [List.filter_cons_of_neg (by simpa using he)] at h ⊢
      rw [if_neg he, ih h]

/-- A batch that the limit does not cut off has everything after the id. -/
theorem getAfter_eq {bus : EventBus} {afterId limit : Nat}
    (h : (bus.after afterId).length ≤ limit) : bus.getAfter afterId limit = bus.after afterId :=
  collect_eq h

theorem mem_push {bus : EventBus} {e : Event} {x : BusEvent} (h : x ∈ (bus.push e).events) :
    x ∈ bus.events ∨ x.id = (bus.lastId + 1) % 2 ^ 64 := by
  simp only [push, List.mem_append, List.mem_singleton] at h
  rcases h with h | rfl
  · split_ifs at h
    · exact .inl (List.mem_of_mem_tail h)
    · exact .inl h
  · exact .inr rfl

/-- The buffer is in the order of the ids, and `lastId` is an upper bound of them. -/
structure Ordered (bus : EventBus) : Prop where
  sorted : bus.events.Pairwise fun d e => d.id < e.id
  le_lastId : ∀ e ∈ bus.events, e.id ≤ bus.lastId

theorem Ordered.push {bus : EventBus} (h : bus.Ordered) (hsmall : bus.lastId + 1 < 2 ^ 64)
    (e : Event) : (bus.push e).Ordered := by
  have hid : (bus.lastId + 1) % 2 ^ 64 = bus.lastId + 1 := Nat.mod_eq_of_lt hsmall
  have hkept : (if bus.max ≤ bus.events.length then bus.events.tail else bus.events).Sublist
      bus.events := by
    split_ifs
    · exact List.tail_sublist _
    · exact List.Sublist.refl _
  constructor
  · refine List.pairwise_append.mpr ⟨h.sorted.sublist hkept, List.pairwise_singleton _ _, ?_⟩
    intro d hd x hx
    obtain rfl := List.mem_singleton.mp hx
    have hle := h.le_lastId d (hkept.subset hd)
    dsimp only
    omega
  · intro x hx
    have hlast : (bus.push e).lastId = bus.lastId + 1 := hid
    rcases mem_push hx with hx | hx
    · have hle := h.le_lastId x hx
      omega
    · omega

end EventBus

/-! ## A client -/

/-- The bus, and a client that waits for each answer. `batch` is what the first read of an
unfinished answer gave; `buffered` collects what was in the buffer at the client's polls. -/
structure PollState where
  bus : EventBus
  afterId : Nat := 0
  batch : Option (List BusEvent) := none
  delivered : List BusEvent := []
  buffered : List BusEvent := []

/-- A push, and the two reads of `getEvents`; the second one completes the answer. -/
inductive PollStep where
  | push (e : Event)
  | getAfter (limit : Nat)
  | lastId
  deriving DecidableEq

def PollState.step (s : PollState) : PollStep → PollState
  | .push e => { s with bus := s.bus.push e }
  | .getAfter limit =>
    match s.batch with
    | some _ => s
    | none => { s with
        batch := some (s.bus.getAfter s.afterId limit)
        buffered := s.buffered ++ s.bus.events }
  | .lastId =>
    match s.batch with
    | none => s
    | some events => { s with
        batch := none
        delivered := s.delivered ++ events
        afterId := s.bus.lastId }

/-- A client of a new bus. -/
def PollState.initial (maxEvents : Nat) : PollState where
  bus := { max := maxEvents }

/-- No event that the client could have got at a poll is behind its cursor undelivered, and
what it got is in the order of the ids, each event once. -/
structure Lossless (s : PollState) : Prop where
  not_skipped : ∀ e ∈ s.buffered, e.id ≤ s.afterId → e ∈ s.delivered
  in_order : s.delivered.Pairwise fun d e => d.id < e.id

/-- Nothing is pushed between the two reads of an answer or after 2^64 - 1 events, and no
batch is cut off by its limit. -/
def Undisturbed (s : PollState) : PollStep → Prop
  | .push _ => s.batch = none ∧ s.bus.lastId + 1 < 2 ^ 64
  | .getAfter limit => (s.bus.after s.afterId).length ≤ limit
  | .lastId => True

instance (s : PollState) : (i : PollStep) → Decidable (Undisturbed s i)
  | .push _ => inferInstanceAs (Decidable (s.batch = none ∧ s.bus.lastId + 1 < 2 ^ 64))
  | .getAfter limit => inferInstanceAs (Decidable ((s.bus.after s.afterId).length ≤ limit))
  | .lastId => .isTrue trivial

/-! ## Invariant -/

/-- Between answers the client has everything it could get; during one the batch holds the
rest of the buffer. -/
structure PollInv (s : PollState) : Prop where
  ordered : s.bus.Ordered
  afterId_le : s.afterId ≤ s.bus.lastId
  in_order : s.delivered.Pairwise fun d e => d.id < e.id
  delivered_le : ∀ e ∈ s.delivered, e.id ≤ s.afterId
  delivered_of_le : ∀ e, e ∈ s.buffered ∨ e ∈ s.bus.events → e.id ≤ s.afterId → e ∈ s.delivered
  idle : s.batch = none → ∀ e ∈ s.buffered, e.id ≤ s.afterId
  pending : ∀ events, s.batch = some events → events = s.bus.after s.afterId ∧
    ∀ e ∈ s.buffered, s.afterId < e.id → e ∈ events

theorem pollInv_initial (maxEvents : Nat) : PollInv (.initial maxEvents) := by
  constructor <;> simp [PollState.initial]
  exact ⟨List.Pairwise.nil, by simp⟩

theorem PollInv.push {s : PollState} (h : PollInv s) (hidle : s.batch = none)
    (hsmall : s.bus.lastId + 1 < 2 ^ 64) (e : Event) : PollInv (s.step (.push e)) where
  ordered := h.ordered.push hsmall e
  afterId_le := by
    have hlast : (s.bus.push e).lastId = s.bus.lastId + 1 := Nat.mod_eq_of_lt hsmall
    have hle := h.afterId_le
    simp only [PollState.step]
    omega
  in_order := h.in_order
  delivered_le := h.delivered_le
  delivered_of_le := by
    rintro x (hx | hx) hle
    · exact h.delivered_of_le x (.inl hx) hle
    · rcases EventBus.mem_push hx with hx | hx
      · exact h.delivered_of_le x (.inr hx) hle
      · rw [Nat.mod_eq_of_lt hsmall] at hx
        have hcursor := h.afterId_le
        simp only [PollState.step] at hle
        omega
  idle := h.idle
  pending := by
    intro events hevents
    simp only [PollState.step, hidle] at hevents
    cases hevents

theorem PollInv.getAfter {s : PollState} (h : PollInv s) {limit : Nat}
    (hlimit : (s.bus.after s.afterId).length ≤ limit) : PollInv (s.step (.getAfter limit)) := by
  cases hbatch : s.batch with
  | some events => simpa only [PollState.step, hbatch] using h
  | none =>
    simp only [PollState.step, hbatch, EventBus.getAfter_eq hlimit]
    refine ⟨h.ordered, h.afterId_le, h.in_order, h.delivered_le, ?_, by simp, ?_⟩
    · rintro e (he | he) hle
      · rcases List.mem_append.mp he with he | he
        · exact h.delivered_of_le e (.inl he) hle
        · exact h.delivered_of_le e (.inr he) hle
      · exact h.delivered_of_le e (.inr he) hle
    · rintro events hevents
      obtain rfl := Option.some.inj hevents
      refine ⟨rfl, fun e he hlt => ?_⟩
      rcases List.mem_append.mp he with he | he
      · exact absurd hlt (not_lt.mpr (h.idle hbatch e he))
      · exact List.mem_filter.mpr ⟨he, by simpa using hlt⟩

theorem PollInv.lastId {s : PollState} (h : PollInv s) : PollInv (s.step .lastId) := by
  cases hbatch : s.batch with
  | none => simpa only [PollState.step, hbatch] using h
  | some events =>
    obtain ⟨rfl, hpending⟩ := h.pending events hbatch
    have hmem : ∀ e, e ∈ s.bus.after s.afterId ↔ e ∈ s.bus.events ∧ s.afterId < e.id := by
      simp [EventBus.after]
    have hcursor := h.afterId_le
    simp only [PollState.step, hbatch]
    refine ⟨h.ordered, le_refl _, ?_, ?_, ?_, ?_, by simp⟩
    · refine List.pairwise_append.mpr ⟨h.in_order, h.ordered.sorted.sublist List.filter_sublist, ?_⟩
      intro d hd e he
      have hle := h.delivered_le d hd
      have hlt := ((hmem e).mp he).2
      omega
    · intro e he
      rcases List.mem_append.mp he with he | he
      · exact (h.delivered_le e he).trans hcursor
      · exact h.ordered.le_lastId e ((hmem e).mp he).1
    · rintro e he -
      by_cases hle : e.id ≤ s.afterId
      · exact List.mem_append_left _ (h.delivered_of_le e he hle)
      · rcases he with he | he
        · exact List.mem_append_right _ (hpending e he (by omega))
        · exact List.mem_append_right _ ((hmem e).mpr ⟨he, by omega⟩)
    · rintro - e he
      by_cases hle : e.id ≤ s.afterId
      · exact hle.trans hcursor
      · exact h.ordered.le_lastId e ((hmem e).mp (hpending e he (by omega))).1

theorem PollInv.step {s : PollState} (h : PollInv s) {i : PollStep} (hi : Undisturbed s i) :
    PollInv (s.step i) := by
  cases i with
  | push e => exact h.push hi.1 hi.2 e
  | getAfter limit => exact h.getAfter hi
  | lastId => exact h.lastId

/-- In an undisturbed run the client skips nothing, and after an answer it has every event
that was in the buffer at one of its polls. -/
theorem polling_lossless (maxEvents : Nat) (steps : List PollStep)
    (h : Along PollState.step Undisturbed (.initial maxEvents) steps) :
    Lossless (run PollState.step (.initial maxEvents) steps) ∧
      ((run PollState.step (.initial maxEvents) steps).batch = none →
        ∀ e ∈ (run PollState.step (.initial maxEvents) steps).buffered,
          e ∈ (run PollState.step (.initial maxEvents) steps).delivered) := by
  have hinv : PollInv (run PollState.step (.initial maxEvents) steps) :=
    run_invariant (fun _ _ hs hi => hs.step hi) (pollInv_initial maxEvents) h
  refine ⟨⟨fun e he hle => hinv.delivered_of_le e (.inl he) hle, hinv.in_order⟩, ?_⟩
  intro hidle e he
  exact hinv.delivered_of_le e (.inl he) (hinv.idle hidle e he)

theorem polling_lossless_single :
    Lossless (run PollState.step (.initial 1024)
      [.push { kind := "admin", message := [] }, .getAfter 200, .lastId]) :=
  (polling_lossless 1024 _ (by decide +kernel)).1

/-- An event is pushed between the two reads: it is in the buffer at the next poll, and is not
delivered. The same happens to the second of two events under a limit of one. -/
theorem events_skipped :
    ¬ Lossless (run PollState.step (.initial 1024)
        [.getAfter 200, .push { kind := "admin", message := [] }, .lastId, .getAfter 200,
          .lastId]) ∧
      ¬ Lossless (run PollState.step (.initial 1024)
        [.push { kind := "admin", message := [] }, .push { kind := "admin", message := [] },
          .getAfter 1, .lastId, .getAfter 1, .lastId]) := by
  constructor
  · intro h
    have hmissing := h.not_skipped ⟨1, { kind := "admin", message := [] }⟩ (by decide +kernel)
      (by decide +kernel)
    exact absurd hmissing (by decide +kernel)
  · intro h
    have hmissing := h.not_skipped ⟨2, { kind := "admin", message := [] }⟩ (by decide +kernel)
      (by decide +kernel)
    exact absurd hmissing (by decide +kernel)

end AccessSecurity.Admin
