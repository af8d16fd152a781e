import AccessSecurity.Admin.EventPolling

/-!
# The event bus as a bounded log

What a bus is for: its ids number the pushed events, and it keeps the last `maxEvents` of
them. `Abstracts` ties a bus of positive capacity to that log, as long as its ids of 64 bits
have not wrapped. `meetsSpec_iff` says for which capacities, runs and queries the bus does
what its header promises; the boundary values 0 of the capacity and of the limit are not
among them.
-/

namespace AccessSecurity.Admin

open Foundation Decision

/-! ## The log -/

/-- The events with the numbers 1, 2, ... in the order of the pushes. -/
def numbered (events : List Event) : List BusEvent := events.mapIdx fun i e => ⟨i + 1, e⟩

/-- The last `maxEvents` events of the log. -/
def retained (maxEvents : ℕ) (events : List Event) : List BusEvent :=
  (numbered events).drop (events.length - maxEvents)

@[simp] theorem length_numbered (events : List Event) : (numbered events).length = events.length :=
  List.length_mapIdx

theorem numbered_snoc (events : List Event) (e : Event) :
    numbered (events ++ [e]) = numbered events ++ [⟨events.length + 1, e⟩] :=
  List.mapIdx_concat

@[simp] theorem length_retained (maxEvents : ℕ) (events : List Event) :
    (retained maxEvents events).length = min events.length maxEvents := by
  simp [retained]
  omega

/-- A log that has room keeps everything, and a full one drops the first event it keeps. -/
theorem retained_snoc {maxEvents : ℕ} (hmax : 1 ≤ maxEvents) (events : List Event) (e : Event) :
    retained maxEvents (events ++ [e]) =
      (if maxEvents ≤ (retained maxEvents events).length then (retained maxEvents events).tail
        else retained maxEvents events) ++ [⟨events.length + 1, e⟩] := by
  rw [length_retained]
  unfold retained
  rw [numbered_snoc, List.length_append, List.length_singleton]
  split_ifs with hfull
  · have hdrop : events.length + 1 - maxEvents = events.length - maxEvents + 1 := by omega
    rw [hdrop, List.drop_append_of_le_length (by simp; omega), List.tail_drop]
  · have hdrop : events.length + 1 - maxEvents = 0 := by omega
    have hdrop' : events.length - maxEvents = 0 := by omega
    rw [hdrop, hdrop', List.drop_zero, List.drop_zero]

/-! ## Queries -/

/-- The loop looks at the limit after it has added an event. -/
theorem collect_eq_take (afterId limit : ℕ) (out es : List BusEvent) :
    EventBus.collect afterId limit out es =
      (out ++ es.filter fun e => afterId < e.id).take (max limit (out.length + 1)) := by
  induction es generalizing out with
  | nil =>
    rw [List.filter_nil, List.append_nil, List.take_of_length_le (by omega)]
    rfl
  | cons e es ih =>
    unfold EventBus.collect
    by_cases he : afterId < e.id
    · have happend := List.append_cons out e (es.filter fun e => afterId < e.id)
      have hlen : (out ++ [e]).length = out.length + 1 := List.length_append
      rw [if_pos he, List.filter_cons_of_pos (by simpa using he), happend, ← hlen]
      dsimp only
      split_ifs with hlimit
      · rw [max_eq_right hlimit, List.take_left]
      · rw [ih]
        congr 1
        omega
    · rw [if_neg he, List.filter_cons_of_neg (by simpa using he), ih]

namespace EventBus

def new (maxEvents : ℕ) : EventBus := { max := maxEvents }

theorem getAfter_eq_take (bus : EventBus) (afterId limit : ℕ) :
    bus.getAfter afterId limit = (bus.after afterId).take (Nat.max limit 1) := by
  rw [getAfter, collect_eq_take]
  rfl

/-- `getAfter` with its reservation, which throws for more than `maxReserve` events. -/
def query (maxReserve : ℕ) (bus : EventBus) (afterId limit : ℕ) : Except Exn (List BusEvent) :=
  if maxReserve < limit then .error ⟨"vector::reserve"⟩ else .ok (bus.getAfter afterId limit)

/-- The ids that the pushes return. -/
def pushIds (bus : EventBus) : List Event → List ℕ
  | [] => []
  | e :: events => (bus.push e).lastId :: (bus.push e).pushIds events

/-- The push would call `pop_front` on an empty buffer. -/
def PopsEmpty (bus : EventBus) : Prop := bus.max ≤ bus.events.length ∧ bus.events = []

theorem pushIds_snoc (bus : EventBus) (events : List Event) (e : Event) :
    bus.pushIds (events ++ [e]) =
      bus.pushIds events ++ [(run push bus (events ++ [e])).lastId] := by
  induction events generalizing bus with
  | nil => rfl
  | cons d events ih =>
    rw [List.cons_append, pushIds, ih]
    rfl

@[simp] theorem length_pushIds (bus : EventBus) (events : List Event) :
    (bus.pushIds events).length = events.length := by
  induction events generalizing bus with
  | nil => rfl
  | cons e events ih => simp [pushIds, ih]

/-! ## The bus as a log -/

/-- The bus has numbered the events and keeps the last of them. -/
structure Abstracts (maxEvents : ℕ) (events : List Event) (bus : EventBus) : Prop where
  max_eq : bus.max = maxEvents
  lastId_eq : bus.lastId = events.length
  events_eq : bus.events = retained maxEvents events

variable {maxEvents : ℕ} {events : List Event} {bus : EventBus}

theorem abstracts_new (maxEvents : ℕ) : Abstracts maxEvents [] (new maxEvents) where
  max_eq := rfl
  lastId_eq := rfl
  events_eq := by simp [new, retained, numbered]

theorem Abstracts.push (h : Abstracts maxEvents events bus) (hmax : 1 ≤ maxEvents)
    (hsmall : events.length + 1 < 2 ^ 64) (e : Event) :
    Abstracts maxEvents (events ++ [e]) (bus.push e) := by
  have hid : (bus.lastId + 1) % 2 ^ 64 = events.length + 1 := by
    rw [h.lastId_eq, Nat.mod_eq_of_lt hsmall]
  refine ⟨h.max_eq, ?_, ?_⟩
  · rw [EventBus.push, hid, List.length_append, List.length_singleton]
  · rw [EventBus.push, hid, h.max_eq, h.events_eq, retained_snoc hmax]

theorem abstracts_run (hmax : 1 ≤ maxEvents) (hsmall : events.length < 2 ^ 64) :
    Abstracts maxEvents events (run push (new maxEvents) events) := by
  induction events using List.reverseRecOn with
  | nil => exact abstracts_new maxEvents
  | append_singleton events e ih =>
    rw [List.length_append, List.length_singleton] at hsmall
    rw [run_snoc]
    exact (ih (by omega)).push hmax hsmall e

theorem pushIds_eq (hmax : 1 ≤ maxEvents) (hsmall : events.length < 2 ^ 64) :
    (new maxEvents).pushIds events = List.range' 1 events.length := by
  induction events using List.reverseRecOn with
  | nil => rfl
  | append_singleton events e ih =>
    have hlast := (abstracts_run hmax hsmall).lastId_eq
    rw [List.length_append, List.length_singleton] at hsmall
    rw [pushIds_snoc, hlast, ih (by omega), List.length_append, List.length_singleton,
      List.range'_1_concat, Nat.add_comm 1]

theorem pushIds_lt (bus : EventBus) (events : List Event) :
    ∀ id ∈ bus.pushIds events, id < 2 ^ 64 := by
  induction events generalizing bus with
  | nil => simp [pushIds]
  | cons e events ih =>
    intro id hid
    rcases List.mem_cons.mp hid with rfl | hid
    · exact Nat.mod_lt _ (by decide)
    · exact ih (bus.push e) id hid

/-- With room for an event, an empty buffer is not full. -/
theorem not_popsEmpty (h : 1 ≤ bus.max) : ¬ bus.PopsEmpty := by
  rintro ⟨hfull, hempty⟩
  rw [hempty, List.length_nil] at hfull
  omega

@[simp] theorem max_run (bus : EventBus) (events : List Event) :
    (run push bus events).max = bus.max := by
  induction events generalizing bus with
  | nil => rfl
  | cons e events ih => exact ih (bus.push e)

theorem along_not_popsEmpty (hmax : 1 ≤ maxEvents) (events : List Event) :
    Along push (fun bus _ => ¬ PopsEmpty bus) (new maxEvents) events :=
  along_of_prefix fun pre _ _ => not_popsEmpty (by simpa [new] using hmax)

theorem le_length_of_mem_retained {x : BusEvent} (h : x ∈ retained maxEvents events) :
    x.id ≤ events.length := by
  obtain ⟨i, hi, rfl⟩ := List.mem_mapIdx.mp (List.mem_of_mem_drop h)
  exact hi

theorem exists_last_retained (hmax : 1 ≤ maxEvents) (hne : events ≠ []) :
    ∃ x ∈ retained maxEvents events, x.id = events.length := by
  induction events using List.reverseRecOn with
  | nil => exact absurd rfl hne
  | append_singleton events e _ =>
    refine ⟨⟨events.length + 1, e⟩, ?_, by simp⟩
    rw [retained_snoc hmax]
    simp

/-! ## What the bus meets -/

/-- What the bus promises, of one run from the start and one query at its end. -/
structure MeetsSpec (maxReserve maxEvents : ℕ) (events : List Event) (afterId limit : ℕ) :
    Prop where
  ids : (new maxEvents).pushIds events = List.range' 1 events.length
  buffer : (run push (new maxEvents) events).events = retained maxEvents events
  no_empty_pop : Along push (fun bus _ => ¬ PopsEmpty bus) (new maxEvents) events
  answer : (run push (new maxEvents) events).query maxReserve afterId limit =
    .ok (((retained maxEvents events).filter fun e => afterId < e.id).take limit)

section

variable {maxReserve afterId limit : ℕ}

theorem query_eq_ok_iff {answer : List BusEvent} : bus.query maxReserve afterId limit = .ok answer ↔
    limit ≤ maxReserve ∧ (bus.after afterId).take (Nat.max limit 1) = answer := by
  unfold query
  split_ifs with hlimit
  · simp [hlimit]
  · simp [getAfter_eq_take, not_lt.mp hlimit]

/-- A query with the limit 0 gets an event as soon as there is one. -/
theorem Abstracts.take_eq_iff (h : Abstracts maxEvents events bus) (hmax : 1 ≤ maxEvents)
    (hne : events ≠ []) : (bus.after afterId).take (Nat.max limit 1) =
      ((retained maxEvents events).filter fun e => afterId < e.id).take limit ↔
    1 ≤ limit ∨ events.length ≤ afterId := by
  rw [after, h.events_eq]
  rcases Nat.eq_zero_or_pos limit with rfl | hpos
  · have hlast : (retained maxEvents events).filter (fun e => afterId < e.id) = [] ↔
        events.length ≤ afterId := by
      constructor
      · intro hnil
        obtain ⟨x, hx, hid⟩ := exists_last_retained hmax hne
        have hnot := List.filter_eq_nil_iff.mp hnil x hx
        simpa [hid] using hnot
      · intro hle
        refine List.filter_eq_nil_iff.mpr fun x hx => ?_
        have hid := le_length_of_mem_retained hx
        simp
        omega
    rw [← hlast]
    simp
  · have hmaxlimit : Nat.max limit 1 = limit := Nat.max_eq_left hpos
    rw [hmaxlimit]
    exact iff_of_true rfl (.inl hpos)

end

/-- The bus does what it promises exactly if the limit can be reserved and, unless nothing has
been pushed, the capacity is positive, the ids have not wrapped, and the limit is positive or
there is nothing to return. -/
theorem meetsSpec_iff (maxReserve maxEvents : ℕ) (events : List Event) (afterId limit : ℕ) :
    MeetsSpec maxReserve maxEvents events afterId limit ↔
      limit ≤ maxReserve ∧ (events = [] ∨ (1 ≤ maxEvents ∧ events.length < 2 ^ 64 ∧
        (1 ≤ limit ∨ events.length ≤ afterId))) := by
  constructor
  · intro h
    obtain ⟨hreserve, htake⟩ := query_eq_ok_iff.mp h.answer
    refine ⟨hreserve, or_iff_not_imp_left.mpr fun hne => ?_⟩
    have hmax : 1 ≤ maxEvents := by
      by_contra hzero
      obtain ⟨e, rest, rfl⟩ := List.exists_cons_of_ne_nil hne
      obtain rfl : maxEvents = 0 := by omega
      exact h.no_empty_pop.1 ⟨Nat.zero_le _, rfl⟩
    have hsmall : events.length < 2 ^ 64 := by
      by_contra hlarge
      have hmem : 2 ^ 64 ∈ (new maxEvents).pushIds events := by
        rw [h.ids, List.mem_range'_1]
        omega
      exact lt_irrefl _ (pushIds_lt _ _ _ hmem)
    exact ⟨hmax, hsmall, ((abstracts_run hmax hsmall).take_eq_iff hmax hne).mp htake⟩
  · rintro ⟨hreserve, h⟩
    by_cases hne : events = []
    · subst hne
      refine ⟨rfl, by simp [new, retained, numbered], trivial, ?_⟩
      exact query_eq_ok_iff.mpr ⟨hreserve, by simp [after, new, retained, numbered]⟩
    · obtain ⟨hmax, hsmall, hlimit⟩ := h.resolve_left hne
      have habs := abstracts_run hmax hsmall
      refine ⟨pushIds_eq hmax hsmall, habs.events_eq, along_not_popsEmpty hmax events, ?_⟩
      exact query_eq_ok_iff.mpr ⟨hreserve, (habs.take_eq_iff hmax hne).mpr hlimit⟩

def doorEvent : Event := { kind := "admin", message := [] }

/-- A bus of capacity 0 pops from an empty buffer and then holds an event; a query with the
limit 0 returns one. -/
theorem boundary_values :
    (¬ MeetsSpec 1000 0 [doorEvent] 0 200 ∧ PopsEmpty (new 0) ∧
      (run push (new 0) [doorEvent]).events = [⟨1, doorEvent⟩]) ∧
    ¬ MeetsSpec 1000 1024 [doorEvent] 0 0 ∧
      (run push (new 1024) [doorEvent]).query 1000 0 0 = .ok [⟨1, doorEvent⟩] := by
  refine ⟨⟨fun h => ?_, ⟨by decide, rfl⟩, rfl⟩, fun h => ?_, rfl⟩
  · exact absurd h.buffer (by decide +kernel)
  · exact absurd h.answer (by decide +kernel)

end EventBus

end AccessSecurity.Admin
