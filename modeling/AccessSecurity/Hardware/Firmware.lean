import AccessSecurity.Admin.HexText
import AccessSecurity.Foundation.Decimal
import AccessSecurity.Foundation.Run

/-!
# Firmware of the devices

The sketch `hw_layer.ino`, with the settings of `hw_config.h`. A device reads a card, counts the
request in its non-volatile storage, posts it with a signature, and waits for the answer. The
power can fail between any two of these steps; what is in memory is lost then, and the counter
is read from the storage at the next start. The numbers that a device posts ascend in every run
(`posts_ascend`), and what it posts are cards that were presented to it, in order
(`posts_sublist_presented`).
-/

namespace AccessSecurity.Hardware

open Foundation Crypto Decision Admin

/-! ## Texts -/

/-- The settings that the requests of a device depend on. -/
structure HwConfig where
  secretHex : Bytes
  readerId : UInt32
  doorId : UInt32
  resendDelayMs : UInt32 := 1500

/-- `String(value, HEX)` -/
def hexString (value : UInt8) : Bytes :=
  if value < 16 then [CardIdHasher.hexChar value]
  else [CardIdHasher.hexChar ((value >>> 4) &&& 0xF), CardIdHasher.hexChar (value &&& 0xF)]

def upperChar (c : UInt8) : UInt8 := if 97 ≤ c ∧ c ≤ 122 then c - 32 else c

def uidToString (uid : Bytes) : Bytes :=
  (uid.flatMap fun b => (if b < 16 then bytesOf "0" else []) ++ hexString b).map upperChar

def hexToBytes32 (hex : Bytes) : Bytes :=
  (List.range 32).map fun i =>
    hexNibble (hex.getD (i * 2) 0) <<< 4 ||| hexNibble (hex.getD (i * 2 + 1) 0)

def bodyText (uid : Bytes) (readerId doorId : UInt32) (hwSeq : UInt64) : Bytes :=
  bytesOf "\x7b\"uid\":\"" ++ uid ++
    bytesOf "\",\"reader_id\":" ++ Decimal.print readerId.toNat ++
    bytesOf ",\"door_id\":" ++ Decimal.print doorId.toNat ++
    bytesOf ",\"hw_seq\":" ++ Decimal.print hwSeq.toNat ++
    bytesOf "\x7d"

section

variable [Sodium]

def hmacSha256Hex (key msg : Bytes) : Bytes := CardIdHasher.toHex (hmacSha256 key msg).toList

/-- What is posted; without a secret of the right length there is no signature header. -/
def HwConfig.request (cfg : HwConfig) (uid : Bytes) (hwSeq : UInt64) : SignedRequest :=
  let body := bodyText uid cfg.readerId cfg.doorId hwSeq
  { signature :=
      if cfg.secretHex.length = 64 then
        hmacSha256Hex (hexToBytes32 cfg.secretHex) (bytesOf "POST /api/hw/uid\n" ++ body)
      else []
    body }

end

/-- The text from the place on that `indexOf` finds. -/
def fromFirst (part text : Bytes) : Option Bytes :=
  text.tails.find? fun rest => part.isPrefixOf rest

def parseAllowFromJson (resp : Bytes) : Option Bool := do
  let rest ← fromFirst (bytesOf "\"allow\"") resp
  let rest ← fromFirst (bytesOf ":") rest
  let rest := rest.dropWhile fun c => c = 58 || c = 32
  if (bytesOf "true").isPrefixOf rest then some true
  else if (bytesOf "false").isPrefixOf rest then some false
  else none

/-! ## A device -/

/-- Where the sketch is in `loop`: it waits for a card, has counted the request, has stored the
counter, or waits for the answer. -/
inductive Stage where
  | off
  | waiting
  | counted (uid : Bytes)
  | stored (uid : Bytes)
  | posted (uid : Bytes)
  deriving DecidableEq, Repr

/-- The storage, and the memory; what is in memory has no meaning without power. -/
structure Device where
  nvs : Option UInt64 := none
  hwSeq : UInt64 := 0
  lastUid : Bytes := []
  lastSendMs : UInt32 := 0
  stage : Stage := .off
  deriving DecidableEq, Repr

/-- What happens at a device: `setup` runs, the power fails, a card is read (with the clock, and
whether there is a network), the counter is stored, the request is sent, or the answer arrives. -/
inductive Event where
  | powerOn
  | powerOff
  | card (uid : Bytes) (now : UInt32) (connected : Bool)
  | store (written : Bool)
  | post
  | answer (code : Int) (resp : Bytes)
  deriving DecidableEq, Repr

/-- A card and the number under which it is sent. -/
structure Post where
  uid : Bytes
  hwSeq : UInt64
  deriving DecidableEq, Repr

namespace Device

/-- The same card was read a moment ago. -/
def tooSoon (cfg : HwConfig) (d : Device) (uid : Bytes) (now : UInt32) : Prop :=
  uid = d.lastUid ∧ now - d.lastSendMs < cfg.resendDelayMs

instance (cfg : HwConfig) (d : Device) (uid : Bytes) (now : UInt32) :
    Decidable (d.tooSoon cfg uid now) := inferInstanceAs (Decidable (_ ∧ _))

def step (cfg : HwConfig) (d : Device) : Event → Device
  | .powerOn =>
    if d.stage = .off then
      { d with hwSeq := d.nvs.getD 0, lastUid := [], lastSendMs := 0, stage := .waiting }
    else d
  | .powerOff => { d with stage := .off }
  | .card uid now connected =>
    let uid := uidToString uid
    if d.stage ≠ .waiting ∨ d.tooSoon cfg uid now then d
    else
      let d := { d with lastUid := uid, lastSendMs := now }
      if connected then { d with hwSeq := d.hwSeq + 1, stage := .counted uid } else d
  | .store written =>
    match d.stage with
    | .counted uid =>
      { d with nvs := if written then some d.hwSeq else d.nvs, stage := .stored uid }
    | _ => d
  | .post =>
    match d.stage with
    | .stored uid => { d with stage := .posted uid }
    | _ => d
  | .answer _ _ =>
    match d.stage with
    | .posted _ => { d with stage := .waiting }
    | _ => d

def sends (d : Device) : Event → List Post
  | .post =>
    match d.stage with
    | .stored uid => [{ uid, hwSeq := d.hwSeq }]
    | _ => []
  | _ => []

/-- The signal after an answer: `true` for `signalAllow`, `false` for `signalDeny`. -/
def signals (code : Int) (resp : Bytes) : Bool :=
  if code ≥ 200 ∧ code < 300 then (parseAllowFromJson resp).getD false else false

/-- The posts of a run of a device that is new. -/
def posts (cfg : HwConfig) (events : List Event) : List Post :=
  trace (step cfg) sends {} events

/-- The cards that are presented. -/
def presented (events : List Event) : List Bytes :=
  events.filterMap fun
    | .card uid _ _ => some (uidToString uid)
    | _ => none

/-! ### Numbers -/

variable {cfg : HwConfig} {d : Device} {sent : List Post}

/-- The counter in memory against the one in the storage. -/
def InStep (sent : List Post) (n : Nat) (d : Device) : Prop :=
  match d.stage with
  | .off => True
  | .counted _ => d.hwSeq.toNat = (d.nvs.getD 0).toNat + 1 ∧ (d.nvs.getD 0).toNat < n
  | .stored _ => d.hwSeq = d.nvs.getD 0 ∧ 0 < d.hwSeq.toNat ∧ ∀ p ∈ sent, p.hwSeq < d.hwSeq
  | _ => d.hwSeq = d.nvs.getD 0

/-- What was sent is counted in the storage, and the storage has counted at most `n` steps. -/
structure Counted (sent : List Post) (n : Nat) (d : Device) : Prop where
  ascending : sent.Pairwise (·.hwSeq < ·.hwSeq)
  positive : ∀ p ∈ sent, 0 < p.hwSeq
  stored : ∀ p ∈ sent, p.hwSeq ≤ d.nvs.getD 0
  bound : (d.nvs.getD 0).toNat ≤ n
  inStep : d.InStep sent n

theorem counted_new : Counted [] 0 {} where
  ascending := .nil
  positive := nofun
  stored := nofun
  bound := by simp
  inStep := trivial

theorem InStep.mono {n m : Nat} (h : d.InStep sent n) (hle : n ≤ m) : d.InStep sent m := by
  unfold InStep at *
  split at h
  · trivial
  · exact ⟨h.1, h.2.trans_le hle⟩
  · exact h
  · exact h

/-- One step, if the storage does not fail. -/
theorem Counted.step {n : Nat} (h : Counted sent n d) (hn : n + 1 < 2 ^ 64) {e : Event}
    (he : e ≠ .store false) : Counted (sent ++ d.sends e) (n + 1) (d.step cfg e) := by
  have hbound : (d.nvs.getD 0).toNat ≤ n + 1 := Nat.le_succ_of_le h.bound
  have hsame : Counted sent (n + 1) d :=
    { h with
      bound := hbound
      inStep := h.inStep.mono (Nat.le_succ n) }
  have hstep := h.inStep
  unfold InStep at hstep
  cases e with
  | powerOn =>
    simp only [Device.step, sends, List.append_nil]
    split_ifs
    · exact { hsame with inStep := rfl }
    · exact hsame
  | powerOff =>
    simp only [Device.step, sends, List.append_nil]
    exact { hsame with inStep := trivial }
  | card uid now connected =>
    simp only [Device.step, sends, List.append_nil]
    split_ifs with hskip hconnected
    · exact hsame
    · obtain ⟨hwaiting, -⟩ := not_or.mp hskip
      rw [not_not.mp hwaiting] at hstep
      have hnext : (d.hwSeq + 1).toNat = (d.nvs.getD 0).toNat + 1 := by
        have hle := h.bound
        rw [hstep, UInt64.toNat_add, UInt64.toNat_one]
        omega
      exact { hsame with inStep := ⟨hnext, Nat.lt_succ_of_le h.bound⟩ }
    · obtain ⟨hwaiting, -⟩ := not_or.mp hskip
      rw [not_not.mp hwaiting] at hstep
      refine { hsame with inStep := ?_ }
      rw [InStep, not_not.mp hwaiting]
      exact hstep
  | store written =>
    obtain rfl : written = true := by
      cases written with
      | true => rfl
      | false => exact absurd rfl he
    cases hstage : d.stage with
    | counted uid =>
      simp only [Device.step, sends, hstage, List.append_nil, if_pos]
      rw [hstage] at hstep
      have hlt : ∀ p ∈ sent, p.hwSeq < d.hwSeq := by
        intro p hp
        have hle := UInt64.le_iff_toNat_le.mp (h.stored p hp)
        rw [UInt64.lt_iff_toNat_lt]
        omega
      have hpos : 0 < d.hwSeq.toNat := by omega
      have hroom : d.hwSeq.toNat ≤ n + 1 := by omega
      exact { h with
        stored := fun p hp => UInt64.le_of_lt (hlt p hp)
        bound := hroom
        inStep := ⟨rfl, hpos, hlt⟩ }
    | _ =>
      simp only [Device.step, sends, hstage, List.append_nil]
      exact hsame
  | post =>
    cases hstage : d.stage with
    | stored uid =>
      simp only [Device.step, sends, hstage]
      rw [hstage] at hstep
      obtain ⟨hequal, hpos, hlt⟩ := hstep
      have hall : ∀ {P : Post → Prop}, (∀ p ∈ sent, P p) → P ⟨uid, d.hwSeq⟩ →
          ∀ p ∈ sent ++ [⟨uid, d.hwSeq⟩], P p := by
        simp only [List.mem_append, List.mem_singleton]
        grind
      exact {
        ascending := by
          rw [List.pairwise_append]
          exact ⟨h.ascending, List.pairwise_singleton _ _, by simpa using hlt⟩
        positive := hall h.positive (UInt64.lt_iff_toNat_lt.mpr hpos)
        stored := hall h.stored (UInt64.le_of_eq hequal)
        bound := hbound
        inStep := hequal }
    | _ =>
      simp only [Device.step, sends, hstage, List.append_nil]
      exact hsame
  | answer code resp =>
    cases hstage : d.stage with
    | posted uid =>
      simp only [Device.step, sends, hstage, List.append_nil]
      rw [hstage] at hstep
      exact { hsame with inStep := hstep }
    | _ =>
      simp only [Device.step, sends, hstage, List.append_nil]
      exact hsame

theorem counted_posts (cfg : HwConfig) (events : List Event) (hlength : events.length < 2 ^ 64)
    (hstored : .store false ∉ events) :
    Counted (posts cfg events) events.length (run (step cfg) {} events) := by
  induction events using List.reverseRecOn with
  | nil => exact counted_new
  | append_singleton events e ih =>
    rw [List.length_append] at hlength ⊢
    have hlast : e ≠ .store false := by
      rintro rfl
      exact hstored (by simp)
    have hcounted := ih (by omega) fun hmem => hstored (List.mem_append_left _ hmem)
    rw [posts, trace_snoc, run_snoc]
    exact hcounted.step (by simpa using hlength) hlast

/-- The numbers that a device posts ascend, however often the power fails, as long as the storage
does not. -/
theorem posts_ascend (cfg : HwConfig) (events : List Event) (hlength : events.length < 2 ^ 64)
    (hstored : .store false ∉ events) :
    (posts cfg events).Pairwise (·.hwSeq < ·.hwSeq) ∧ ∀ p ∈ posts cfg events, 0 < p.hwSeq :=
  let hcounted := counted_posts cfg events hlength hstored
  ⟨hcounted.ascending, hcounted.positive⟩

/-- A device counts no further than the number of its events. -/
theorem hwSeq_le_length {cfg : HwConfig} {events : List Event} (hlength : events.length < 2 ^ 64)
    (hstored : .store false ∉ events) {p : Post} (hp : p ∈ posts cfg events) :
    p.hwSeq.toNat ≤ events.length := by
  have hcounted := counted_posts cfg events hlength hstored
  exact (UInt64.le_iff_toNat_le.mp (hcounted.stored p hp)).trans hcounted.bound

/-- The power fails once after a request was posted, and once before the next one is. -/
def powerCuts : List Event :=
  [.powerOn, .card [4, 0xAB] 9 true, .store true, .post, .powerOff,
    .powerOn, .card [4, 0xAB] 9 true, .store true, .powerOff,
    .powerOn, .card [4, 0xAB] 9 true, .store true, .post]

theorem posts_ascend_powerCuts :
    (posts { secretHex := [], readerId := 2, doorId := 6 } powerCuts).map (·.hwSeq) = [1, 3] ∧
      (posts { secretHex := [], readerId := 2, doorId := 6 } powerCuts).Pairwise
        (·.hwSeq < ·.hwSeq) :=
  ⟨by decide +kernel, (posts_ascend _ powerCuts (by decide) (by decide)).1⟩

/-! ### Cards -/

/-- The card whose request has not been posted yet. -/
def pending (d : Device) : List Bytes :=
  match d.stage with
  | .counted uid => [uid]
  | .stored uid => [uid]
  | _ => []

theorem sends_sublist (cfg : HwConfig) (d : Device) (e : Event) :
    ((d.sends e).map (·.uid) ++ (d.step cfg e).pending).Sublist (d.pending ++ presented [e]) := by
  cases e with
  | card uid now connected =>
    simp only [step, sends, presented, List.filterMap_cons, List.filterMap_nil, List.map_nil,
      List.nil_append]
    split_ifs with hskip hconnected
    · exact List.sublist_append_left _ _
    · exact List.sublist_append_right _ _
    · rw [pending, not_not.mp (not_or.mp hskip).1]
      exact List.nil_sublist _
  | powerOff => exact List.nil_sublist _
  | _ =>
    cases hstage : d.stage <;> simp [step, sends, presented, pending, hstage]

/-- What a device posts are cards that were presented to it, each at most once, in order. -/
theorem posts_sublist_presented (cfg : HwConfig) (events : List Event) :
    ((posts cfg events).map (·.uid)).Sublist (presented events) := by
  have hgeneral : ∀ d : Device, ((trace (step cfg) sends d events).map (·.uid)).Sublist
      (d.pending ++ presented events) := by
    induction events with
    | nil => exact fun d => List.nil_sublist _
    | cons e events ih =>
      intro d
      have hsplit : presented (e :: events) = presented [e] ++ presented events :=
        List.filterMap_append (l := [e])
      rw [trace, List.map_append, hsplit, ← List.append_assoc]
      refine ((ih _).append_left _).trans ?_
      rw [← List.append_assoc]
      exact (sends_sublist cfg d e).append_right _
  exact hgeneral {}

theorem mem_presented {name : Bytes} {events : List Event} : name ∈ presented events ↔
    ∃ uid now connected, .card uid now connected ∈ events ∧ name = uidToString uid := by
  rw [presented, List.mem_filterMap]
  constructor
  · rintro ⟨e, he, hname⟩
    cases e with
    | card uid now connected => exact ⟨uid, now, connected, he, (Option.some.inj hname).symm⟩
    | _ => cases hname
  · rintro ⟨uid, now, connected, he, rfl⟩
    exact ⟨_, he, rfl⟩

end Device

end AccessSecurity.Hardware
