import AccessSecurity.Admin.Entitlement
import AccessSecurity.Admin.SingleUse
import AccessSecurity.Hardware.Requests
import Mathlib.Tactic.IntervalCases

/-!
# From the card to the door

Devices and one process of the server, in any interleaving, with a network that delays, repeats,
reorders and drops requests, and sends others of its own. As long as nobody but the devices can
sign, a card opens a door at most as often as it was presented there (`grants_presented`). In
the other direction, the device signals access when the operations of the administrators entitle
the card and the engine has nothing against it (`door_opens_iff`).
-/

namespace AccessSecurity.Hardware

open Foundation Protocol Crypto Core Decision Storage Admin

/-- Something at a device, or a critical section of the server. -/
inductive Happening (δ : Type) where
  | device (i : δ) (e : Event)
  | server (sec : Section)

section

variable {δ : Type} [DecidableEq δ]

def eventsOf (i : δ) (hs : List (Happening δ)) : List Event :=
  hs.filterMap fun
    | .device j e => if j = i then some e else none
    | .server _ => none

omit [DecidableEq δ] in
def sectionsOf (hs : List (Happening δ)) : List Section :=
  hs.filterMap fun
    | .device _ _ => none
    | .server sec => some sec

omit [DecidableEq δ] in
theorem sectionsOf_eq_append {hs : List (Happening δ)} {before after : List Section}
    {sec : Section} (h : sectionsOf hs = before ++ sec :: after) :
    ∃ hs₁ hs₂, hs = hs₁ ++ .server sec :: hs₂ ∧ sectionsOf hs₁ = before := by
  obtain ⟨hs₁, hs₂, rfl, hbefore, hlast⟩ := List.filterMap_eq_append_iff.mp h
  obtain ⟨hs₃, last, hs₄, rfl, hnone, hsec, -⟩ := List.filterMap_eq_cons_iff.mp hlast
  cases last with
  | device i e => cases hsec
  | server sec' =>
    obtain rfl := Option.some.inj hsec
    refine ⟨hs₁ ++ hs₃, hs₄, by simp, ?_⟩
    rw [sectionsOf, List.filterMap_append, hbefore, List.filterMap_eq_nil_iff.mpr hnone,
      List.append_nil]

variable [Sodium] [JsonLib] [JsonIntegers]

/-- A request that is admitted has the body of one that a device has posted before. -/
def Unforged (srv : Server) (fleet : δ → HwConfig) (hs : List (Happening δ)) : Prop :=
  ∀ before id call after req, hs = before ++ .server (.build id call) :: after →
    admitHwUid srv.secret call.request = .ok req →
    ∃ i, ∃ p ∈ Device.posts (fleet i) (eventsOf i before),
      call.request.body = bodyText p.uid (fleet i).readerId (fleet i).doorId p.hwSeq

theorem unforged_of_index {srv : Server} {fleet : δ → HwConfig} {hs : List (Happening δ)}
    (h : ∀ n id call, hs[n]? = some (.server (.build id call)) →
      ∃ i, ∃ p ∈ Device.posts (fleet i) (eventsOf i (hs.take n)),
        call.request.body = bodyText p.uid (fleet i).readerId (fleet i).doorId p.hwSeq) :
    Unforged srv fleet hs := by
  rintro before id call after req rfl -
  have hposted := h before.length id call (by simp)
  rwa [List.take_left] at hposted

/-- What is in flight was posted. -/
theorem posted_of_flight (hreads : ReadsBodies) {srv : Server} {fleet : δ → HwConfig}
    {hs : List (Happening δ)} (hunforged : Unforged srv fleet hs) {ops : List StoreOp}
    {before after : List Section} (hsplit : sectionsOf hs = before ++ after) {id : Nat}
    {flight : Flight}
    (hflight : (run srv.step (Server.opened ops) before).flights id = some flight) :
    ∃ i, ∃ p ∈ Device.posts (fleet i) (eventsOf i hs), flight.scan.req = (fleet i).scanOf p := by
  obtain ⟨before', call, after', rfl, hlaunched⟩ := Server.launched_of_flight hflight
  obtain ⟨req, hadm, hscan⟩ := hlaunched.admitted
  rw [List.append_assoc, List.cons_append] at hsplit
  obtain ⟨hs₁, hs₂, rfl, -⟩ := sectionsOf_eq_append hsplit
  obtain ⟨i, p, hp, hbody⟩ := hunforged hs₁ id call hs₂ req rfl hadm
  refine ⟨i, p, ?_, ?_⟩
  · rw [eventsOf, List.filterMap_append, Device.posts, trace_append]
    exact List.mem_append_left _ hp
  · rw [hscan]
    exact scanOf_of_admitted hreads (allHex_post hp) hbody hadm

theorem posted_of_granted (hreads : ReadsBodies) {srv : Server} {fleet : δ → HwConfig}
    {hs : List (Happening δ)} (hunforged : Unforged srv fleet hs) {ops : List StoreOp}
    {req : HwUidRequest} (h : req ∈ srv.granted ops (sectionsOf hs)) :
    ∃ i, ∃ p ∈ Device.posts (fleet i) (eventsOf i hs), req = (fleet i).scanOf p := by
  obtain ⟨before, sec, after, hsplit, hgrants⟩ := mem_trace.mp h
  obtain ⟨id, env, flight, resp, t, rfl, hflight, rfl, -, -⟩ := Server.mem_grants hgrants
  exact posted_of_flight hreads hunforged hsplit hflight

/-- A card opens the door of a device at most as often as it was presented there, and nothing else
opens a door. -/
theorem grants_presented (hreads : ReadsBodies) (srv : Server)
    (hon : srv.cfg.frameHandler.antiReplayEnabled = true) (fleet : δ → HwConfig)
    (hfleet : Function.Injective fun i => (fleet i).readerId) (ops : List StoreOp)
    (hs : List (Happening δ)) (hunforged : Unforged srv fleet hs)
    (hroom : Along srv.step srv.Roomy (Server.opened ops) (sectionsOf hs)) :
    (∀ req ∈ srv.granted ops (sectionsOf hs), ∃ i, ∃ p ∈ Device.posts (fleet i) (eventsOf i hs),
      req = (fleet i).scanOf p) ∧
    ∀ i, (((srv.granted ops (sectionsOf hs)).filter
        (·.readerId = (fleet i).readerId)).map (·.uid)).Subperm
      (Device.presented (eventsOf i hs)) := by
  refine ⟨fun req h => posted_of_granted hreads hunforged h, fun i => ?_⟩
  have hnodup : (srv.granted ops (sectionsOf hs)).Nodup :=
    (Server.granted_nodup hon ops hroom).of_map _
  have hsubset : (srv.granted ops (sectionsOf hs)).filter (·.readerId = (fleet i).readerId) ⊆
      (Device.posts (fleet i) (eventsOf i hs)).map (fleet i).scanOf := by
    intro req hreq
    obtain ⟨hgranted, hreader⟩ := List.mem_filter.mp hreq
    obtain ⟨j, p, hp, rfl⟩ := posted_of_granted hreads hunforged hgranted
    obtain rfl : j = i := hfleet (of_decide_eq_true hreader)
    exact List.mem_map_of_mem hp
  obtain ⟨sent, hperm, hsent⟩ := (hnodup.filter _).subperm hsubset
  have huids := hsent.map (·.uid)
  rw [List.map_map] at huids
  exact ⟨sent.map (·.uid), hperm.map _,
    huids.trans (Device.posts_sublist_presented (fleet i) (eventsOf i hs))⟩

/-! ## What the device signals -/

omit [DecidableEq δ] [Sodium] [JsonIntegers] in
theorem presentable_of_control {srv : Server} {s t : EngineState} (h : Engine.SameControl s t)
    {now : UInt64} {scan : Scan} {kv cur : UInt32} {frameBytes frameBytes' : Bytes}
    (hs : Presentable srv s now ⟨scan, kv, frameBytes⟩ cur) :
    Presentable srv t now ⟨scan, kv, frameBytes'⟩ cur where
  keyVersion := hs.keyVersion
  fresh := by
    rw [h.1]
    exact hs.fresh
  inTime := hs.inTime
  fits := hs.fits
  notQuarantined := by
    rw [h.2]
    exact hs.notQuarantined
  noRollback := by
    rw [h.2]
    exact hs.noRollback

section

variable (hopen : OpenInvertsSeal) (hjson : RequestsRoundTrip) (hutf8 : ParsesUtf8) {srv : Server}
  (hlocal : srv.cfg.admin.decisionMode ≠ "remote") {call : HwCall} {req : HwUidRequest}
  (hadm : admitHwUid srv.secret call.request = .ok req)

include hjson hutf8 hlocal hadm

theorem total_of_admitted (henv : call.env.NoFault) (db : AccessDb) (s : EngineState) :
    Total ((srv.app db).processHwUid (call.scan req)) s := by
  obtain ⟨huid, haction⟩ := validUtf8_of_admitted hutf8 hadm
  obtain ⟨payload, hdump, -⟩ := hjson _ _ huid haction
  have happ : (srv.app db).cfg.decisionMode ≠ "remote" := hlocal
  unfold AppState.processHwUid
  refine total_bind (total_lift (henv.access _ _) _) fun kv u _ => ?_
  split_ifs
  · exact total_bind (Engine.push_total _ _ _) fun _ _ _ => total_pure _ _
  · have hbuild : buildEncryptedFrameBytes (srv.app db).keyManager
        ((srv.app db).sendRequest (call.scan req) kv) = .ok _ :=
      SendRequest.build_ok_iff.mpr ⟨payload, hdump, rfl⟩
    refine total_bind (Engine.push_total _ _ _) fun _ _ _ => ?_
    refine total_bind (total_lift hbuild _) fun _ _ _ => ?_
    exact total_bind (Engine.handleFrameBytes_total _ henv _ _) fun _ _ _ => total_pure _ _

include hopen

/-- A scan that is not interrupted, on tables that have the history `ops`. -/
theorem granted_of_returns {ops : List StoreOp} {s t : EngineState} {resp : HwResponse}
    (h : Returns ((srv.app (run StoreOp.step .empty ops)).processHwUid (call.scan req)) s resp t) :
    resp.allow = true ↔ req.action = bytesOf "open" ∧ req.uid ≠ [] ∧
      ∃ cur, Entitled srv ops req cur ∧ Presentable srv s (call.env.now .skewCheck)
        ⟨call.scan req, cur, []⟩ cur := by
  have hcur : ∀ {cur}, Entitled srv ops req cur → cur =
      SqliteAccessStore.currentKeyVersionForReader req.readerId (run StoreOp.step .empty ops) ∧
        cur ≠ 0 := by
    intro cur hentitled
    obtain ⟨hcur, hne, -⟩ := (entitled_iff srv ops req cur).mp hentitled
    exact ⟨hcur.symm, hne⟩
  obtain ⟨hzero, rfl, -⟩ | ⟨hne, frameBytes, u, r, hbuild, hsame, hallow, -, hcall⟩ :=
    returns_processHwUid h
  · refine iff_of_false (by simp) ?_
    rintro ⟨-, -, cur, hentitled, -⟩
    exact (hcur hentitled).2 ((hcur hentitled).1.trans hzero)
  · rw [if_neg (show (srv.app (run StoreOp.step .empty ops)).cfg.decisionMode ≠ "remote" from
      hlocal)] at hcall
    let flight : Flight := ⟨call.scan req, SqliteAccessStore.currentKeyVersionForReader
      req.readerId (run StoreOp.step .empty ops), frameBytes⟩
    have hlaunched : Server.Launched srv ops call flight := ⟨⟨req, hadm, rfl⟩, rfl, hne, hbuild⟩
    have hdecide : Returns ((srv.app (run StoreOp.step .empty ops)).decideFlight call.env flight) u
        { allow := r.allow
          reason := r.reason
          details := some (req.readerId, req.doorId, req.hwSeq, flight.kv) } t :=
      returns_bind.mpr ⟨r, t, hcall, returns_pure.mpr ⟨rfl, rfl⟩⟩
    rw [hallow, hlaunched.granted_iff hopen hjson hutf8 hdecide]
    refine and_congr_right fun _ => and_congr_right fun _ => exists_congr fun cur =>
      and_congr_right fun hentitled => ?_
    obtain ⟨rfl, -⟩ := hcur hentitled
    exact ⟨presentable_of_control ⟨hsame.1.symm, hsame.2.symm⟩, presentable_of_control hsame⟩

end

end

/-! ## A sample card -/

/-- The first card at the device, posted. -/
def samplePost : Post := ⟨bytesOf "04AB", 1⟩

def postCall : HwCall :=
  letI : Sodium := .transparent
  { sampleCall "1" with request := sampleConfig.request samplePost.uid samplePost.hwSeq }

/-- A library that reads bodies, and requests with any strings. -/
@[reducible] def bodyJsonLib : JsonLib :=
  { JsonLib.requests with
    parse := fun text => (BodyText.parse text).elim (JsonLib.requests.parse text) pure }

theorem readsBodies_bodyJsonLib : @ReadsBodies bodyJsonLib printedIntegers := by
  refine @ReadsBodies.mk bodyJsonLib printedIntegers ?_
    (@ReadsBodies.uint32 BodyText.reader.jsonLib printedIntegers readsBodies_reader)
    (@ReadsBodies.uint64 BodyText.reader.jsonLib printedIntegers readsBodies_reader)
  intro uid readerId doorId hwSeq huid
  change (BodyText.parse _).elim _ _ = _
  rw [BodyText.parse_bodyText huid]
  rfl

/-- The card is presented, and its request arrives twice. -/
def replayedPost : List (Happening Unit) :=
  [.device () .powerOn, .device () (.card [4, 0xAB] 9 true), .device () (.store true),
    .device () .post, .server (.build 0 postCall), .server (.build 1 postCall),
    .server (.decide 0 .quiet), .server (.decide 1 .quiet)]

theorem unforged_replayed : @Unforged Unit _ .transparent bodyJsonLib printedIntegers scanServer
    (fun _ => sampleConfig) replayedPost := by
  refine @unforged_of_index Unit _ .transparent bodyJsonLib printedIntegers _ _ _ ?_
  intro n id call hsection
  have hlength : n < 8 := (List.getElem?_eq_some_iff.mp hsection).1
  have hposted : ∀ m, 4 ≤ m → m ≤ 5 →
      samplePost ∈ Device.posts sampleConfig (eventsOf () (replayedPost.take m)) := by
    intro m hlo hhi
    interval_cases m
    · decide +kernel
    · decide +kernel
  interval_cases n
  all_goals cases hsection
  · exact ⟨(), samplePost, hposted 4 le_rfl (by omega), rfl⟩
  · exact ⟨(), samplePost, hposted 5 (by omega) le_rfl, rfl⟩

/-- A window that is not full drops nothing. -/
theorem roomy_of_free [Sodium] [JsonLib] [JsonIntegers] {srv : Server} {s : SectionState}
    {id : Nat} {env : Env}
    (h : (s.flights id).all (fun flight =>
      let w := s.engine.windows.windowOf srv.cfg.frameHandler.replayWindowSize
        flight.scan.req.readerId
      w.order.length != w.window.toNat) = true) : srv.Roomy s (.decide id env) := by
  intro flight hflight _ hdrops
  rw [hflight] at h
  exact absurd hdrops.2.1 (by simpa using h)

/-- Of two copies of a request one is granted. -/
theorem grants_presented_replayed :
    letI : Sodium := .transparent
    letI : JsonLib := bodyJsonLib
    letI : JsonIntegers := printedIntegers
    scanServer.granted (enrolment samplePost.uid) (sectionsOf replayedPost) =
        [sampleConfig.scanOf samplePost] ∧
      ([samplePost.uid].Subperm (Device.presented (eventsOf () replayedPost))) := by
  have hgranted : @Server.granted .transparent bodyJsonLib printedIntegers scanServer
      (enrolment samplePost.uid) (sectionsOf replayedPost) =
        [sampleConfig.scanOf samplePost] := by decide +kernel
  refine ⟨hgranted, ?_⟩
  have hpresented := (@grants_presented Unit _ .transparent bodyJsonLib printedIntegers
    readsBodies_bodyJsonLib scanServer (by decide) (fun _ => sampleConfig) (fun _ _ _ => rfl)
    (enrolment samplePost.uid) replayedPost ?_ ?_).2 ()
  · rw [hgranted] at hpresented
    exact hpresented
  · exact unforged_replayed
  · refine ⟨trivial, trivial, ?_, ?_, trivial⟩
    · exact @roomy_of_free .transparent bodyJsonLib printedIntegers _ _ _ _ (by decide +kernel)
    · exact @roomy_of_free .transparent bodyJsonLib printedIntegers _ _ _ _ (by decide +kernel)

end AccessSecurity.Hardware
