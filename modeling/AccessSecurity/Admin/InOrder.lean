import AccessSecurity.Admin.Entitlement

/-!
# Scans in order

A server that is running gives no false alarm. When the numbers of each reader come to be decided
in ascending order, no reader is ever in quarantine, and whether a scan is granted depends only on
the operations of the administrators, its key version and the clock (`served_in_order`). Between
two scans of a reader, and between the two sections of one, anything else can run.
-/

namespace AccessSecurity.Admin

open Foundation Protocol Crypto Core Decision Storage

/-! ## The order of the numbers -/

/-- The numbers of each reader ascend. -/
def NumbersAscend (reqs : List HwUidRequest) : Prop :=
  reqs.Pairwise fun a b => a.readerId = b.readerId → a.hwSeq < b.hwSeq

/-- The last number of each reader, zero before the first. -/
def lastNumbers (reqs : List HwUidRequest) : UInt32 → UInt64 :=
  reqs.foldl (fun last req => Function.update last req.readerId req.hwSeq) fun _ => 0

theorem lastNumbers_snoc (reqs : List HwUidRequest) (req : HwUidRequest) :
    lastNumbers (reqs ++ [req]) =
      Function.update (lastNumbers reqs) req.readerId req.hwSeq := by
  simp [lastNumbers]

theorem lastNumbers_cases (reqs : List HwUidRequest) (r : UInt32) :
    lastNumbers reqs r = 0 ∨ ∃ req ∈ reqs, req.readerId = r ∧ req.hwSeq = lastNumbers reqs r := by
  induction reqs using List.reverseRecOn with
  | nil => exact .inl rfl
  | append_singleton reqs req ih =>
    rw [lastNumbers_snoc]
    by_cases hr : r = req.readerId
    · exact .inr ⟨req, by simp, hr.symm, by simp [hr]⟩
    · rw [Function.update_of_ne hr]
      refine ih.imp_right ?_
      rintro ⟨earlier, hmem, hreader⟩
      exact ⟨earlier, by simp [hmem], hreader⟩

theorem NumbersAscend.lastNumbers_lt {reqs : List HwUidRequest} {req : HwUidRequest}
    (h : NumbersAscend (reqs ++ [req])) (hpos : 0 < req.hwSeq) :
    lastNumbers reqs req.readerId < req.hwSeq := by
  rcases lastNumbers_cases reqs req.readerId with hzero | ⟨earlier, hmem, hreader, hlast⟩
  · rw [hzero]
    exact hpos
  · rw [← hlast]
    exact (List.pairwise_append.mp h).2.2 earlier hmem req (by simp) hreader

theorem NumbersAscend.of_prefix {reqs reqs' : List HwUidRequest} (h : NumbersAscend reqs')
    (hbegins : reqs <+: reqs') : NumbersAscend reqs :=
  h.sublist hbegins.sublist

/-! ## Readers that are not in quarantine -/

theorem unquarantine_of_calm {last : UInt32 → UInt64} {s : EngineState} (h : Engine.Calm last s)
    (r : UInt32) : (s.readers.unquarantine r).2 = s.readers := by
  have hnot := h.notQuarantined r
  unfold Readers.getState at hnot
  unfold Readers.unquarantine
  cases hstate : s.readers r with
  | none => rfl
  | some state =>
    rw [hstate, Option.getD_some] at hnot
    simp [hnot]

section

variable [Sodium]

/-- A frame that can be opened and whose number is new is no reason for an alarm. -/
theorem SharedModes.harmless (hopen : OpenInvertsSeal) {en : Engine} {km : KeyManager}
    {req : SendRequest} (h : SharedModes en km req) {payload : Bytes} {s : EngineState}
    (hfresh : s.windows.contains req.readerId req.seq = false) (now : ClockSite → UInt64) :
    Engine.Harmless (en.verdict now s (serialize (req.frame km payload))) := by
  have hparse : ∀ frame, parseFrame (serialize (req.frame km payload))
      en.handler.config.maxCtLen = .ok frame → frame = req.frame km payload :=
    fun frame hframe => (parseFrame_frame_iff.mp hframe).1
  have hauthentic : ¬ en.handler.Unauthentic s.windows (serialize (req.frame km payload)) := by
    rintro ⟨frame, hframe, -, -, hopens⟩
    rw [hparse frame hframe, h.opens hopen payload] at hopens
    cases hopens
  refine .inr ⟨fun hreplay => ?_,
    not_or.mp (mt FrameHandler.verdict_unauthentic_iff.mp hauthentic)⟩
  obtain ⟨frame, hframe, -, -, hseen⟩ := FrameHandler.verdict_replay_iff.mp hreplay
  rw [hparse frame hframe] at hseen
  exact absurd (hfresh.symm.trans hseen) (by decide)

/-- The numbers are far from the end, and the payload is not too long for the receiver. -/
structure Server.Serves [JsonLib] (srv : Server) (req : HwUidRequest) : Prop where
  noWrap : req.hwSeq.toNat + srv.cfg.experiment.rollbackThreshold.toNat < 2 ^ 64
  fits : ∀ payload, buildPayloadJson req.uid req.action = .ok payload →
    payload.length ≤ srv.cfg.frameHandler.maxCtLen.toNat

variable [JsonLib] [JsonIntegers]

namespace Server

variable {srv : Server} {s : SectionState}

theorem Launched.hwSeq_pos {ops : List StoreOp} {call : HwCall} {flight : Flight}
    (h : Launched srv ops call flight) : 0 < flight.scan.req.hwSeq := by
  obtain ⟨req, hadm, hscan⟩ := h.admitted
  rw [hscan]
  unfold admitHwUid at hadm
  split at hadm
  · cases hadm
  split at hadm
  · cases hadm
  split at hadm
  · cases hadm
  split_ifs at hadm with hzero
  obtain rfl := Except.ok.inj hadm
  exact UInt64.pos_iff_ne_zero.mpr hzero

/-- The scan that a section handles. -/
def handles (s : SectionState) : Section → List HwUidRequest
  | .decide id _ => (s.flights id).toList.map (·.scan.req)
  | _ => []

/-- The scans whose second section runs, in their order. -/
def handled (srv : Server) (ops : List StoreOp) (sections : List Section) : List HwUidRequest :=
  trace srv.step handles (opened ops) sections

theorem handled_begins {ops : List StoreOp} {before sections : List Section}
    (h : before <+: sections) : srv.handled ops before <+: srv.handled ops sections := by
  obtain ⟨after, rfl⟩ := h
  rw [handled, handled, trace_append]
  exact List.prefix_append _ _

/-! ## The engine stays calm -/

/-- A request of an administrator. -/
theorem calm_admin {last : UInt32 → UInt64} (h : Engine.Calm last s.engine) (call : AdminCall) :
    Engine.Calm last (srv.step s (.admin call)).engine := by
  refine h.of_control s.engine _ ⟨(srv.adminRoute_effect call s.toAdminState).windows, ?_⟩
  rcases srv.adminRoute_readers call s.toAdminState with hsame | ⟨r, hlifted⟩
  · exact hsame
  · exact hlifted.trans (unquarantine_of_calm h r)

section

variable (hopen : OpenInvertsSeal) {ops : List StoreOp} {sections : List Section}

include hopen

omit [JsonIntegers] in
/-- The second section, with a number that is new. -/
theorem calm_decideFlight {flight : Flight} (hbuilt : buildEncryptedFrameBytes srv.keyManager
    ((srv.app .empty).sendRequest flight.scan flight.kv) = .ok flight.frameBytes)
    (hserves : srv.Serves flight.scan.req) {last : UInt32 → UInt64}
    (hnew : last flight.scan.req.readerId < flight.scan.req.hwSeq) {e : EngineState}
    (he : Engine.Calm last e) (db : AccessDb) (env : Env) :
    Engine.Calm (Function.update last flight.scan.req.readerId flight.scan.req.hwSeq)
      (after ((srv.app db).decideFlight env flight) e) := by
  obtain ⟨payload, hpayload, hframe⟩ := SendRequest.build_ok_iff.mp hbuilt
  have hshared : SharedModes (srv.app db).engine srv.keyManager
      ((srv.app .empty).sendRequest flight.scan flight.kv) := (srv.app db).sharedModes _ _
  have hparse : parseFrame flight.frameBytes (srv.app db).engine.frameHandlerCfg.maxCtLen =
      .ok (((srv.app .empty).sendRequest flight.scan flight.kv).frame srv.keyManager payload) := by
    rw [hframe]
    exact parseFrame_frame_iff.mpr ⟨rfl, hserves.fits payload hpayload⟩
  have hle : ∀ r, last r ≤
      Function.update last flight.scan.req.readerId flight.scan.req.hwSeq r := by
    intro r
    by_cases hr : r = flight.scan.req.readerId
    · rw [hr, Function.update_self]
      exact UInt64.le_of_lt hnew
    · rw [Function.update_of_ne hr]
      exact UInt64.le_refl _
  rw [AppState.decideFlight, after_bind_pure]
  refine Engine.handleFrameBytes_calm (Function.update_self ..) hserves.noWrap hshared.nonceOk he
    hle hparse rfl ?_
  rw [hframe]
  exact hshared.harmless hopen (he.fresh _ _ hnew) env.now

/-- After scans in order the engine has met nothing beyond their last numbers. -/
theorem calm_run_in_order (hserves : ∀ req ∈ srv.handled ops sections, srv.Serves req)
    (hascend : NumbersAscend (srv.handled ops sections)) :
    Engine.Calm (lastNumbers (srv.handled ops sections))
      (run srv.step (opened ops) sections).engine := by
  induction sections using List.reverseRecOn with
  | nil => exact Engine.calm_initial _
  | append_singleton sections sec ih =>
    have hbegins : sections <+: sections ++ [sec] := List.prefix_append _ _
    have hcalm := ih (fun req hreq => hserves req ((handled_begins hbegins).subset hreq))
      (hascend.of_prefix (handled_begins hbegins))
    rw [handled, trace_snoc] at hserves hascend ⊢
    rw [run_snoc]
    cases sec with
    | admin call =>
      simp only [handles, List.append_nil]
      exact calm_admin hcalm call
    | build id call =>
      simp only [handles, List.append_nil]
      exact step_build (Engine.push_keeps Engine.Calm.of_control _) hcalm id call
    | decide id env =>
      cases hflight : (run srv.step (opened ops) sections).flights id with
      | none =>
        simp only [handles, step, hflight, Option.toList_none, List.map_nil, List.append_nil]
        exact hcalm
      | some flight =>
        simp only [handles, hflight, Option.toList_some, List.map_cons, List.map_nil]
          at hserves hascend ⊢
        obtain ⟨_, _, _, -, hlaunched⟩ := launched_of_flight hflight
        simp only [step, hflight, lastNumbers_snoc]
        exact calm_decideFlight hopen hlaunched.built (hserves _ (by simp))
          (hascend.lastNumbers_lt hlaunched.hwSeq_pos) hcalm _ env

end

/-! ## What is granted -/

/-- The reader, whose key version is `cur`, still accepts that of the frame, and its time. -/
structure UpToDate (srv : Server) (now : UInt64) (flight : Flight) (cur : UInt32) : Prop where
  keyVersion : flight.kv = cur ∨ (srv.cfg.frameHandler.allowPreviousKeyVersion = true ∧
    1 < cur.toNat ∧ flight.kv.toNat + 1 = cur.toNat)
  inTime : srv.cfg.frameHandler.maxSkewMs ≠ 0 →
    ((now.toNat : Int) - (flight.scan.env.now .hwTimestamp).toNat).natAbs ≤
      srv.cfg.frameHandler.maxSkewMs.toNat

omit [Sodium] [JsonIntegers] in
/-- A calm engine has nothing of its own against a new number. -/
theorem presentable_of_calm {last : UInt32 → UInt64} {e : EngineState}
    (he : Engine.Calm last e) {flight : Flight} (hserves : srv.Serves flight.scan.req)
    (hnew : last flight.scan.req.readerId < flight.scan.req.hwSeq) {now : UInt64}
    {cur : UInt32} : Presentable srv e now flight cur ↔ srv.UpToDate now flight cur := by
  refine ⟨fun h => ⟨h.keyVersion, h.inTime⟩, fun h => ?_⟩
  exact {
    keyVersion := h.keyVersion
    fresh := fun _ => he.fresh _ _ hnew
    inTime := h.inTime
    fits := hserves.fits
    notQuarantined := fun _ => he.isQuarantined _
    noRollback := fun _ _ => ReaderState.not_rollsBack hserves.noWrap
      (UInt64.le_trans (he.maxSeenSeq_le _) (UInt64.le_of_lt hnew)) }

section

variable (hopen : OpenInvertsSeal) {ops : List StoreOp} {sections : List Section}
  (hserves : ∀ req ∈ srv.handled ops sections, srv.Serves req)
  (hascend : NumbersAscend (srv.handled ops sections))

include hopen hserves hascend

theorem calm_throughout {before : List Section} (hbegins : before <+: sections) :
    Engine.Calm (lastNumbers (srv.handled ops before))
      (run srv.step (opened ops) before).engine :=
  calm_run_in_order hopen (fun req hreq => hserves req ((handled_begins hbegins).subset hreq))
    (hascend.of_prefix (handled_begins hbegins))

/-- A decision of a run in order. -/
theorem granted_in_order_iff (hjson : RequestsRoundTrip) (hutf8 : ParsesUtf8)
    {before : List Section} {id : Nat} {env : Env}
    (hbegins : before ++ [.decide id env] <+: sections) {flight : Flight}
    (hflight : (run srv.step (opened ops) before).flights id = some flight)
    {resp : HwResponse} {t : EngineState}
    (h : Returns ((srv.app (run srv.step (opened ops) before).db).decideFlight env flight)
      (run srv.step (opened ops) before).engine resp t) :
    resp.allow = true ↔ flight.scan.req.action = bytesOf "open" ∧ flight.scan.req.uid ≠ [] ∧
      ∃ cur, Entitled srv (ops ++ srv.history before) flight.scan.req cur ∧
        srv.UpToDate (env.now .skewCheck) flight cur := by
  obtain ⟨_, _, _, -, hlaunched⟩ := launched_of_flight hflight
  have hhandled : srv.handled ops (before ++ [.decide id env]) =
      srv.handled ops before ++ [flight.scan.req] := by
    rw [handled, trace_snoc]
    simp only [handles, hflight, Option.toList_some, List.map_cons, List.map_nil]
    rfl
  have hsofar := hascend.of_prefix (handled_begins hbegins)
  have hmem : flight.scan.req ∈ srv.handled ops sections :=
    (handled_begins hbegins).subset (by simp [hhandled])
  have hcalm := calm_throughout hopen hserves hascend ((List.prefix_append _ _).trans hbegins)
  rw [hhandled] at hsofar
  rw [db_opened] at h
  rw [hlaunched.granted_iff hopen hjson hutf8 h]
  refine and_congr_right fun _ => and_congr_right fun _ => exists_congr fun cur =>
    and_congr_right fun _ => ?_
  exact presentable_of_calm hcalm (hserves _ hmem) (hsofar.lastNumbers_lt hlaunched.hwSeq_pos)

end

end Server

end

/-- The sample scan, and a request of the administrator between its two sections. -/
def interruptedSections : List Section :=
  [.build 0 (sampleCall "1"), .admin ⟨.reader (.deleteReader readerEight), [], {}⟩,
    .decide 0 .quiet]

end AccessSecurity.Admin
