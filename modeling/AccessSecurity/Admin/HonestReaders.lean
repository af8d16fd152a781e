import AccessSecurity.Admin.Agreement
import AccessSecurity.Decision.Calm
import AccessSecurity.Foundation.Run

/-!
# Honest readers

Scans decided in process, interleaved over any readers, with sequence numbers that
increase at each of them. The senders' counters and the engine are two machines on the
same inputs; that the engine stays calm with respect to the counters is the invariant that
links them (`calm_run`). So no reader is ever quarantined, and every scan gets the answer
that the store's tables prescribe for it (`no_false_alarm`).
-/

namespace AccessSecurity.Admin

open Foundation Protocol Crypto Core Decision

/-- A scan counts at its reader. -/
def count (last : UInt32 → UInt64) (scan : Scan) : UInt32 → UInt64 :=
  Function.update last scan.req.readerId scan.req.hwSeq

/-- The number of a scan is above the last one of its reader. -/
def Counts (last : UInt32 → UInt64) (scan : Scan) : Prop :=
  last scan.req.readerId < scan.req.hwSeq

@[simp] theorem count_self (last : UInt32 → UInt64) (scan : Scan) :
    count last scan scan.req.readerId = scan.req.hwSeq := by
  simp [count]

theorem le_count {last : UInt32 → UInt64} {scan : Scan} (h : Counts last scan) (r : UInt32) :
    last r ≤ count last scan r := by
  by_cases hr : r = scan.req.readerId
  · rw [hr, count_self]
    exact UInt64.le_of_lt h
  · simp [count, hr]

variable [Sodium] [JsonLib]

/-- What the store's tables say about a card at a reader and a door. -/
def AppState.prescribed (app : AppState) (req : HwUidRequest) : DecisionResult :=
  let kv := app.store.currentKeyVersionForReader req.readerId
  if kv = 0 then Engine.createDeniedResult "unknown_reader"
  else if app.cfg.frameHandler.enforceReaderDoorBinding = true ∧
      app.store.isReaderAllowedDoor req.readerId req.doorId = false then
    Engine.createDeniedResult "reader_door_forbidden"
  else
    match app.engine.roleOf app.store kv req.uid with
    | none => Engine.createDeniedResult "unknown_card"
    | some role =>
      if app.store.isAllowed req.doorId role then { allow := true, reason := "ok" }
      else Engine.createDeniedResult "forbidden"

/-- A scan of a valid card for `open`, in time and within the limits of the receiver. -/
structure AppState.Honest (app : AppState) (scan : Scan) : Prop where
  uid : ValidUtf8 scan.req.uid
  uid_ne : scan.req.uid ≠ []
  action : scan.req.action = bytesOf "open"
  noWrap : scan.req.hwSeq.toNat + app.cfg.experiment.rollbackThreshold.toNat < 2 ^ 64
  fits : ∀ payload, buildPayloadJson scan.req.uid scan.req.action = .ok payload →
    payload.length ≤ app.cfg.frameHandler.maxCtLen.toNat
  inTime : app.cfg.frameHandler.maxSkewMs ≠ 0 →
    (((scan.env.now .skewCheck).toNat : Int) - (scan.env.now .hwTimestamp).toNat).natAbs ≤
      app.cfg.frameHandler.maxSkewMs.toNat

/-- A scan ends in the state it has reached, also when it throws. -/
def AppState.step (app : AppState) (s : EngineState) (scan : Scan) : EngineState :=
  after (app.processHwUid scan) s

omit [JsonLib] in
theorem AppState.prescribed_reason (app : AppState) (req : HwUidRequest) :
    (app.prescribed req).reason ∉
      ["replay", "decrypt_failed", "bad_key_version", "quarantined"] := by
  unfold prescribed
  dsimp only
  split_ifs
  · decide
  · decide
  · split
    · decide
    · split_ifs <;> decide

section

variable (hopen : OpenInvertsSeal) (hjson : RequestsRoundTrip) {app : AppState} {scan : Scan}
  (hhonest : app.Honest scan)

include hjson hhonest in
/-- The frame of an honest scan, and the request in it. -/
theorem AppState.Honest.built (kv : UInt32) : ∃ payload,
    buildPayloadJson scan.req.uid scan.req.action = .ok payload ∧
    buildEncryptedFrameBytes app.keyManager (app.sendRequest scan kv) =
      .ok (serialize ((app.sendRequest scan kv).frame app.keyManager payload)) ∧
    parseAccessRequestJson payload = .ok ⟨scan.req.uid, bytesOf "open"⟩ := by
  obtain ⟨payload, hdump, hparse⟩ := hjson scan.req.uid scan.req.action hhonest.uid
    ⟨"open", hhonest.action.symm⟩
  refine ⟨payload, hdump, SendRequest.build_ok_iff.mpr ⟨payload, hdump, rfl⟩, ?_⟩
  rw [parseAccessRequestJson_of_roundTrip hparse, hhonest.action]
  exact ⟨rfl, hhonest.uid_ne, by decide⟩

variable {kv : UInt32} {payload : Bytes}
  (hpayload : buildPayloadJson scan.req.uid scan.req.action = .ok payload)

include hhonest hpayload in
theorem AppState.Honest.parses :
    parseFrame (serialize ((app.sendRequest scan kv).frame app.keyManager payload))
      app.engine.frameHandlerCfg.maxCtLen =
        .ok ((app.sendRequest scan kv).frame app.keyManager payload) :=
  parseFrame_frame_iff.mpr ⟨rfl, hhonest.fits payload hpayload⟩

include hhonest hpayload in
theorem AppState.Honest.verdict_header (kv : UInt32) (s : EngineState) :
    (app.engine.verdict scan.env.now s
      (serialize ((app.sendRequest scan kv).frame app.keyManager payload))).header =
        (app.sendRequest scan kv).header app.keyManager := by
  have hparse : parseFrame (serialize ((app.sendRequest scan kv).frame app.keyManager payload))
      app.engine.handler.config.maxCtLen = _ := hhonest.parses hpayload
  rw [Engine.verdict, FrameHandler.verdict_header hparse]
  rfl

include hhonest in
theorem AppState.Honest.noWrap_header :
    ((app.sendRequest scan kv).header app.keyManager).seq.toNat +
      app.engine.config.rollbackThreshold.toNat < 2 ^ 64 :=
  hhonest.noWrap

variable (hkv : kv = app.store.currentKeyVersionForReader scan.req.readerId) (hzero : kv ≠ 0)

include hopen hhonest hpayload hkv hzero in
/-- The verdict on an honest scan depends on the reader and the door only. -/
theorem AppState.Honest.verdict {s : EngineState}
    (hfresh : s.windows.contains scan.req.readerId scan.req.hwSeq = false) :
    app.engine.verdict scan.env.now s
        (serialize ((app.sendRequest scan kv).frame app.keyManager payload)) =
      if app.cfg.frameHandler.enforceReaderDoorBinding = true ∧
          app.store.isReaderAllowedDoor scan.req.readerId scan.req.doorId = false then
        makeError "reader_door_forbidden" ((app.sendRequest scan kv).header app.keyManager)
      else
        { allow := true
          reason := "ok"
          plaintext := payload
          header := (app.sendRequest scan kv).header app.keyManager } := by
  let f := (app.sendRequest scan kv).frame app.keyManager payload
  have hparse : app.engine.handler.parseFrame (serialize f) = .ok f :=
    FrameHandler.parseFrame_ok.mpr (hhonest.parses hpayload)
  have hregistered : app.store.currentKeyVersionForReader f.header.readerId ≠ 0 := hkv ▸ hzero
  have hverdict : app.engine.verdict scan.env.now s (serialize f) =
      app.engine.handler.verdictOn (scan.env.now .skewCheck) s.windows f := by
    simp only [Engine.verdict, FrameHandler.verdict, hparse]
  rw [hverdict]
  by_cases hforbidden : app.cfg.frameHandler.enforceReaderDoorBinding = true ∧
      app.store.isReaderAllowedDoor scan.req.readerId scan.req.doorId = false
  · have hstore : app.engine.handler.store = some app.store := rfl
    simp only [FrameHandler.verdictOn, hstore, if_neg hregistered, if_pos hforbidden]
    exact if_pos hforbidden
  · rw [if_neg hforbidden]
    have hpasses : app.engine.handler.Passes (scan.env.now .skewCheck) s.windows f app.store
        payload := by
      refine ⟨rfl, hregistered, fun henforce => ?_, FrameHandler.keyOk_iff.mpr (.inl hkv),
        fun _ => hfresh, (app.sharedModes scan kv).opens hopen payload,
        FrameHandler.skew_eq_none_iff.mpr hhonest.inTime⟩
      by_contra hdoor
      exact hforbidden ⟨henforce, Bool.eq_false_of_not_eq_true hdoor⟩
    exact hpasses.verdictOn

include hopen hhonest hpayload hkv hzero in
/-- What the engine decides on an honest scan is what the tables prescribe. -/
theorem AppState.Honest.decide_eq
    (hrequest : parseAccessRequestJson payload = .ok ⟨scan.req.uid, bytesOf "open"⟩)
    {s : EngineState} (hfresh : s.windows.contains scan.req.readerId scan.req.hwSeq = false) :
    app.engine.decide (app.engine.verdict scan.env.now s
      (serialize ((app.sendRequest scan kv).frame app.keyManager payload))) =
        app.prescribed scan.req := by
  rw [hhonest.verdict hopen hpayload hkv hzero hfresh]
  unfold AppState.prescribed
  rw [← hkv, if_neg hzero]
  split_ifs with hforbidden
  · rfl
  · have hstore : app.engine.store = some app.store := rfl
    have hregistered : app.store.currentKeyVersionForReader
        ((app.sendRequest scan kv).header app.keyManager).readerId = kv := hkv.symm
    simp only [Engine.decide, hrequest, Engine.policy, hstore, hregistered, if_neg hzero]
    rfl

include hopen hhonest hpayload hkv hzero in
theorem AppState.Honest.harmless {s : EngineState}
    (hfresh : s.windows.contains scan.req.readerId scan.req.hwSeq = false) :
    Engine.Harmless (app.engine.verdict scan.env.now s
      (serialize ((app.sendRequest scan kv).frame app.keyManager payload))) := by
  rw [hhonest.verdict hopen hpayload hkv hzero hfresh]
  split_ifs
  · right
    simp [makeError]
  · left
    rfl

end

/-! ## One scan -/

section

variable (hopen : OpenInvertsSeal) (hjson : RequestsRoundTrip) {app : AppState}
  (hlocal : app.cfg.decisionMode ≠ "remote") {scan : Scan} (hhonest : app.Honest scan)
  {last : UInt32 → UInt64} (hcounts : Counts last scan) {s : EngineState}
  (hs : Engine.Calm last s)

include hopen hjson hlocal hhonest hcounts hs in
/-- A scan with a new number keeps the engine calm. -/
theorem calm_step : Engine.Calm (count last scan) (app.step s scan) := by
  have hle := le_count hcounts
  unfold AppState.step AppState.processHwUid
  refine after_bind_of (keeps_lift _ s (hs.mono hle)) fun kv u hkv => ?_
  obtain ⟨haccess, rfl⟩ := returns_lift.mp hkv
  obtain ⟨hkv, -⟩ := Env.access_ok haccess
  by_cases hzero : kv = 0
  · rw [if_pos hzero]
    exact keeps_bind (Engine.push_keeps Engine.Calm.of_control _ _) (fun _ => keeps_pure _) _
      (hs.mono hle)
  rw [if_neg hzero]
  have hpush := Engine.push_keeps (P := Engine.Calm last) Engine.Calm.of_control app.engine
  refine after_bind_of ((hpush _ _ hs).mono hle) fun _ u hret => ?_
  have hu : Engine.Calm last u := hret.after_eq ▸ hpush _ _ hs
  obtain ⟨payload, hpayload, hbuild, -⟩ := hhonest.built hjson kv
  rw [hbuild]
  refine after_bind_of (keeps_lift _ u (hu.mono hle)) fun frameBytes v hlift => ?_
  obtain ⟨heq, rfl⟩ := returns_lift.mp hlift
  obtain rfl := Except.ok.inj heq
  rw [if_neg hlocal]
  have hfresh := hu.fresh _ _ hcounts
  have hlast : count last scan ((app.sendRequest scan kv).header app.keyManager).readerId =
      ((app.sendRequest scan kv).header app.keyManager).seq := count_self last scan
  have hcall := Engine.handleFrameBytes_calm hlast hhonest.noWrap_header
    (app.sharedModes scan kv).nonceOk hu hle (hhonest.parses hpayload) rfl
    (hhonest.harmless hopen hpayload hkv hzero hfresh)
  refine after_bind_of hcall fun r w hret => ?_
  exact keeps_pure _ _ (hret.after_eq ▸ hcall)

include hjson hlocal hhonest in
/-- Without database faults a scan is answered. -/
theorem processHwUid_total (henv : scan.env.NoFault) : Total (app.processHwUid scan) s := by
  unfold AppState.processHwUid
  refine total_bind (total_lift (henv.access _ _) _) fun kv u _ => ?_
  split_ifs
  · exact total_bind (Engine.push_total _ _ _) fun _ _ _ => total_pure _ _
  · refine total_bind (Engine.push_total _ _ _) fun _ _ _ => ?_
    obtain ⟨payload, -, hbuild, -⟩ := hhonest.built hjson kv
    refine total_bind (total_lift hbuild _) fun _ _ _ => ?_
    exact total_bind (Engine.handleFrameBytes_total _ henv _ _) fun _ _ _ => total_pure _ _

include hopen hjson hlocal hhonest hcounts hs in
/-- A scan with a new number gets the answer that the tables prescribe. -/
theorem processHwUid_answer {resp : HwResponse} {t : EngineState}
    (h : Returns (app.processHwUid scan) s resp t) :
    resp.allow = (app.prescribed scan.req).allow ∧
      resp.reason = (app.prescribed scan.req).reason := by
  obtain ⟨hzero, rfl, -⟩ | ⟨hzero, frameBytes, u, r, hbuild, hsame, hallow, hreason, hcall⟩ :=
    returns_processHwUid h
  · unfold AppState.prescribed
    rw [if_pos hzero]
    exact ⟨rfl, rfl⟩
  obtain ⟨kv, hkv⟩ : ∃ kv, kv = app.store.currentKeyVersionForReader scan.req.readerId := ⟨_, rfl⟩
  rw [← hkv] at hzero hbuild
  rw [if_neg hlocal] at hcall
  have hu : Engine.Calm last u := Engine.Calm.of_control _ _ hsame hs
  obtain ⟨payload, hpayload, hbuilt, hrequest⟩ := hhonest.built hjson kv
  obtain rfl : _ = frameBytes := Except.ok.inj (hbuilt.symm.trans hbuild)
  have hdecide := hhonest.decide_eq hopen hpayload hkv hzero hrequest (hu.fresh _ _ hcounts)
  have hheader := hhonest.verdict_header hpayload kv u
  have hlast : count last scan ((app.sendRequest scan kv).header app.keyManager).readerId =
      ((app.sendRequest scan kv).header app.keyManager).seq := count_self last scan
  have hscreen := hu.screen hlast hhonest.noWrap_header (app.sharedModes scan kv).nonceOk
    (le_count hcounts) scan.env.now
  have hr := (Engine.returns_handleFrameBytes hcall).answer
  rw [Engine.answer, hdecide, hheader, hscreen, if_neg (by simp)] at hr
  rw [hallow, hreason, hr]
  exact ⟨rfl, rfl⟩

end

/-! ## Runs -/

section

variable (hopen : OpenInvertsSeal) (hjson : RequestsRoundTrip) {app : AppState}
  (hlocal : app.cfg.decisionMode ≠ "remote")

include hopen hjson hlocal in
theorem calm_run {scans : List Scan} (hhonest : ∀ scan ∈ scans, app.Honest scan)
    {last : UInt32 → UInt64} (hcounts : Along count Counts last scans) {s : EngineState}
    (hs : Engine.Calm last s) : Engine.Calm (run count last scans) (run app.step s scans) := by
  induction scans generalizing last s with
  | nil => exact hs
  | cons scan scans ih =>
    obtain ⟨hscan, hscans⟩ := (along_cons _ _ _).mp hcounts
    have hfirst := hhonest scan (.head _)
    exact ih (fun c hc => hhonest c (.tail _ hc)) hscans
      (calm_step hopen hjson hlocal hfirst hscan hs)

include hopen hjson hlocal in
/-- In a run of honest scans whose numbers increase at each reader, from zero, no reader is
ever in quarantine, and every scan gets the answer that the store's tables prescribe. -/
theorem no_false_alarm {scans : List Scan} (hhonest : ∀ scan ∈ scans, app.Honest scan)
    (hcounts : Along count Counts (fun _ => 0) scans) :
    (∀ pre, pre <+: scans → ∀ r,
      (run app.step .initial pre).readers.isQuarantined r = false) ∧
    ∀ pre scan, pre ++ [scan] <+: scans →
      (scan.env.NoFault → Total (app.processHwUid scan) (run app.step .initial pre)) ∧
      ∀ resp t, Returns (app.processHwUid scan) (run app.step .initial pre) resp t →
        resp.allow = (app.prescribed scan.req).allow ∧
        resp.reason = (app.prescribed scan.req).reason ∧
        resp.reason ∉ ["replay", "decrypt_failed", "bad_key_version", "quarantined"] := by
  have hcalm : ∀ pre, pre <+: scans →
      Engine.Calm (run count (fun _ => 0) pre) (run app.step .initial pre) := by
    rintro pre ⟨rest, rfl⟩
    have hpre := ((along_append _ _ _).mp hcounts).1
    refine calm_run hopen hjson hlocal (fun scan hscan => hhonest scan ?_) hpre
      (Engine.calm_initial _)
    exact List.mem_append_left _ hscan
  refine ⟨fun pre hpre r => (hcalm pre hpre).isQuarantined r, ?_⟩
  rintro pre scan ⟨rest, rfl⟩
  have hscan := hhonest scan (by simp)
  have hs := hcalm pre ⟨[scan] ++ rest, by simp⟩
  have hnext : Counts (run count (fun _ => 0) pre) scan := by
    have hlast := (along_append _ _ _).mp ((along_append _ _ _).mp hcounts).1
    exact hlast.2.1
  refine ⟨processHwUid_total hjson hlocal hscan, fun resp t h => ?_⟩
  obtain ⟨hallow, hreason⟩ := processHwUid_answer hopen hjson hlocal hscan hnext hs h
  exact ⟨hallow, hreason, hreason ▸ app.prescribed_reason scan.req⟩

end

omit [Sodium] [JsonLib] in
/-- Two scans of the sample application are both granted. -/
theorem no_false_alarm_sample :
    letI : Sodium := .transparent
    letI : JsonLib := .requests
    ∃ resp t, Returns (sampleApp.processHwUid (sampleScan 2 .answered))
        (run sampleApp.step .initial [sampleScan 1 .answered]) resp t ∧
      resp.allow = true ∧ resp.reason = "ok" := by
  let _ : Sodium := .transparent
  let _ : JsonLib := .requests
  have hhonest : ∀ scan ∈ [sampleScan 1 .answered, sampleScan 2 .answered],
      sampleApp.Honest scan := by
    have hfits : ∀ payload, buildPayloadJson (bytesOf "card") (bytesOf "open") = .ok payload →
        payload.length ≤ 4096 := by
      intro payload hpayload
      obtain rfl : RequestText.dump (bytesOf "card") (bytesOf "open") = payload :=
        Except.ok.inj hpayload
      decide +kernel
    intro scan hscan
    rcases List.mem_pair.mp hscan with rfl | rfl
    all_goals exact ⟨⟨"card", rfl⟩, by decide, rfl, by decide, hfits, by decide⟩
  have hcounts : Along count Counts (fun _ => 0) [sampleScan 1 .answered, sampleScan 2 .answered] :=
    ⟨by unfold Counts; decide, by unfold Counts; decide, trivial⟩
  obtain ⟨-, hanswers⟩ := no_false_alarm Sodium.transparent_openInvertsSeal requests_roundTrip
    (show sampleApp.cfg.decisionMode ≠ "remote" by decide) hhonest hcounts
  obtain ⟨htotal, hanswer⟩ :=
    hanswers [sampleScan 1 .answered] (sampleScan 2 .answered) (List.prefix_refl _)
  obtain ⟨resp, t, h⟩ := htotal Env.quiet_noFault
  obtain ⟨hallow, hreason, -⟩ := hanswer resp t h
  have hprescribed : sampleApp.prescribed (sampleScan 2 .answered).req =
      { allow := true, reason := "ok" } := by decide +kernel
  rw [hprescribed] at hallow hreason
  exact ⟨resp, t, h, hallow, hreason⟩

end AccessSecurity.Admin
