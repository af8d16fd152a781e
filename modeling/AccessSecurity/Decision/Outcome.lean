import AccessSecurity.Decision.Policy

/-!
# Outcome of processing a frame

The engine as a composition of three pure tables: the frame handler's verdict, what the
detector makes of it (`screen`, `settle`), and the access policy. A call that returns has
these effects and this result (`returns_handleFrameBytes`), and without database faults
every call returns (`handleFrameBytes_total`).
-/

namespace AccessSecurity.Decision.Engine

open Foundation Protocol Crypto Core

/-! ## Detector reports -/

/-- The readers after the sequence number of a frame has been looked at. -/
def afterSeq (en : Engine) (now : ClockSite → UInt64) (readers : Readers) (header : Header) :
    Readers :=
  if 0 < header.seq then
    (readers.report header.readerId
      (ReaderState.reportSeq en.config header.seq (now .reportSeq))).2
  else readers

def rollsBack (en : Engine) (readers : Readers) (header : Header) : Bool :=
  0 < header.seq && (readers.getState header.readerId).rollsBack en.config header.seq

/-- What the detector learns from the verdict on a frame it did not refuse. -/
def settle (en : Engine) (now : ClockSite → UInt64) (readers : Readers) (res : HandleResult) :
    Readers :=
  if en.detectorActive = false then readers
  else if res.allow then
    (readers.report res.header.readerId (ReaderState.reportSuccess res.header.seq)).2
  else if res.reason = "replay" then
    (readers.report res.header.readerId
      (ReaderState.reportReplay res.header.seq (now .reportReplay))).2
  else if res.reason = "mac_verification_failed" ∨ res.reason = "decrypt_failed" then
    (readers.report res.header.readerId
      (ReaderState.reportTagFailure en.config (now .reportTagFailure))).2
  else readers

theorem checkRollback_result {en : Engine} {env : Env} {header : Header} {s t : EngineState}
    {refused : Bool} (hactive : en.detectorActive = true)
    (h : Returns (en.checkRollback env header) s refused t) :
    refused = en.rollsBack s.readers header ∧ t.windows = s.windows ∧
      t.readers = en.afterSeq env.now s.readers header := by
  unfold checkRollback at h
  unfold rollsBack afterSeq
  by_cases hseq : 0 < header.seq
  · simp only [hactive, hseq, and_self, if_true, returns_bind, report_result] at h
    obtain ⟨anomaly, u, ⟨hanomaly, rfl⟩, h⟩ := h
    simp only [hseq, if_true, decide_true, Bool.true_and]
    cases hroll : (s.readers.getState header.readerId).rollsBack en.config header.seq with
    | true =>
      obtain rfl : anomaly = some .seqRollback := by
        rw [hanomaly, ReaderState.reportSeq, if_pos hroll]
      simp only [returns_bind, returns_pure] at h
      obtain ⟨_, v, hpush, rfl, rfl⟩ := h
      obtain ⟨hwindows, hreaders⟩ := push_control hpush
      exact ⟨rfl, hwindows, hreaders⟩
    | false =>
      obtain rfl : anomaly = none := by
        rw [hanomaly, ReaderState.reportSeq, if_neg (by simp [hroll])]
      obtain ⟨rfl, rfl⟩ := returns_pure.mp h
      exact ⟨rfl, rfl, rfl⟩
  · simp only [hseq, and_false, if_false] at h
    obtain ⟨rfl, rfl⟩ := returns_pure.mp h
    simp [hseq]

theorem checkRollback_inactive {en : Engine} {env : Env} {header : Header} {s t : EngineState}
    {refused : Bool} (hactive : en.detectorActive = false)
    (h : Returns (en.checkRollback env header) s refused t) : refused = false ∧ t = s := by
  unfold checkRollback at h
  rw [if_neg (by simp [hactive])] at h
  exact returns_pure.mp h

theorem report_total {α : Type} (readerId : UInt32) (op : ReaderState → α × ReaderState)
    (s : EngineState) : Total (report readerId op) s :=
  ⟨_, _, report_result.mpr ⟨rfl, rfl⟩⟩

theorem checkRollback_total (en : Engine) (env : Env) (header : Header) (s : EngineState) :
    Total (en.checkRollback env header) s := by
  unfold checkRollback
  split_ifs
  · refine total_bind (report_total _ _ _) fun anomaly _ _ => ?_
    cases anomaly with
    | none => exact total_pure _ _
    | some anomaly => exact total_bind (push_total _ _ _) fun _ _ _ => total_pure _ _
  · exact total_pure _ _

theorem refuseQuarantined_result {en : Engine} {env : Env} {res : HandleResult}
    {s t : EngineState} {r : DecisionResult} (h : Returns (en.refuseQuarantined env res) s r t) :
    r = createDeniedResult "quarantined" ∧ SameControl s t := by
  unfold refuseQuarantined at h
  simp only [returns_bind, returns_pure] at h
  obtain ⟨_, u, hlog, _, v, hpush, rfl, rfl⟩ := h
  exact ⟨rfl, (log_control hlog).trans (push_control hpush)⟩

theorem refuseQuarantined_total (en : Engine) {env : Env} (henv : env.NoFault)
    (res : HandleResult) (s : EngineState) : Total (en.refuseQuarantined env res) s :=
  total_bind (log_total en henv _ _ _ _ _ _) fun _ _ _ =>
    total_bind (push_total _ _ _) fun _ _ _ => total_pure _ _

theorem reportDenied_result {en : Engine} {env : Env} {res : HandleResult} {s t : EngineState}
    {a : Unit} (hdeny : res.allow = false) (h : Returns (en.reportDenied env res) s a t) :
    t.windows = s.windows ∧ t.readers = en.settle env.now s.readers res := by
  unfold reportDenied at h
  unfold settle
  cases hactive : en.detectorActive with
  | false =>
    rw [hactive, if_neg (by simp)] at h
    obtain ⟨-, rfl⟩ := returns_pure.mp h
    simp
  | true =>
    rw [hactive, if_pos rfl] at h
    simp only [Bool.true_eq_false, if_false, hdeny, Bool.false_eq_true]
    split_ifs at h ⊢ with hreplay htag
    · simp only [returns_bind, report_result] at h
      obtain ⟨_, _, ⟨rfl, rfl⟩, hpush⟩ := h
      exact push_control hpush
    · simp only [returns_bind, report_result] at h
      obtain ⟨anomaly, _, ⟨hanomaly, rfl⟩, h⟩ := h
      cases anomaly with
      | none =>
        obtain ⟨-, rfl⟩ := returns_pure.mp h
        exact ⟨rfl, rfl⟩
      | some anomaly => exact push_control h
    · obtain ⟨-, rfl⟩ := returns_pure.mp h
      exact ⟨rfl, rfl⟩

theorem reportDenied_total (en : Engine) (env : Env) (res : HandleResult) (s : EngineState) :
    Total (en.reportDenied env res) s := by
  unfold reportDenied
  split_ifs
  · exact total_bind (report_total _ _ _) fun _ _ _ => push_total _ _ _
  · refine total_bind (report_total _ _ _) fun anomaly _ _ => ?_
    cases anomaly with
    | none => exact total_pure _ _
    | some anomaly => exact push_total _ _ _
  · exact total_pure _ _
  · exact total_pure _ _

theorem reportAllowed_result {en : Engine} {now : ClockSite → UInt64} {res : HandleResult}
    {s t : EngineState} {a : Unit} (hallow : res.allow = true)
    (h : Returns (en.reportAllowed res) s a t) :
    t.windows = s.windows ∧ t.readers = en.settle now s.readers res := by
  unfold reportAllowed at h
  unfold settle
  cases hactive : en.detectorActive with
  | false =>
    rw [hactive, if_neg (by simp)] at h
    obtain ⟨-, rfl⟩ := returns_pure.mp h
    simp
  | true =>
    rw [hactive, if_pos rfl, report_result] at h
    obtain ⟨-, rfl⟩ := h
    simp [hallow]

theorem reportAllowed_total (en : Engine) (res : HandleResult) (s : EngineState) :
    Total (en.reportAllowed res) s := by
  unfold reportAllowed
  split_ifs
  · exact report_total _ _ _
  · exact total_pure _ _

/-! ## Nonce check -/

variable [Sodium]

/-- The nonce the detector expects in a header. -/
def nonceFor (en : Engine) (header : Header) : ByteArr 24 :=
  hmacNonce (en.keyManager.nonceKey header.readerId header.keyVersion)
    (.ofString en.frameHandlerCfg.cipherMode) { header with nonce := zeros 24 }.toBytes

/-- The nonce check passes. -/
def nonceOk (en : Engine) (header : Header) : Bool :=
  en.frameHandlerCfg.nonceMode ≠ "deterministic" ||
    nonceEqual header.nonce (en.nonceFor header)
      (nonceLenFor (.ofString en.frameHandlerCfg.cipherMode))

theorem expectedNonce_ok (en : Engine) (header : Header) :
    en.expectedNonce header = .ok (en.nonceFor header) := by
  simp [expectedNonce, nonceFor, bind, Except.bind, pure, Except.pure]

theorem checkNonce_result {en : Engine} {env : Env} {header : Header} {s t : EngineState}
    {refused : Bool} (hactive : en.detectorActive = true)
    (h : Returns (en.checkNonce env header) s refused t) :
    refused = !en.nonceOk header ∧ t.windows = s.windows ∧
      t.readers = if en.nonceOk header then s.readers else
        (s.readers.report header.readerId
          (ReaderState.reportNonceMismatch (env.now .reportNonceMismatch))).2 := by
  unfold checkNonce at h
  by_cases hmode : en.frameHandlerCfg.nonceMode = "deterministic"
  · rw [if_pos ⟨hactive, hmode⟩, expectedNonce_ok, returns_bind] at h
    obtain ⟨expected, _, hlift, h⟩ := h
    obtain ⟨heq, rfl⟩ := returns_lift.mp hlift
    obtain rfl := Except.ok.inj heq
    cases hnonce : nonceEqual header.nonce (en.nonceFor header)
        (nonceLenFor (.ofString en.frameHandlerCfg.cipherMode)) with
    | true =>
      have hok : en.nonceOk header = true := by simp [nonceOk, hnonce]
      rw [if_pos hnonce] at h
      obtain ⟨rfl, rfl⟩ := returns_pure.mp h
      simp [hok]
    | false =>
      have hok : en.nonceOk header = false := by simp [nonceOk, hmode, hnonce]
      rw [if_neg (by simp [hnonce])] at h
      simp only [returns_bind, report_result, returns_pure] at h
      obtain ⟨_, _, ⟨rfl, rfl⟩, _, v, hpush, rfl, rfl⟩ := h
      obtain ⟨hwindows, hreaders⟩ := push_control hpush
      simp only [hok]
      exact ⟨by simp, hwindows, by simpa using hreaders⟩
  · have hok : en.nonceOk header = true := by simp [nonceOk, hmode]
    rw [if_neg (by simp [hmode])] at h
    obtain ⟨rfl, rfl⟩ := returns_pure.mp h
    simp [hok]

theorem checkNonce_inactive {en : Engine} {env : Env} {header : Header} {s t : EngineState}
    {refused : Bool} (hactive : en.detectorActive = false)
    (h : Returns (en.checkNonce env header) s refused t) : refused = false ∧ t = s := by
  unfold checkNonce at h
  rw [if_neg (by simp [hactive])] at h
  exact returns_pure.mp h

theorem checkNonce_total (en : Engine) (env : Env) (header : Header) (s : EngineState) :
    Total (en.checkNonce env header) s := by
  unfold checkNonce
  split_ifs
  · refine total_bind (total_lift (expectedNonce_ok en header) _) fun _ _ _ => ?_
    split_ifs
    · exact total_pure _ _
    · exact total_bind (report_total _ _ _) fun _ _ _ =>
        total_bind (push_total _ _ _) fun _ _ _ => total_pure _ _
  · exact total_pure _ _

/-- The detector's checks before the verdict is looked at: whether they refuse the frame,
and the readers after them. -/
def screen (en : Engine) (now : ClockSite → UInt64) (readers : Readers) (header : Header) :
    Bool × Readers :=
  if en.detectorActive = false then (false, readers)
  else if readers.isQuarantined header.readerId then (true, readers)
  else if en.rollsBack readers header then (true, en.afterSeq now readers header)
  else if en.nonceOk header then (false, en.afterSeq now readers header)
  else (true, ((en.afterSeq now readers header).report header.readerId
    (ReaderState.reportNonceMismatch (now .reportNonceMismatch))).2)

/-! ## The whole call -/

variable [JsonLib]

/-- The decision on a frame that the detector does not refuse. -/
def decide (en : Engine) (res : HandleResult) : DecisionResult :=
  if res.allow = false then createDeniedResult res.reason
  else
    match parseAccessRequestJson res.plaintext with
    | .error _ => createDeniedResult "bad_payload"
    | .ok request => en.policy res.header request

/-- The answer to a frame with this verdict of the handler. -/
def answer (en : Engine) (now : ClockSite → UInt64) (readers : Readers) (res : HandleResult) :
    DecisionResult :=
  if (en.screen now readers res.header).1 then createDeniedResult "quarantined"
  else en.decide res

/-- The detector's state after a frame with this verdict of the handler. -/
def readersAfter (en : Engine) (now : ClockSite → UInt64) (readers : Readers)
    (res : HandleResult) : Readers :=
  if (en.screen now readers res.header).1 then (en.screen now readers res.header).2
  else en.settle now (en.screen now readers res.header).2 res

theorem checkPayload_result {en : Engine} {env : Env} {res : HandleResult} {s t : EngineState}
    {r : DecisionResult} (hallow : res.allow = true)
    (h : Returns (en.checkPayload env res) s r t) : r = en.decide res ∧ SameControl s t := by
  unfold checkPayload at h
  unfold decide
  rw [if_neg (by simp [hallow])]
  cases hpayload : parseAccessRequestJson res.plaintext with
  | error e =>
    simp only [hpayload] at h
    exact deny_result h
  | ok request =>
    simp only [hpayload] at h
    obtain ⟨members, -, -, -, hcard, -⟩ := parseAccessRequestJson_ok_iff.mp hpayload
    exact checkAccessPolicy_result hcard h

theorem checkPayload_total (en : Engine) {env : Env} (henv : env.NoFault) (res : HandleResult)
    (s : EngineState) : Total (en.checkPayload env res) s := by
  unfold checkPayload
  cases hpayload : parseAccessRequestJson res.plaintext with
  | error e => exact deny_total en henv _ _ _
  | ok request =>
    obtain ⟨members, -, -, -, hcard, -⟩ := parseAccessRequestJson_ok_iff.mp hpayload
    exact checkAccessPolicy_total en henv _ hcard _

theorem finish_result {en : Engine} {env : Env} {res : HandleResult} {s t : EngineState}
    {r : DecisionResult} (h : Returns (en.finish env res) s r t) :
    r = en.decide res ∧ t.windows = s.windows ∧
      t.readers = en.settle env.now s.readers res := by
  unfold finish at h
  rw [returns_bind] at h
  obtain ⟨_, u, hpush, h⟩ := h
  obtain ⟨huw, hur⟩ := push_control hpush
  cases hallow : res.allow with
  | false =>
    rw [if_pos hallow, returns_bind] at h
    obtain ⟨_, v, hreport, h⟩ := h
    obtain ⟨hvw, hvr⟩ := reportDenied_result hallow hreport
    obtain ⟨rfl, htw, htr⟩ := deny_result h
    exact ⟨by simp [decide, hallow], by rw [htw, hvw, huw], by rw [htr, hvr, hur]⟩
  | true =>
    rw [if_neg (by simp [hallow]), returns_bind] at h
    obtain ⟨_, v, hreport, h⟩ := h
    obtain ⟨hvw, hvr⟩ := reportAllowed_result hallow hreport
    obtain ⟨rfl, htw, htr⟩ := checkPayload_result hallow h
    exact ⟨rfl, by rw [htw, hvw, huw], by rw [htr, hvr, hur]⟩

theorem finish_total (en : Engine) {env : Env} (henv : env.NoFault) (res : HandleResult)
    (s : EngineState) : Total (en.finish env res) s := by
  unfold finish
  refine total_bind (push_total _ _ _) fun _ _ _ => ?_
  split_ifs
  · exact total_bind (reportDenied_total _ _ _ _) fun _ _ _ => deny_total en henv _ _ _
  · exact total_bind (reportAllowed_total _ _ _) fun _ _ _ => checkPayload_total en henv _ _

/-- What a call does that returns: the windows are as the handler leaves them, the
detector's state and the answer are given by the tables. -/
structure Effect (en : Engine) (now : ClockSite → UInt64) (res : HandleResult)
    (s t : EngineState) (r : DecisionResult) : Prop where
  windows : en.handler.WindowsAfter s.windows t.windows res
  readers : t.readers = en.readersAfter now s.readers res
  answer : r = en.answer now s.readers res

/-- The handler's verdict on the bytes of a call. -/
def verdict (en : Engine) (now : ClockSite → UInt64) (s : EngineState) (frameBytes : Bytes) :
    HandleResult :=
  en.handler.verdict (now .skewCheck) s.windows frameBytes

omit [JsonLib] in
theorem verdict_reason_of_allow {en : Engine} {now : ClockSite → UInt64} {s : EngineState}
    {frameBytes : Bytes} (h : (en.verdict now s frameBytes).allow = true) :
    (en.verdict now s frameBytes).reason = "ok" := by
  obtain ⟨_, _, haccepts⟩ := FrameHandler.accepts_of_allow h
  exact congrArg HandleResult.reason haccepts.verdict

/-- The call after the handler and the first event. -/
def detect (en : Engine) (env : Env) (res : HandleResult) : EngineM DecisionResult := do
  if en.detectorActive ∧ (← get).readers.isQuarantined res.header.readerId then
    en.refuseQuarantined env res
  else if ← en.checkRollback env res.header then
    en.refuseQuarantined env res
  else if ← en.checkNonce env res.header then
    en.refuseQuarantined env res
  else
    en.finish env res

theorem handleFrameBytes_eq (en : Engine) (env : Env) (frameBytes : Bytes) :
    en.handleFrameBytes env frameBytes = (do
      let res ← zoom EngineState.windows (fun windows s => { s with windows })
        (en.handler.handle env frameBytes)
      en.publishFrameEvent env frameBytes.length
      en.detect env res) := rfl

theorem detect_result {en : Engine} {env : Env} {res : HandleResult} {s t : EngineState}
    {r : DecisionResult} (h : Returns (en.detect env res) s r t) :
    t.windows = s.windows ∧ t.readers = en.readersAfter env.now s.readers res ∧
      r = en.answer env.now s.readers res := by
  unfold detect at h
  rw [returns_bind] at h
  obtain ⟨v, u, hget, h⟩ := h
  obtain ⟨hv, hu⟩ := returns_get.mp hget
  rw [hv, hu] at h
  unfold readersAfter answer screen
  cases hactive : en.detectorActive with
  | false =>
    rw [if_neg (by simp [hactive]), returns_bind] at h
    obtain ⟨refused, u, hroll, h⟩ := h
    obtain ⟨rfl, rfl⟩ := checkRollback_inactive hactive hroll
    rw [if_neg (by simp), returns_bind] at h
    obtain ⟨refused, u, hnonce, h⟩ := h
    obtain ⟨rfl, rfl⟩ := checkNonce_inactive hactive hnonce
    rw [if_neg (by simp)] at h
    obtain ⟨rfl, hw, hr⟩ := finish_result h
    exact ⟨hw, by simpa using hr, by simp⟩
  | true =>
    cases hquar : s.readers.isQuarantined res.header.readerId with
    | true =>
      rw [if_pos ⟨hactive, hquar⟩] at h
      obtain ⟨rfl, hw, hr⟩ := refuseQuarantined_result h
      exact ⟨hw, by simpa using hr, by simp⟩
    | false =>
      rw [if_neg (by simp [hquar]), returns_bind] at h
      obtain ⟨refused, u, hcheck, h⟩ := h
      obtain ⟨rfl, huw, hur⟩ := checkRollback_result hactive hcheck
      cases hroll : en.rollsBack s.readers res.header with
      | true =>
        rw [if_pos hroll] at h
        obtain ⟨rfl, hw, hr⟩ := refuseQuarantined_result h
        exact ⟨hw.trans huw, by simpa using hr.trans hur, by simp⟩
      | false =>
        rw [if_neg (by simp [hroll]), returns_bind] at h
        obtain ⟨refused, v, hcheck, h⟩ := h
        obtain ⟨rfl, hvw, hvr⟩ := checkNonce_result hactive hcheck
        cases hnonce : en.nonceOk res.header with
        | false =>
          rw [if_pos (by simp [hnonce])] at h
          obtain ⟨rfl, hw, hr⟩ := refuseQuarantined_result h
          rw [hnonce, hur] at hvr
          exact ⟨hw.trans (hvw.trans huw), by simpa using hr.trans hvr, by simp⟩
        | true =>
          rw [if_neg (by simp [hnonce])] at h
          obtain ⟨rfl, hw, hr⟩ := finish_result h
          rw [hnonce, if_pos rfl, hur] at hvr
          exact ⟨hw.trans (hvw.trans huw), by simpa [hvr] using hr, by simp⟩

theorem returns_handleFrameBytes {en : Engine} {env : Env} {frameBytes : Bytes}
    {s t : EngineState} {r : DecisionResult}
    (h : Returns (en.handleFrameBytes env frameBytes) s r t) :
    en.Effect env.now (en.verdict env.now s frameBytes) s t r := by
  rw [handleFrameBytes_eq, returns_bind] at h
  obtain ⟨res, u, hzoom, h⟩ := h
  obtain ⟨windows, hhandle, rfl⟩ := returns_zoom.mp hzoom
  obtain ⟨hres, hwindows⟩ := FrameHandler.returns_handle hhandle
  rw [returns_bind] at h
  obtain ⟨_, v, hpush, h⟩ := h
  obtain ⟨hvw, hvr⟩ := push_control hpush
  obtain ⟨htw, htr, hr⟩ := detect_result h
  have hverdict : en.verdict env.now s frameBytes = res := hres.symm
  rw [hvr] at htr hr
  exact hverdict ▸ ⟨by rw [htw, hvw]; exact hwindows, htr, hr⟩

/-- Without database faults a call returns. -/
theorem handleFrameBytes_total (en : Engine) {env : Env} (henv : env.NoFault) (frameBytes : Bytes)
    (s : EngineState) : Total (en.handleFrameBytes env frameBytes) s := by
  unfold handleFrameBytes
  refine total_bind (total_zoom (FrameHandler.handle_total henv _ _)) fun res _ _ => ?_
  refine total_bind (push_total _ _ _) fun _ _ _ => ?_
  refine total_bind (total_get _) fun _ _ _ => ?_
  split_ifs
  · exact refuseQuarantined_total en henv _ _
  refine total_bind (checkRollback_total _ _ _ _) fun refused _ _ => ?_
  split_ifs
  · exact refuseQuarantined_total en henv _ _
  refine total_bind (checkNonce_total _ _ _ _) fun refused _ _ => ?_
  split_ifs
  · exact refuseQuarantined_total en henv _ _
  · exact finish_total en henv _ _

end AccessSecurity.Decision.Engine
