import AccessSecurity.Decision.Interruption
import AccessSecurity.Foundation.TwoRuns

/-!
# What a call depends on

The policy's part of a call reads nothing of the engine's state, and the handler and the
detector read the window and the state of the frame's reader alone. Two runs of the engine in
which the frames of a reader are the same therefore decide these frames the same way and
leave the reader in the same state, whatever frames of other readers come in between
(`reader_isolated`).
-/

namespace AccessSecurity.Core.FrameHandler

open Foundation Protocol Crypto

/-- The window of the reader is the same in both maps. -/
def SameWindow (r : UInt32) (m m' : ReplayWindowMap) : Prop := m.find r = m'.find r

theorem SameWindow.contains {r : UInt32} {m m' : ReplayWindowMap} (h : SameWindow r m m')
    (seq : UInt64) : m.contains r seq = m'.contains r seq := by
  unfold ReplayWindowMap.contains
  rw [h]

theorem SameWindow.getOrCreateWindow {r : UInt32} {m m' : ReplayWindowMap}
    (h : SameWindow r m m') (size : UInt64) (readerId : UInt32) :
    SameWindow r (m.getOrCreateWindow size readerId) (m'.getOrCreateWindow size readerId) := by
  unfold SameWindow at *
  rw [ReplayWindowMap.find_getOrCreateWindow, ReplayWindowMap.find_getOrCreateWindow]
  split_ifs with hr
  · subst hr
    unfold ReplayWindowMap.windowOf
    rw [h]
  · exact h

theorem SameWindow.remember {r : UInt32} {m m' : ReplayWindowMap} (h : SameWindow r m m')
    (readerId : UInt32) (seq : UInt64) :
    SameWindow r (m.remember readerId seq) (m'.remember readerId seq) := by
  unfold SameWindow at *
  rw [ReplayWindowMap.find_remember, ReplayWindowMap.find_remember]
  split_ifs with hr
  · subst hr
    rw [h]
  · exact h

variable {fh : FrameHandler} {frame : Frame}

theorem checkReplay_agree : Agree (SameWindow frame.header.readerId) (fh.checkReplay frame)
    (fh.checkReplay frame) := by
  unfold checkReplay
  split_ifs
  · refine agree_bind (agree_modify fun m m' h => h.getOrCreateWindow _ _) fun _ => ?_
    refine agree_get_bind fun m m' h => ?_
    rw [h.contains]
    split_ifs <;> exact agree_pure _
  · exact agree_pure _

variable [Sodium]

theorem tryDecrypt_agree (r : UInt32) (env : Env) (window : Option UInt32) :
    Agree (SameWindow r) (fh.tryDecrypt env frame window) (fh.tryDecrypt env frame window) := by
  unfold tryDecrypt
  split
  · exact agree_pure _
  · dsimp only
    split
    · exact agree_pure _
    · split_ifs
      · cases window with
        | none => exact agree_pure _
        | some readerId =>
          exact agree_bind (agree_modify fun m m' h => h.remember _ _) fun _ => agree_pure _
      · exact agree_pure _

/-- Of the windows, the handler reads and writes that of the frame's reader alone. -/
theorem handle_agree {env : Env} {frameBytes : Bytes}
    (hparse : Protocol.parseFrame frameBytes fh.config.maxCtLen = .ok frame) :
    Agree (SameWindow frame.header.readerId) (fh.handle env frameBytes)
      (fh.handle env frameBytes) := by
  unfold handle
  rw [parseFrame_ok.mpr hparse]
  refine agree_bind (agree_lift _) fun r => ?_
  cases r with
  | error err => exact agree_pure _
  | ok kv =>
    dsimp only
    cases fh.validateKeyVersion frame kv with
    | some err => exact agree_pure _
    | none =>
      refine agree_bind checkReplay_agree fun r => ?_
      obtain ⟨err, window⟩ := r
      cases err with
      | some err => exact agree_pure _
      | none => exact tryDecrypt_agree _ env window

end AccessSecurity.Core.FrameHandler

namespace AccessSecurity.Decision.Engine

open Foundation Protocol Crypto Core

/-! ## Log, events and policy -/

section

variable {R : EngineState → EngineState → Prop}
  (hlog : ∀ s s' t t', SameControl s s' → SameControl t t' → R s t → R s' t')

include hlog in
theorem push_agree (en : Engine) (ev : Event) : Agree R (en.push ev) (en.push ev) := by
  unfold push
  split
  · apply agree_modify
    intro s t hst
    exact hlog s _ t _ ⟨rfl, rfl⟩ ⟨rfl, rfl⟩ hst
  · exact agree_pure _

include hlog in
theorem logAuditEvent_agree (en : Engine) (env : Env) (header : Header) (allow : Bool)
    (reason : String) (cardId action : Bytes) :
    Agree R (en.logAuditEvent env header allow reason cardId action)
      (en.logAuditEvent env header allow reason cardId action) := by
  unfold logAuditEvent
  split
  · refine agree_bind (agree_lift _) fun _ => agree_bind (agree_modify ?_) fun _ => ?_
    · intro s t hst
      exact hlog s _ t _ ⟨rfl, rfl⟩ ⟨rfl, rfl⟩ hst
    · exact push_agree hlog en _
  · exact agree_pure _

include hlog in
theorem deny_agree (en : Engine) (env : Env) (header : Header) (reason : String) :
    Agree R (en.deny env header reason) (en.deny env header reason) :=
  agree_bind (logAuditEvent_agree hlog en env header false reason [] []) fun _ => agree_pure _

include hlog in
theorem refuseQuarantined_agree (en : Engine) (env : Env) (res : HandleResult) :
    Agree R (en.refuseQuarantined env res) (en.refuseQuarantined env res) :=
  agree_bind (logAuditEvent_agree hlog en env _ _ _ _ _) fun _ =>
    agree_bind (push_agree hlog en _) fun _ => agree_pure _

include hlog in
theorem checkAccessPolicy_agree [Sodium] (en : Engine) (env : Env) (res : HandleResult)
    (request : AccessRequest) :
    Agree R (en.checkAccessPolicy env res request) (en.checkAccessPolicy env res request) := by
  unfold checkAccessPolicy
  split_ifs
  · exact deny_agree hlog en env _ _
  cases en.store with
  | none => exact deny_agree hlog en env _ _
  | some store =>
    refine agree_bind (agree_lift _) fun kv => ?_
    split_ifs
    · exact deny_agree hlog en env _ _
    refine agree_bind (agree_lift _) fun ⟨cardHmac, role⟩ => ?_
    cases role with
    | none => exact agree_bind (logAuditEvent_agree hlog en env _ _ _ _ _) fun _ => agree_pure _
    | some role =>
      refine agree_bind (agree_lift _) fun _ => ?_
      exact agree_bind (logAuditEvent_agree hlog en env _ _ _ _ _) fun _ => agree_pure _

include hlog in
theorem checkPayload_agree [Sodium] [JsonLib] (en : Engine) (env : Env) (res : HandleResult) :
    Agree R (en.checkPayload env res) (en.checkPayload env res) := by
  unfold checkPayload
  split
  · exact deny_agree hlog en env _ _
  · exact checkAccessPolicy_agree hlog en env _ _

end

/-! ## The state of one reader -/

/-- Window and detector state of the reader are the same in both states. -/
structure SameReader (r : UInt32) (s t : EngineState) : Prop where
  window : s.windows.find r = t.windows.find r
  state : s.readers r = t.readers r

namespace SameReader

variable {r : UInt32}

theorem getState {s t : EngineState} (h : SameReader r s t) :
    s.readers.getState r = t.readers.getState r := by
  unfold Readers.getState
  rw [h.state]

theorem of_control (s s' t t' : EngineState) (hs : SameControl s s') (ht : SameControl t t')
    (h : SameReader r s t) : SameReader r s' t' := by
  obtain ⟨hsw, hsr⟩ := hs
  obtain ⟨htw, htr⟩ := ht
  constructor
  · rw [hsw, htw, h.window]
  · rw [hsr, htr, h.state]

theorem report {s t : EngineState} (h : SameReader r s t) {α : Type}
    (op : ReaderState → α × ReaderState) :
    SameReader r { s with readers := (s.readers.report r op).2 }
      { t with readers := (t.readers.report r op).2 } := by
  refine ⟨h.window, ?_⟩
  simp [Readers.report, h.getState]

end SameReader

section

variable {r : UInt32} {en : Engine} {env : Env}

theorem report_agree {α : Type} (op : ReaderState → α × ReaderState) :
    Agree (SameReader r) (report r op) (report r op) := by
  intro s t hst
  have hs : Returns (Engine.report r op) s _ _ := report_result.mpr ⟨rfl, rfl⟩
  have ht : Returns (Engine.report r op) t _ _ := report_result.mpr ⟨rfl, rfl⟩
  have hs' := hs.after_eq ▸ hs
  have ht' := ht.after_eq ▸ ht
  rw [hs.after_eq, ht.after_eq, returns_after_iff.mp hs', returns_after_iff.mp ht', hst.getState]
  exact ⟨rfl, hst.report op⟩

theorem checkRollback_agree {header : Header} (hreader : header.readerId = r) :
    Agree (SameReader r) (en.checkRollback env header) (en.checkRollback env header) := by
  subst hreader
  unfold checkRollback
  split
  · refine agree_bind (report_agree _) fun anomaly => ?_
    cases anomaly with
    | none => exact agree_pure _
    | some anomaly =>
      exact agree_bind (push_agree SameReader.of_control en _) fun _ => agree_pure _
  · exact agree_pure _

theorem reportDenied_agree {res : HandleResult} (hreader : res.header.readerId = r) :
    Agree (SameReader r) (en.reportDenied env res) (en.reportDenied env res) := by
  subst hreader
  unfold reportDenied
  split_ifs
  · exact agree_bind (report_agree _) fun _ => push_agree SameReader.of_control en _
  · refine agree_bind (report_agree _) fun anomaly => ?_
    cases anomaly with
    | none => exact agree_pure _
    | some anomaly => exact push_agree SameReader.of_control en _
  · exact agree_pure _
  · exact agree_pure _

theorem reportAllowed_agree {res : HandleResult} (hreader : res.header.readerId = r) :
    Agree (SameReader r) (en.reportAllowed res) (en.reportAllowed res) := by
  subst hreader
  unfold reportAllowed
  split_ifs
  · exact report_agree _
  · exact agree_pure _

variable [Sodium]

theorem checkNonce_agree {header : Header} (hreader : header.readerId = r) :
    Agree (SameReader r) (en.checkNonce env header) (en.checkNonce env header) := by
  subst hreader
  unfold checkNonce
  split
  · refine agree_bind (agree_lift _) fun expected => ?_
    split_ifs
    · exact agree_pure _
    · exact agree_bind (report_agree _) fun _ =>
        agree_bind (push_agree SameReader.of_control en _) fun _ => agree_pure _
  · exact agree_pure _

variable [JsonLib]

theorem finish_agree {res : HandleResult} (hreader : res.header.readerId = r) :
    Agree (SameReader r) (en.finish env res) (en.finish env res) := by
  refine agree_bind (push_agree SameReader.of_control en _) fun _ => ?_
  split_ifs
  · exact agree_bind (reportDenied_agree hreader) fun _ =>
      deny_agree SameReader.of_control en env _ _
  · exact agree_bind (reportAllowed_agree hreader) fun _ =>
      checkPayload_agree SameReader.of_control en env res

variable {frameBytes : Bytes} {frame : Frame}
  (hparse : parseFrame frameBytes en.frameHandlerCfg.maxCtLen = .ok frame)

include hparse in
/-- Windows and detector matter for a frame as far as they concern its reader. -/
theorem handleFrameBytes_agree : Agree (SameReader frame.header.readerId)
    (en.handleFrameBytes env frameBytes) (en.handleFrameBytes env frameBytes) := by
  have hzoom : Agree (SameReader frame.header.readerId)
      (zoom EngineState.windows (fun windows s => { s with windows })
        (en.handler.handle env frameBytes))
      (zoom EngineState.windows (fun windows s => { s with windows })
        (en.handler.handle env frameBytes)) :=
    agree_zoom (fun s t hst => hst.window) (fun m m' s t hst h => ⟨h, hst.state⟩)
      (FrameHandler.handle_agree hparse)
  refine agree_bind_returns hzoom fun res s u hres => ?_
  obtain ⟨windows, hhandle, -⟩ := returns_zoom.mp hres
  have hreader : res.header.readerId = frame.header.readerId := by
    rw [(FrameHandler.returns_handle hhandle).1, FrameHandler.verdict_header hparse]
  have hrefuse := refuseQuarantined_agree (SameReader.of_control (r := frame.header.readerId))
    en env res
  refine agree_bind (push_agree SameReader.of_control en _) fun _ => ?_
  refine agree_get_bind fun s t hst => ?_
  have hquar : s.readers.isQuarantined res.header.readerId =
      t.readers.isQuarantined res.header.readerId := by
    rw [Readers.isQuarantined_eq, Readers.isQuarantined_eq, hreader, hst.getState]
  rw [hquar]
  split_ifs
  · exact hrefuse
  refine agree_bind (checkRollback_agree hreader) fun refused => ?_
  split_ifs
  · exact hrefuse
  refine agree_bind (checkNonce_agree hreader) fun refused => ?_
  split_ifs
  · exact hrefuse
  · exact finish_agree hreader

include hparse in
/-- A frame leaves the other readers alone, whether the call returns or throws. -/
theorem sameReader_after_of_ne (hne : r ≠ frame.header.readerId) (s : EngineState) :
    SameReader r (after (en.handleFrameBytes env frameBytes) s) s := by
  have hkeeps : Keeps (FrameHandler.SameWindow r s.windows) (en.handler.handle env frameBytes) := by
    unfold FrameHandler.SameWindow
    refine FrameHandler.handle_keeps hparse (fun m hm => ?_) (fun m hm => ?_) env
    · rw [ReplayWindowMap.find_getOrCreateWindow, if_neg hne, hm]
    · rw [ReplayWindowMap.find_remember, if_neg hne, hm]
  by_cases hlookup : en.handler.LookupThrows env frameBytes
  · have hthrows : ¬ Total (en.handler.handle env frameBytes) s.windows := by
      rw [FrameHandler.handle_total_iff, not_not]
      exact hlookup
    rw [after_handleFrameBytes_of_throws hthrows]
    exact ⟨rfl, rfl⟩
  · obtain ⟨res, windows, hhandle⟩ : Total (en.handler.handle env frameBytes) s.windows :=
      FrameHandler.handle_total_iff.mpr hlookup
    obtain ⟨hwindows, hreaders⟩ := after_handleFrameBytes_of_returns hhandle
    have hheader : res.header = frame.header := by
      rw [(FrameHandler.returns_handle hhandle).1, FrameHandler.verdict_header hparse]
    constructor
    · rw [hwindows, ← hhandle.after_eq]
      exact (hkeeps s.windows rfl).symm
    · rw [hreaders, readersAfter_of_ne _ (hheader ▸ hne)]

/-! ## Two runs -/

/-- The calls a run consists of. -/
def feed (en : Engine) (s : EngineState) (call : Env × Bytes) : EngineState :=
  after (en.handleFrameBytes call.1 call.2) s

/-- What a call returns or throws. -/
def decision (en : Engine) (s : EngineState) (call : Env × Bytes) : Except Exn DecisionResult :=
  result (en.handleFrameBytes call.1 call.2) s

omit [Sodium] [JsonLib] in
/-- The call is about a frame of the reader. -/
def concerns (en : Engine) (r : UInt32) (call : Env × Bytes) : Bool :=
  (en.handler.headerOf call.2).readerId = r

omit [Sodium] [JsonLib] in
theorem concerns_iff {call : Env × Bytes}
    (h : parseFrame call.2 en.frameHandlerCfg.maxCtLen = .ok frame) :
    en.concerns r call = true ↔ frame.header.readerId = r := by
  have hheader : en.handler.headerOf call.2 = frame.header := FrameHandler.headerOf_eq h
  unfold concerns
  rw [hheader, decide_eq_true_eq]

/-- Two runs with the same frames of a reader, under the same clock readings and the same
faults, decide these frames the same way and end with the same window and detector state of
the reader, whatever other frames are interleaved and whether these calls return or throw. -/
theorem reader_isolated (en : Engine) (r : UInt32) {calls calls' : List (Env × Bytes)}
    (hframes : ∀ call ∈ calls ++ calls', ∃ frame,
      parseFrame call.2 en.frameHandlerCfg.maxCtLen = .ok frame)
    (hsame : calls.filter (en.concerns r) = calls'.filter (en.concerns r)) (s : EngineState) :
    outputs en.feed en.decision (en.concerns r) s calls =
      outputs en.feed en.decision (en.concerns r) s calls' ∧
    (run en.feed s calls).windows.find r = (run en.feed s calls').windows.find r ∧
    (run en.feed s calls).readers r = (run en.feed s calls').readers r := by
  let view : EngineState → Option ReplayWindow × Option ReaderState :=
    fun s => (s.windows.find r, s.readers r)
  have hview : ∀ s t, view s = view t ↔ SameReader r s t := by
    intro s t
    exact ⟨fun h => ⟨congrArg Prod.fst h, congrArg Prod.snd h⟩,
      fun h => Prod.ext h.window h.state⟩
  have hother : ∀ s call,
      (∃ frame, parseFrame call.2 en.frameHandlerCfg.maxCtLen = .ok frame) →
      en.concerns r call = false → view (en.feed s call) = view s := by
    rintro s call ⟨frame, hparse⟩ hnot
    have hne : r ≠ frame.header.readerId := by
      rintro rfl
      simp [(concerns_iff hparse).mpr] at hnot
    exact (hview _ _).mpr (sameReader_after_of_ne hparse hne s)
  have hself : ∀ s t call,
      (∃ frame, parseFrame call.2 en.frameHandlerCfg.maxCtLen = .ok frame) →
      en.concerns r call = true → view s = view t →
      en.decision s call = en.decision t call ∧ view (en.feed s call) = view (en.feed t call) := by
    rintro s t call ⟨frame, hparse⟩ hconcerns hst
    obtain rfl := (concerns_iff hparse).mp hconcerns
    obtain ⟨hresult, hafter⟩ := handleFrameBytes_agree hparse s t ((hview s t).mp hst)
    exact ⟨hresult, (hview _ _).mpr hafter⟩
  obtain ⟨hout, hend⟩ := projection_determined hother hself
    (fun call hcall => hframes call (List.mem_append_left _ hcall))
    (fun call hcall => hframes call (List.mem_append_right _ hcall)) hsame (rfl : view s = view s)
  exact ⟨hout, congrArg Prod.fst hend, congrArg Prod.snd hend⟩

end

/-! ## Two readers -/

/-- A frame of reader 8. -/
def otherKnock : Frame := { knock with header := { knock.header with readerId := 8 } }

/-- The frame of reader 7 is granted and its repetition is a replay, with and without a forged
frame of reader 8 before and a repeated one in between. -/
theorem reader_isolated_knock :
    letI : Sodium := .transparent
    letI : JsonLib := .requests
    let knocks : List (Env × Bytes) := [(.quiet, serialize knock), (.quiet, serialize knock)]
    let mixed : List (Env × Bytes) := [(diskFull, serialize otherKnock), (.quiet, serialize knock),
      (.quiet, serialize otherKnock), (.quiet, serialize knock)]
    outputs permissive.feed permissive.decision (permissive.concerns 7) .initial mixed =
      outputs permissive.feed permissive.decision (permissive.concerns 7) .initial knocks := by
  let _ : Sodium := .transparent
  let _ : JsonLib := .requests
  have hknock : parseFrame (serialize knock) permissive.frameHandlerCfg.maxCtLen = .ok knock := by
    decide +kernel
  have hother : parseFrame (serialize otherKnock) permissive.frameHandlerCfg.maxCtLen =
      .ok otherKnock := by decide +kernel
  refine (reader_isolated permissive 7 ?_ ?_ .initial).1
  · intro call hcall
    simp only [List.cons_append, List.nil_append, List.mem_cons, List.not_mem_nil,
      or_false] at hcall
    rcases hcall with rfl | rfl | rfl | rfl | rfl | rfl
    · exact ⟨_, hother⟩
    · exact ⟨_, hknock⟩
    · exact ⟨_, hother⟩
    · exact ⟨_, hknock⟩
    · exact ⟨_, hknock⟩
    · exact ⟨_, hknock⟩
  · have h7 : ∀ env, permissive.concerns 7 (env, serialize knock) = true :=
      fun env => (concerns_iff hknock).mpr rfl
    have h8 : ∀ env, permissive.concerns 7 (env, serialize otherKnock) = false := by
      intro env
      rw [← Bool.not_eq_true, concerns_iff hother]
      decide
    simp [h7, h8]

end AccessSecurity.Decision.Engine
