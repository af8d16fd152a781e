import AccessSecurity.Admin.Agreement
import AccessSecurity.Admin.HwRoute
import AccessSecurity.Decision.Interruption
import AccessSecurity.Foundation.Run

/-!
# Requests across restarts

A request of the hardware is granted at most once by one process of the server: its number
counts as seen from then on. A restart keeps the database and nothing else, so a request that
was granted before it is granted again after it (`granted_after_restart`); as long as nothing
is sent again that an earlier process has granted, every number is granted at most once
(`granted_single_use`).
-/

namespace AccessSecurity.Decision.Engine

open Foundation Protocol Crypto Core

variable [Sodium] [JsonLib] {en : Engine}

/-! ## Windows during a call -/

/-- A call works on the windows as the frame handler does, whether it returns or throws. -/
theorem handleFrameBytes_windows {P : ReplayWindowMap → Prop} {frameBytes : Bytes}
    (hcreate : ∀ frame, parseFrame frameBytes en.frameHandlerCfg.maxCtLen = .ok frame → ∀ m,
      P m → P (m.getOrCreateWindow en.frameHandlerCfg.replayWindowSize frame.header.readerId))
    (hremember : ∀ frame, parseFrame frameBytes en.frameHandlerCfg.maxCtLen = .ok frame → ∀ m,
      P m → P (m.remember frame.header.readerId frame.header.seq)) (env : Env) :
    Keeps (fun s : EngineState => P s.windows) (en.handleFrameBytes env frameBytes) := by
  intro s hs
  rw [windows_after_handleFrameBytes]
  cases hparse : en.handler.parseFrame frameBytes with
  | error err =>
    unfold FrameHandler.handle
    rw [hparse]
    exact keeps_pure _ s.windows hs
  | ok frame =>
    have hframe := FrameHandler.parseFrame_ok.mp hparse
    exact FrameHandler.handle_keeps hframe (hcreate frame hframe) (hremember frame hframe) env
      s.windows hs

/-- A frame that is granted has a number that was fresh and counts as seen afterwards. -/
theorem fresh_of_granted (hon : en.frameHandlerCfg.antiReplayEnabled = true) {env : Env}
    {frameBytes : Bytes} {s t : EngineState} {r : DecisionResult}
    (h : Returns (en.handleFrameBytes env frameBytes) s r t) (hallow : r.allow = true) :
    ∃ frame, parseFrame frameBytes en.frameHandlerCfg.maxCtLen = .ok frame ∧
      s.windows.contains frame.header.readerId frame.header.seq = false ∧
      t.windows.contains frame.header.readerId frame.header.seq = true := by
  have heffect := returns_handleFrameBytes h
  have hverdict : (en.verdict env.now s frameBytes).allow = true := by
    rw [heffect.answer] at hallow
    unfold answer decide at hallow
    split_ifs at hallow with hrefused hdeny
    · cases hallow
    · cases hallow
    · simpa using hdeny
  obtain ⟨frame, plaintext, hparse, store, hpasses⟩ := FrameHandler.accepts_of_allow hverdict
  refine ⟨frame, hparse, hpasses.fresh hon, ?_⟩
  have hheader : (en.verdict env.now s frameBytes).header = frame.header :=
    FrameHandler.verdict_header hparse
  rw [heffect.windows.1 hverdict, hheader, FrameHandler.recordFrame_on hon]
  exact ReplayWindowMap.contains_record_self ..

end AccessSecurity.Decision.Engine

namespace AccessSecurity.Admin

open Foundation Protocol Crypto Core Decision

section

variable [Sodium] [JsonLib]

section

variable {en : Engine} {frameBytes : Bytes} {readerId : UInt32} {seq : UInt64}
  (hheader : ∀ frame, parseFrame frameBytes en.frameHandlerCfg.maxCtLen = .ok frame →
    frame.header.readerId = readerId ∧ frame.header.seq = seq)

section

variable {P : ReplayWindowMap → Prop}
  (hcreate : ∀ m, P m → P (m.getOrCreateWindow en.frameHandlerCfg.replayWindowSize readerId))
  (hremember : ∀ m, P m → P (m.remember readerId seq))

include hheader hcreate hremember

theorem handleFrameBytes_number (env : Env) :
    Keeps (fun s : EngineState => P s.windows) (en.handleFrameBytes env frameBytes) := by
  refine Engine.handleFrameBytes_windows ?_ ?_ env
  · intro frame hparse
    rw [(hheader frame hparse).1]
    exact hcreate
  · intro frame hparse
    rw [(hheader frame hparse).1, (hheader frame hparse).2]
    exact hremember

theorem decisionEndpoint_number (env : Env) :
    Keeps (fun s : EngineState => P s.windows) (decisionEndpoint en env frameBytes) := by
  unfold decisionEndpoint
  split_ifs
  · exact keeps_pure _
  · exact keeps_recover _ (keeps_bind (handleFrameBytes_number hheader hcreate hremember env)
      fun _ => keeps_pure _)

theorem post_number (attempt : Attempt) :
    Keeps (fun s : EngineState => P s.windows) (attempt.post en frameBytes) := by
  unfold Attempt.post
  have hendpoint := decisionEndpoint_number hheader hcreate hremember attempt.env
  cases attempt.delivery with
  | requestLost => exact keeps_pure _
  | responseLost => exact keeps_bind hendpoint fun _ => keeps_pure _
  | answered => exact keeps_bind hendpoint fun _ => keeps_pure _

theorem remoteDecision_number (attempts : List Attempt) :
    Keeps (fun s : EngineState => P s.windows) (remoteDecision en frameBytes attempts) := by
  induction attempts with
  | nil => exact keeps_pure _
  | cons attempt attempts ih =>
    refine keeps_bind (post_number hheader hcreate hremember attempt) fun reply => ?_
    cases reply with
    | none => exact ih
    | some reply =>
      dsimp only
      split_ifs
      · exact keeps_pure _
      · exact ih

end

/-! ## What is granted -/

omit hheader in
theorem granted_decisionEndpoint {env : Env} {s t : EngineState} {reply : DecisionReply}
    (h : Returns (decisionEndpoint en env frameBytes) s reply t) (hallow : reply.allow = true) :
    ∃ r, Returns (en.handleFrameBytes env frameBytes) s r t ∧ r.allow = true := by
  unfold decisionEndpoint at h
  split_ifs at h
  · obtain ⟨rfl, -⟩ := returns_pure.mp h
    cases hallow
  · cases hrun : en.handleFrameBytes env frameBytes s with
    | ok r u =>
      simp only [Returns, recover, bind, EStateM.bind, pure, EStateM.pure, hrun] at h
      cases h
      exact ⟨r, hrun, hallow⟩
    | error e u =>
      simp only [Returns, recover, bind, EStateM.bind, hrun] at h
      cases h
      cases hallow

omit hheader in
theorem granted_post {attempt : Attempt} {s t : EngineState} {reply : DecisionReply}
    (h : Returns (attempt.post en frameBytes) s (some reply) t) (hallow : reply.allow = true) :
    ∃ r, Returns (en.handleFrameBytes attempt.env frameBytes) s r t ∧ r.allow = true := by
  unfold Attempt.post at h
  cases hdelivery : attempt.delivery with
  | requestLost => simp [hdelivery] at h
  | responseLost => simp [hdelivery] at h
  | answered =>
    simp only [hdelivery, returns_bind, returns_pure, Option.some.injEq] at h
    obtain ⟨_, _, hendpoint, rfl, rfl⟩ := h
    exact granted_decisionEndpoint hendpoint hallow

/-- The number was fresh before, and counts as seen afterwards. -/
def Uses (readerId : UInt32) (seq : UInt64) (s t : EngineState) : Prop :=
  s.windows.contains readerId seq = false ∧ t.windows.contains readerId seq = true

variable (hon : en.frameHandlerCfg.antiReplayEnabled = true)

include hheader hon

theorem uses_of_granted {env : Env} {s t : EngineState} {r : DecisionResult}
    (h : Returns (en.handleFrameBytes env frameBytes) s r t) (hallow : r.allow = true) :
    Uses readerId seq s t := by
  obtain ⟨frame, hparse, hfresh, hseen⟩ := Engine.fresh_of_granted hon h hallow
  obtain ⟨rfl, rfl⟩ := hheader frame hparse
  exact ⟨hfresh, hseen⟩

/-- The attempts before the one that is granted cannot have recorded the number. -/
theorem uses_of_remoteDecision {attempts : List Attempt} {s t : EngineState} {r : DecisionResult}
    (h : Returns (remoteDecision en frameBytes attempts) s r t) (hallow : r.allow = true) :
    Uses readerId seq s t := by
  induction attempts generalizing s with
  | nil =>
    obtain ⟨rfl, -⟩ := returns_pure.mp h
    cases hallow
  | cons attempt attempts ih =>
    obtain ⟨reply, u, hpost, hrest⟩ := returns_bind.mp h
    have hlater : Returns (remoteDecision en frameBytes attempts) u r t →
        Uses readerId seq s t := by
      intro hreturns
      obtain ⟨hfresh, hseen⟩ := ih hreturns
      refine ⟨Bool.eq_false_of_not_eq_true fun hbefore => ?_, hseen⟩
      have hkept := post_number (P := fun m => m.contains readerId seq = true) hheader ?_ ?_
        attempt s hbefore
      · rw [hpost.after_eq, hfresh] at hkept
        cases hkept
      · intro m hm
        rwa [ReplayWindowMap.contains_getOrCreateWindow]
      · intro m hm
        exact ReplayWindowMap.contains_remember_self (ReplayWindowMap.isSome_of_contains hm) seq
    cases reply with
    | none => exact hlater hrest
    | some reply =>
      dsimp only at hrest
      split_ifs at hrest with hstatus
      · obtain ⟨rfl, rfl⟩ := returns_pure.mp hrest
        obtain ⟨r, hcall, hr⟩ := granted_post hpost hallow
        exact uses_of_granted hheader hon hcall hr
      · exact hlater hrest

end

/-! ## A scan -/

section

variable {app : AppState} {scan : Scan}

theorem header_of_scan {kv : UInt32} {frameBytes : Bytes}
    (hbuild : buildEncryptedFrameBytes app.keyManager (app.sendRequest scan kv) = .ok frameBytes)
    (frame : Frame)
    (hparse : parseFrame frameBytes app.engine.frameHandlerCfg.maxCtLen = .ok frame) :
    frame.header.readerId = scan.req.readerId ∧ frame.header.seq = scan.req.hwSeq :=
  SendRequest.header_of_parse hbuild hparse

/-- The number of the request may have been recorded between the two states. -/
def AppState.Processed (app : AppState) (req : HwUidRequest) (s t : EngineState) : Prop :=
  ReplayWindowMap.MayRecord app.cfg.frameHandler.replayWindowSize req.readerId req.hwSeq s.windows
    t.windows

theorem processed_processHwUid (app : AppState) (scan : Scan) (s : EngineState) :
    app.Processed scan.req s (after (app.processHwUid scan) s) := by
  have hlog : ∀ u t : EngineState, Engine.SameControl u t → app.Processed scan.req s u →
      app.Processed scan.req s t := by
    intro u t hsame hu
    unfold AppState.Processed at *
    rwa [hsame.1]
  have hkeeps : Keeps (app.Processed scan.req s) (app.processHwUid scan) := by
    unfold AppState.processHwUid
    refine keeps_bind (keeps_lift _) fun kv => ?_
    split_ifs
    · exact keeps_bind (Engine.push_keeps hlog _ _) fun _ => keeps_pure _
    all_goals
      refine keeps_bind (Engine.push_keeps hlog _ _) fun _ => ?_
      refine keeps_bind_returns (keeps_lift _) fun frameBytes _ _ hlift => ?_
      have hbuild := (returns_lift.mp hlift).1
      refine keeps_bind ?_ fun _ => keeps_pure _
    · exact remoteDecision_number (header_of_scan hbuild) (fun _ => .create) (fun _ => .remember) _
    · exact handleFrameBytes_number (header_of_scan hbuild) (fun _ => .create)
        (fun _ => .remember) _
  exact hkeeps s (.refl _)

theorem uses_of_processHwUid (hon : app.cfg.frameHandler.antiReplayEnabled = true)
    {s t : EngineState} {resp : HwResponse} (h : Returns (app.processHwUid scan) s resp t)
    (hallow : resp.allow = true) : Uses scan.req.readerId scan.req.hwSeq s t := by
  obtain ⟨-, rfl, -⟩ | ⟨-, frameBytes, u, r, hbuild, hsame, hresp, -, hdecide⟩ :=
    returns_processHwUid h
  · cases hallow
  · rw [hresp] at hallow
    have huses : Uses scan.req.readerId scan.req.hwSeq u t := by
      split_ifs at hdecide
      · exact uses_of_remoteDecision (header_of_scan hbuild) hon hdecide hallow
      · exact uses_of_granted (header_of_scan hbuild) hon hdecide hallow
    unfold Uses at huses
    rwa [hsame.1] at huses

end

/-! ## The server over several processes -/

/-- What happens at the hardware endpoint: a request arrives, when the access tables answer as
`store`, or the process is restarted. -/
inductive ServerEvent where
  | post (store : AccessStore) (call : HwCall)
  | restart (dbPath : Bytes) (now : UInt64)

omit [Sodium] [JsonLib] in
/-- A process that has opened the database: the constructor of `AppState` leaves windows,
detector and event bus empty, and `openOrCreate` takes over what the audit log contains. -/
def openedState (dbPath : Bytes) (now : UInt64) (audit : List AuditEvent) : EngineState where
  windows := .empty
  readers _ := none
  audit := audit
  events := [{
    tsUnixMs := now
    kind := "admin"
    message := bytesOf "storage opened: " ++ dbPath }]

/-- The reader and the sequence number. -/
def HwUidRequest.number (req : HwUidRequest) : UInt32 × UInt64 := (req.readerId, req.hwSeq)

/-- The server, with the numbers that have been admitted so far, and those that have been
granted by earlier processes (`stale`) and by the present one (`current`), in order. -/
structure HwServer where
  engine : EngineState
  sent : List (UInt32 × UInt64) := []
  stale : List (UInt32 × UInt64) := []
  current : List (UInt32 × UInt64) := []

def HwServer.granted (s : HwServer) : List (UInt32 × UInt64) := s.stale ++ s.current

def HwServer.start (dbPath : Bytes) (now : UInt64) (audit : List AuditEvent) : HwServer where
  engine := openedState dbPath now audit

section

variable [JsonIntegers] (app : AppState) (hwSharedSecretHex : Bytes)

def serverStep (s : HwServer) : ServerEvent → HwServer
  | .restart dbPath now =>
    { s with
      engine := openedState dbPath now s.engine.audit
      stale := s.granted
      current := [] }
  | .post store call =>
    let route := ({ app with store } : AppState).hwUidRoute hwSharedSecretHex call
    let grants := ((result route s.engine).toOption.elim false (·.allow))
    match admitHwUid hwSharedSecretHex call.request with
    | .error _ => { s with engine := after route s.engine }
    | .ok req =>
      { s with
        engine := after route s.engine
        sent := s.sent ++ [req.number]
        current := if grants then s.current ++ [req.number] else s.current }

/-- Nothing is sent again that an earlier process has granted. -/
def SameProcess (s : HwServer) : ServerEvent → Prop
  | .restart _ _ => True
  | .post _ call => ∀ req, admitHwUid hwSharedSecretHex call.request = .ok req →
    req.number ∉ s.stale

/-- A number is above all that its reader has sent before, or it has been granted before. -/
def InOrder (s : HwServer) : ServerEvent → Prop
  | .restart _ _ => True
  | .post _ call => ∀ req, admitHwUid hwSharedSecretHex call.request = .ok req →
    (∀ n ∈ s.sent, n.1 = req.readerId → n.2 < req.hwSeq) ∨ req.number ∈ s.granted

instance (s : HwServer) (event : ServerEvent) :
    Decidable (SameProcess hwSharedSecretHex s event) :=
  match event with
  | .restart _ _ => .isTrue trivial
  | .post _ call => decidableOk (admitHwUid hwSharedSecretHex call.request) (·.number ∉ s.stale)

instance (s : HwServer) (event : ServerEvent) : Decidable (InOrder hwSharedSecretHex s event) :=
  match event with
  | .restart _ _ => .isTrue trivial
  | .post _ call =>
    -- the test goes through the list, not through all pairs of a reader and a number
    haveI (req : HwUidRequest) : Decidable (∀ n ∈ s.sent, n.1 = req.readerId → n.2 < req.hwSeq) :=
      List.decidableBAll (fun n => n.1 = req.readerId → n.2 < req.hwSeq) s.sent
    decidableOk (admitHwUid hwSharedSecretHex call.request) fun req =>
      (∀ n ∈ s.sent, n.1 = req.readerId → n.2 < req.hwSeq) ∨ req.number ∈ s.granted

/-- The window of the reader does not drop a granted number for that of the request. -/
def KeepsGranted (s : HwServer) : ServerEvent → Prop
  | .restart _ _ => True
  | .post _ call => ∀ req, admitHwUid hwSharedSecretHex call.request = .ok req →
    ∀ q, (req.readerId, q) ∈ s.current →
      ¬ (s.engine.windows.windowOf app.cfg.frameHandler.replayWindowSize req.readerId).Drops q
        req.hwSeq

/-! ## One event -/

/-- The cases of `serverStep` for a request. -/
inductive PostEffect (s : HwServer) (call : HwCall) : HwServer → Prop
  | refused (reply : HwReply)
      (hreq : admitHwUid hwSharedSecretHex call.request = .error reply) : PostEffect s call s
  | processed (req : HwUidRequest) (engine : EngineState) (current : List (UInt32 × UInt64))
      (hreq : admitHwUid hwSharedSecretHex call.request = .ok req)
      (hprocessed : app.Processed req s.engine engine)
      (hcurrent : current = s.current ∨
        (current = s.current ++ [req.number] ∧ Uses req.readerId req.hwSeq s.engine engine)) :
      PostEffect s call { s with engine, sent := s.sent ++ [req.number], current }

variable {app hwSharedSecretHex}

theorem hwUidRoute_refused {call : HwCall} {reply : HwReply}
    (hreq : admitHwUid hwSharedSecretHex call.request = .error reply) :
    app.hwUidRoute hwSharedSecretHex call = pure reply := by
  simp [AppState.hwUidRoute, hreq]

theorem hwUidRoute_admitted {call : HwCall} {req : HwUidRequest}
    (hreq : admitHwUid hwSharedSecretHex call.request = .ok req) :
    app.hwUidRoute hwSharedSecretHex call =
      recover (fun e => .failed 400 e.what)
        (app.processHwUid (call.scan req) >>= fun resp => pure (.processed resp)) := by
  simp [AppState.hwUidRoute, hreq]

/-- The reply that grants access comes from `processHwUid`. -/
theorem uses_of_route (hon : app.cfg.frameHandler.antiReplayEnabled = true) {call : HwCall}
    {req : HwUidRequest} (hreq : admitHwUid hwSharedSecretHex call.request = .ok req)
    {s : EngineState} {reply : HwReply}
    (h : result (app.hwUidRoute hwSharedSecretHex call) s = .ok reply)
    (hallow : reply.allow = true) :
    Uses req.readerId req.hwSeq s (after (app.hwUidRoute hwSharedSecretHex call) s) := by
  rw [hwUidRoute_admitted hreq, result_recover, result_bind_eq] at h
  rw [hwUidRoute_admitted hreq, after_recover, after_bind_pure]
  cases hresult : result (app.processHwUid (call.scan req)) s with
  | error e =>
    rw [hresult] at h
    obtain rfl := Except.ok.inj h
    cases hallow
  | ok resp =>
    rw [hresult] at h
    obtain rfl := Except.ok.inj h
    exact uses_of_processHwUid hon (returns_after_iff.mpr hresult) hallow

theorem serverStep_post (hon : app.cfg.frameHandler.antiReplayEnabled = true) (s : HwServer)
    (store : AccessStore) (call : HwCall) :
    PostEffect app hwSharedSecretHex s call
      (serverStep app hwSharedSecretHex s (.post store call)) := by
  let present : AppState := { app with store }
  have hpresent : present.cfg.frameHandler.antiReplayEnabled = true := hon
  cases hreq : admitHwUid hwSharedSecretHex call.request with
  | error reply =>
    simp only [serverStep, hreq, hwUidRoute_refused hreq, after_pure]
    exact .refused reply hreq
  | ok req =>
    simp only [serverStep, hreq]
    refine .processed req _ _ hreq ?_ ?_
    · rw [hwUidRoute_admitted hreq, after_recover, after_bind_pure]
      exact processed_processHwUid present (call.scan req) s.engine
    · cases hresult : result (present.hwUidRoute hwSharedSecretHex call) s.engine with
      | error e => exact .inl rfl
      | ok reply =>
        cases hallow : reply.allow with
        | false => exact .inl (by simp [Except.toOption, hallow])
        | true =>
          refine .inr ⟨?_, uses_of_route hpresent hreq hresult hallow⟩
          simp [Except.toOption, hallow]

/-! ## Invariants -/

/-- What the present process has granted counts as seen, and no number is granted twice. -/
structure HwInv (s : HwServer) : Prop where
  seen : ∀ n ∈ s.current, s.engine.windows.contains n.1 n.2 = true
  nodup : s.granted.Nodup

theorem hwInv_post {s t : HwServer} (hinv : HwInv s) {store : AccessStore} {call : HwCall}
    (hfresh : SameProcess hwSharedSecretHex s (.post store call))
    (hkeeps : KeepsGranted app hwSharedSecretHex s (.post store call))
    (h : PostEffect app hwSharedSecretHex s call t) : HwInv t := by
  cases h with
  | refused reply hreq => exact hinv
  | processed req engine current hreq hprocessed hcurrent =>
    have hkept : ∀ n ∈ s.current, engine.windows.contains n.1 n.2 = true := by
      rintro ⟨r, q⟩ hn
      refine hprocessed.contains (hinv.seen _ hn) ?_
      rintro rfl
      exact hkeeps req hreq q hn
    obtain rfl | ⟨rfl, hunused, hused⟩ := hcurrent
    · exact ⟨hkept, hinv.nodup⟩
    · constructor
      · intro n hn
        rcases List.mem_append.mp hn with hn | hn
        · exact hkept n hn
        · obtain rfl := List.mem_singleton.mp hn
          exact hused
      · have hnew : req.number ∉ s.granted := by
          intro hgranted
          rcases List.mem_append.mp hgranted with hstale | hcurrent
          · exact hfresh req hreq hstale
          · have hseen := hinv.seen _ hcurrent
            rw [HwUidRequest.number, hunused] at hseen
            cases hseen
        unfold HwServer.granted at *
        rw [← List.append_assoc, ← List.concat_eq_append]
        exact hinv.nodup.concat hnew

/-- Each window lists numbers that its reader has sent, in ascending order. -/
structure Ascending (app : AppState) (s : HwServer) : Prop where
  order : ∀ r, (s.engine.windows.windowOf app.cfg.frameHandler.replayWindowSize r).order.Pairwise
    (· < ·)
  sent : ∀ r, ∀ q ∈ (s.engine.windows.windowOf app.cfg.frameHandler.replayWindowSize r).order,
    (r, q) ∈ s.sent

/-- What is sent again has been granted by the present process, so it counts as seen. -/
theorem HwInv.seen_of_resent {s : HwServer} (hinv : HwInv s) {store : AccessStore} {call : HwCall}
    (hfresh : SameProcess hwSharedSecretHex s (.post store call)) {req : HwUidRequest}
    (hreq : admitHwUid hwSharedSecretHex call.request = .ok req)
    (hgranted : req.number ∈ s.granted) (size : UInt64) :
    (s.engine.windows.windowOf size req.readerId).contains req.hwSeq = true := by
  rw [ReplayWindowMap.contains_windowOf]
  rcases List.mem_append.mp hgranted with hstale | hcurrent
  · exact absurd hstale (hfresh req hreq)
  · exact hinv.seen _ hcurrent

/-- In order, the window has room for every granted number that is not too old. -/
theorem keepsGranted_of_inOrder {s : HwServer} (hinv : HwInv s) (hasc : Ascending app s)
    {call : HwCall} (hfresh : SameProcess hwSharedSecretHex s (.post store call))
    (hord : InOrder hwSharedSecretHex s (.post store call)) :
    KeepsGranted app hwSharedSecretHex s (.post store call) := by
  intro req hreq q hq
  rcases hord req hreq with hnew | hgranted
  · exact ReplayWindow.not_drops_of_ascending (hasc.order _)
      (fun x hx => hnew _ (hasc.sent _ x hx) rfl) q
  · rintro ⟨hunseen, -⟩
    rw [hinv.seen_of_resent hfresh hreq hgranted] at hunseen
    cases hunseen

theorem ascending_post {s t : HwServer} (hinv : HwInv s) (hasc : Ascending app s)
    {call : HwCall} (hfresh : SameProcess hwSharedSecretHex s (.post store call))
    (hord : InOrder hwSharedSecretHex s (.post store call))
    (h : PostEffect app hwSharedSecretHex s call t) : Ascending app t := by
  cases h with
  | refused reply hreq => exact hasc
  | processed req engine current hreq hprocessed hcurrent =>
    have hwf := s.engine.windows.windowOf_wf app.cfg.frameHandler.replayWindowSize req.readerId
    have hkept : ∀ {r q}, (r, q) ∈ s.sent → (r, q) ∈ s.sent ++ [req.number] :=
      List.mem_append_left _
    suffices hwindow : ∀ r,
        let w := engine.windows.windowOf app.cfg.frameHandler.replayWindowSize r
        w.order.Pairwise (· < ·) ∧ ∀ q ∈ w.order, (r, q) ∈ s.sent ++ [req.number] from
      ⟨fun r => (hwindow r).1, fun r => (hwindow r).2⟩
    intro r
    have hold := And.intro (hasc.order r) fun q hq => hkept (hasc.sent r q hq)
    by_cases hr : r = req.readerId
    · subst hr
      rcases hprocessed.own with hown | hown
      · rwa [hown]
      rw [hown]
      cases hseen : (s.engine.windows.windowOf app.cfg.frameHandler.replayWindowSize
          req.readerId).contains req.hwSeq with
      | true => rwa [ReplayWindow.remember_of_contains hseen]
      | false =>
        rcases hord req hreq with hnew | hgranted
        · refine ⟨hwf.ascending_remember hold.1 fun x hx => hnew _ (hasc.sent _ x hx) rfl, ?_⟩
          intro q hq
          rcases hwf.mem_remember hseen hq with rfl | hq
          · exact List.mem_append_right _ (List.mem_singleton_self _)
          · exact hold.2 q hq
        · rw [hinv.seen_of_resent hfresh hreq hgranted] at hseen
          cases hseen
    · rwa [hprocessed.other r hr]

/-! ## Runs -/

theorem hwInv_restart {s : HwServer} (hinv : HwInv s) (dbPath : Bytes) (now : UInt64) :
    HwInv (serverStep app hwSharedSecretHex s (.restart dbPath now)) := by
  refine ⟨nofun, ?_⟩
  simpa [serverStep, HwServer.granted] using hinv.nodup

omit [Sodium] [JsonLib] [JsonIntegers] in
theorem ascending_opened (s : HwServer) {dbPath : Bytes} {now : UInt64} {audit : List AuditEvent}
    (hengine : s.engine = openedState dbPath now audit) : Ascending app s := by
  constructor
  · intro r
    rw [hengine]
    exact List.Pairwise.nil
  · intro r q hq
    rw [hengine] at hq
    cases hq

/-- In a run over any number of processes no reader and number are granted twice, if nothing is
sent again that an earlier process has granted. It is enough that the other requests come in
order; in any order, the windows must not drop what was granted. -/
theorem granted_single_use (hon : app.cfg.frameHandler.antiReplayEnabled = true)
    (dbPath : Bytes) (now : UInt64) (audit : List AuditEvent) (events : List ServerEvent)
    (hfresh : Along (serverStep app hwSharedSecretHex) (SameProcess hwSharedSecretHex)
      (.start dbPath now audit) events)
    (horder : Along (serverStep app hwSharedSecretHex) (InOrder hwSharedSecretHex)
        (.start dbPath now audit) events ∨
      Along (serverStep app hwSharedSecretHex) (KeepsGranted app hwSharedSecretHex)
        (.start dbPath now audit) events) :
    (run (serverStep app hwSharedSecretHex) (.start dbPath now audit) events).granted.Nodup := by
  have hstart : HwInv (.start dbPath now audit) := ⟨nofun, List.nodup_nil⟩
  rcases horder with hord | hkeeps
  · have hboth : Ascending app (.start dbPath now audit) := ascending_opened _ rfl
    refine (run_invariant (I := fun s => HwInv s ∧ Ascending app s) ?_ ⟨hstart, hboth⟩
      (along_and hfresh hord)).1.nodup
    rintro s event ⟨hinv, hasc⟩ ⟨hfresh, hord⟩
    cases event with
    | restart dbPath now => exact ⟨hwInv_restart hinv dbPath now, ascending_opened _ rfl⟩
    | post store call =>
      have heffect : PostEffect app hwSharedSecretHex s call _ := serverStep_post hon s store call
      exact ⟨hwInv_post hinv hfresh (keepsGranted_of_inOrder hinv hasc hfresh hord) heffect,
        ascending_post hinv hasc hfresh hord heffect⟩
  · refine (run_invariant (I := HwInv) ?_ hstart (along_and hfresh hkeeps)).nodup
    rintro s event hinv ⟨hfresh, hkeeps⟩
    cases event with
    | restart dbPath now => exact hwInv_restart hinv dbPath now
    | post store call => exact hwInv_post hinv hfresh hkeeps (serverStep_post hon s store call)

end

end

/-! ## A request that is sent again -/

/-- The body of a scan, as the hardware writes it. -/
def sampleBody (hwSeq : String) : Bytes :=
  bytesOf ("\x7b\"uid\":\"card\",\"reader_id\":7,\"door_id\":1,\"hw_seq\":" ++ hwSeq ++ "\x7d")

def sampleJson (hwSeq : String) : Json :=
  .object [(bytesOf "door_id", .number (bytesOf "1")),
    (bytesOf "hw_seq", .number (bytesOf hwSeq)),
    (bytesOf "reader_id", .number (bytesOf "7")), (bytesOf "uid", .string (bytesOf "card"))]

/-- A library that parses two such bodies, and requests. -/
@[reducible] def sampleJsonLib : JsonLib :=
  { JsonLib.requests with
    parse := fun text =>
      if text = sampleBody "1" then pure (sampleJson "1")
      else if text = sampleBody "2" then pure (sampleJson "2")
      else JsonLib.requests.parse text }

/-- The value of a decimal number. -/
def decimal (digits : Bytes) : Nat := digits.foldl (fun n d => 10 * n + (d.toNat - 48)) 0

@[reducible] def sampleJsonIntegers : JsonIntegers where
  getUInt32
    | .number token => some (.ofNat (decimal token))
    | _ => none
  getUInt64
    | .number token => some (.ofNat (decimal token))
    | _ => none

def sampleSecretHex : Bytes := List.replicate 64 48

/-- A scan at reader 7, signed. -/
def sampleCall (hwSeq : String) : HwCall where
  request := {
    signature :=
      letI : Sodium := .transparent
      CardIdHasher.toHex
        (hmacSha256 (zeros 32).toList (bytesOf "POST /api/hw/uid\n" ++ sampleBody hwSeq)).toList
    body := sampleBody hwSeq }
  env := .quiet
  random := []
  attempts := Vector.replicate 3 ⟨.answered, .quiet⟩

def sampleEvent (hwSeq : String) : ServerEvent := .post .permissive (sampleCall hwSeq)

def servedBy (events : List ServerEvent) : HwServer :=
  letI : Sodium := .transparent
  letI : JsonLib := sampleJsonLib
  letI : JsonIntegers := sampleJsonIntegers
  run (serverStep sampleApp sampleSecretHex) (.start [] 0 []) events

@[reducible] def freshCalls (events : List ServerEvent) : Prop :=
  letI : Sodium := .transparent
  letI : JsonLib := sampleJsonLib
  letI : JsonIntegers := sampleJsonIntegers
  Along (serverStep sampleApp sampleSecretHex) (SameProcess sampleSecretHex) (.start [] 0 []) events

@[reducible] def orderedCalls (events : List ServerEvent) : Prop :=
  letI : Sodium := .transparent
  letI : JsonLib := sampleJsonLib
  letI : JsonIntegers := sampleJsonIntegers
  Along (serverStep sampleApp sampleSecretHex) (InOrder sampleSecretHex) (.start [] 0 []) events

theorem granted_single_use_restart :
    (servedBy [sampleEvent "1", .restart [] 0, sampleEvent "2"]).granted.Nodup := by
  have hrun : ∀ events, freshCalls events → orderedCalls events →
      (servedBy events).granted.Nodup := by
    intro events hfresh horder
    let _ : Sodium := .transparent
    let _ : JsonLib := sampleJsonLib
    let _ : JsonIntegers := sampleJsonIntegers
    exact granted_single_use rfl [] 0 [] events hfresh (.inl horder)
  exact hrun _ (by decide +kernel) (by decide +kernel)

/-- Both numbers are in order, and the second process grants what the first has granted. -/
theorem granted_after_restart :
    orderedCalls [sampleEvent "1", .restart [] 0, sampleEvent "1"] ∧
      (servedBy [sampleEvent "1", .restart [] 0, sampleEvent "1"]).granted =
        [(7, 1), (7, 1)] := by
  constructor
  · decide +kernel
  · decide +kernel

end AccessSecurity.Admin
