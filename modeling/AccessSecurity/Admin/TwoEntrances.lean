import AccessSecurity.Admin.Agreement
import AccessSecurity.Core.CheckThenCommit
import AccessSecurity.Decision.Interruption
import AccessSecurity.Foundation.Run

/-!
# Two entrances to the engine

In local mode a hardware scan calls the engine under `AppState::m`, the decision endpoint
calls it under `engineMutex`, and both work on the same replay windows. A request looks its
number up in one step and records it in a later one, under its own mutex.
-/

namespace AccessSecurity.Decision.Engine

open Foundation Protocol Crypto Core

/-! ## A call of the engine in two steps -/

/-- A program of the frame handler, on the windows that the engine is given. -/
abbrev onWindows {α : Type} (x : HandlerM α) : EngineM α :=
  zoom EngineState.windows (fun windows s => { s with windows }) x

theorem onWindows_bind {α β : Type} (x : HandlerM α) (f : α → HandlerM β) :
    onWindows (x >>= f) = onWindows x >>= fun a => onWindows (f a) := by
  apply zoom_bind
  · intro windows s
    rfl
  · intro windows windows' s
    rfl

def lookupFrame (en : Engine) (env : Env) (frameBytes : Bytes) : EngineM FrameHandler.Found :=
  onWindows (en.handler.lookup env frameBytes)

theorem lookupFrame_keeps {en : Engine} {P : ReplayWindowMap → Prop}
    (h : ∀ windows r, P windows →
      P (windows.getOrCreateWindow en.frameHandlerCfg.replayWindowSize r))
    (env : Env) (frameBytes : Bytes) {s : EngineState} (hs : P s.windows) :
    P (after (en.lookupFrame env frameBytes) s).windows := by
  unfold lookupFrame
  rw [after_zoom]
  exact FrameHandler.lookup_keeps h env frameBytes s.windows hs

/-- A lookup leaves every answer of the windows as it is. -/
theorem contains_lookupFrame (en : Engine) (env : Env) (frameBytes : Bytes) (s : EngineState)
    (r : UInt32) (q : UInt64) :
    (after (en.lookupFrame env frameBytes) s).windows.contains r q = s.windows.contains r q := by
  refine lookupFrame_keeps (P := fun windows => windows.contains r q = _) ?_ env frameBytes rfl
  intro windows readerId hwindows
  rw [ReplayWindowMap.contains_getOrCreateWindow, hwindows]

theorem isSome_lookupFrame (en : Engine) (env : Env) (frameBytes : Bytes) {s : EngineState}
    {r : UInt32} (h : (s.windows.find r).isSome = true) :
    ((after (en.lookupFrame env frameBytes) s).windows.find r).isSome = true :=
  lookupFrame_keeps (P := fun windows => (windows.find r).isSome = true)
    (fun _ readerId hr => ReplayWindowMap.isSome_getOrCreateWindow hr _ readerId) env frameBytes h

variable [Sodium]

theorem lookupFrame_result {en : Engine} (hon : en.frameHandlerCfg.antiReplayEnabled = true)
    {env : Env} {frameBytes : Bytes} {found : FrameHandler.Found} {s : EngineState}
    (h : result (en.lookupFrame env frameBytes) s = .ok found) :
    en.handler.LookupResult frameBytes s.windows (after (en.lookupFrame env frameBytes) s).windows
      found := by
  have hreturns := returns_after_iff.mpr h
  unfold lookupFrame at hreturns ⊢
  obtain ⟨windows, hlookup, hafter⟩ := returns_zoom.mp hreturns
  rw [hafter]
  exact FrameHandler.returns_lookup hon hlookup

variable [JsonLib]

def commitFrame (en : Engine) (env : Env) (frameSize : Nat) (found : FrameHandler.Found) :
    EngineM DecisionResult := do
  let frameResult ← onWindows (en.handler.commit env found)
  en.publishFrameEvent env frameSize
  en.detect env frameResult

theorem handleFrameBytes_steps (en : Engine) (env : Env) (frameBytes : Bytes) :
    en.handleFrameBytes env frameBytes =
      en.lookupFrame env frameBytes >>= en.commitFrame env frameBytes.length := by
  rw [handleFrameBytes_eq, FrameHandler.handle_eq]
  change onWindows (_ >>= _) >>= _ = _
  rw [onWindows_bind, bind_assoc]
  rfl

/-- The number of the frame is recorded, or the frame is not granted. -/
theorem commitFrame_cases {en : Engine} (hon : en.frameHandlerCfg.antiReplayEnabled = true)
    {frameBytes : Bytes} {found : FrameHandler.Found} (hwf : found.Wf en.handler frameBytes)
    (env : Env) (frameSize : Nat) (s : EngineState) :
    (∃ frame window, found = .ok (frame, window) ∧
      (after (en.commitFrame env frameSize found) s).windows =
        s.windows.remember frame.header.readerId frame.header.seq) ∨
    ((after (en.commitFrame env frameSize found) s).windows = s.windows ∧
      ∀ r, result (en.commitFrame env frameSize found) s = .ok r → r.allow = false) := by
  obtain ⟨res, windows, hcommit⟩ := en.handler.commit_total env found s.windows
  have hzoom : Returns (onWindows (en.handler.commit env found)) s res { s with windows } :=
    returns_zoom.mpr ⟨windows, hcommit, rfl⟩
  obtain ⟨_, u, hpush⟩ : Total (en.publishFrameEvent env frameSize) { s with windows } :=
    push_total _ _ _
  have hwindows : (after (en.commitFrame env frameSize found) s).windows = windows := by
    unfold commitFrame
    rw [after_bind_returns hzoom, after_bind_returns hpush, (after_detect en env res u).1,
      (push_control hpush).1]
  rw [hwindows]
  obtain hrecorded | ⟨hsame, hdeny⟩ := FrameHandler.returns_commit hon hwf hcommit
  · exact .inl hrecorded
  · refine .inr ⟨hsame, fun r hr => ?_⟩
    have hreturns := returns_after_iff.mpr hr
    unfold commitFrame at hreturns
    simp only [returns_bind] at hreturns
    obtain ⟨res', u', hzoom', _, v, -, hdetect⟩ := hreturns
    obtain ⟨rfl, rfl⟩ := hzoom.unique hzoom'
    obtain ⟨-, -, rfl⟩ := detect_result hdetect
    unfold answer decide
    split_ifs
    · rfl
    · rfl

end AccessSecurity.Decision.Engine

namespace AccessSecurity.Admin

open Foundation Protocol Crypto Core Decision

/-! ## Requests -/

/-- The mutexes under which the engine is called. -/
inductive Mutex where
  | m
  | engineMutex
  deriving DecidableEq, Repr

/-- A request to `/api/hw/uid` or to `/api/decision/frame`, and what it meets. -/
inductive Request where
  | hwUid (scan : Scan)
  | decisionFrame (env : Env) (body : Bytes)

namespace Request

def mutex : Request → Mutex
  | .hwUid _ => .m
  | .decisionFrame _ _ => .engineMutex

def env : Request → Env
  | .hwUid scan => scan.env
  | .decisionFrame env _ => env

/-- The frame of the request has this reader and this sequence number. -/
def Carries (app : AppState) (readerId : UInt32) (seq : UInt64) : Request → Prop
  | .hwUid scan => scan.req.readerId = readerId ∧ scan.req.hwSeq = seq
  | .decisionFrame _ body => ∃ frame, parseFrame body app.cfg.frameHandler.maxCtLen = .ok frame ∧
    frame.header.readerId = readerId ∧ frame.header.seq = seq

end Request

section

variable [Sodium] [JsonLib]

/-- The part of `processHwUid` before the engine is called: the reply, or the frame. -/
def AppState.buildFrame (app : AppState) (scan : Scan) : EngineM (Except DecisionResult Bytes) := do
  let req := scan.req
  let kv ← lift (scan.env.access .hwKeyVersion (app.store.currentKeyVersionForReader req.readerId))
  if kv = 0 then
    pushHwEvent app.engine scan.env (bytesOf "hw uid: unknown_reader") req.readerId req.doorId 0
    return .error { allow := false, reason := "unknown_reader" }
  else
    pushHwEvent app.engine scan.env (bytesOf "uid=" ++ req.uid) req.readerId req.doorId req.hwSeq
    let frameBytes ← lift (buildEncryptedFrameBytes app.keyManager (app.sendRequest scan kv))
    return .ok frameBytes

/-- The reply to a request without a frame, or the frame that the engine gets. -/
def AppState.receive (app : AppState) : Request → EngineM (Except DecisionResult Bytes)
  | .hwUid scan => app.buildFrame scan
  | .decisionFrame _ body =>
    if body.isEmpty then pure (.error { allow := false, reason := "empty_frame" })
    else pure (.ok body)

/-- A request from its arrival to its reply. -/
def AppState.serve (app : AppState) (request : Request) : EngineM DecisionResult := do
  match ← app.receive request with
  | .error reply => return reply
  | .ok frameBytes => app.engine.handleFrameBytes request.env frameBytes

/-- Whether the reply, or the exception that becomes an error reply, grants access. -/
def allowed : Except Exn DecisionResult → Bool
  | .ok r => r.allow
  | .error _ => false

/-- In local mode a scan is served as a request. -/
theorem serve_hwUid {app : AppState} (hlocal : app.cfg.decisionMode ≠ "remote") (scan : Scan) :
    app.serve (.hwUid scan) =
      (fun resp => { allow := resp.allow, reason := resp.reason }) <$> app.processHwUid scan := by
  unfold AppState.serve AppState.receive AppState.buildFrame AppState.processHwUid
  simp only [bind_assoc, map_bind]
  congr 1
  funext kv
  split_ifs with hkv
  · simp
  · simp [Request.env]

theorem serve_decisionFrame (app : AppState) (env : Env) (body : Bytes) :
    app.serve (.decisionFrame env body) =
      if body.isEmpty then pure { allow := false, reason := "empty_frame" }
      else app.engine.handleFrameBytes env body := by
  unfold AppState.serve AppState.receive
  dsimp only
  split_ifs with hempty
  · rw [pure_bind]
  · rw [pure_bind]
    rfl

/-- The decision endpoint answers what serving the request gives. -/
theorem decisionEndpoint_serve (app : AppState) (env : Env) (body : Bytes) (s : EngineState) :
    ∃ reply, Returns (decisionEndpoint app.engine env body) s reply
        (after (app.serve (.decisionFrame env body)) s) ∧
      reply.allow = allowed (result (app.serve (.decisionFrame env body)) s) := by
  rw [serve_decisionFrame]
  unfold decisionEndpoint
  split_ifs with hempty
  · exact ⟨_, returns_pure.mpr ⟨rfl, rfl⟩, rfl⟩
  · cases hrun : app.engine.handleFrameBytes env body s with
    | ok r t =>
      refine ⟨{ status := 200, allow := r.allow, reason := r.reason }, ?_, ?_⟩
      · simp [Returns, after, recover, bind, EStateM.bind, pure, EStateM.pure, hrun]
      · simp [result, hrun, allowed]
    | error e t =>
      refine ⟨{ status := 500, allow := false, reason := "internal_error" }, ?_, ?_⟩
      · simp [Returns, after, recover, bind, EStateM.bind, hrun]
      · simp [result, hrun, allowed]

/-! ## Steps -/

/-- Where a request stands; it holds its mutex from `holding` to `decided`. -/
inductive Phase where
  | arrived
  | ready (frameBytes : Bytes)
  | holding (frameBytes : Bytes)
  | looked (frameBytes : Bytes) (found : FrameHandler.Found)
  | decided (r : Except Exn DecisionResult)
  | replied (r : Except Exn DecisionResult)

namespace Phase

@[simp] def holds : Phase → Bool
  | .holding _ => true
  | .looked _ _ => true
  | .decided _ => true
  | _ => false

/-- The number has been looked up as fresh and is not recorded yet. -/
@[simp] def pending : Phase → Bool
  | .looked _ (.ok _) => true
  | _ => false

@[simp] def granted : Phase → Bool
  | .decided r => allowed r
  | .replied r => allowed r
  | _ => false

/-- The frame that the engine is or will be called with. -/
def frame : Phase → Option Bytes
  | .ready frameBytes => some frameBytes
  | .holding frameBytes => some frameBytes
  | .looked frameBytes _ => some frameBytes
  | _ => none

end Phase

/-- The requests by their arrival, and the owners of the mutexes. -/
structure Serving where
  engine : EngineState
  phase : Nat → Phase
  owner : Mutex → Option Nat

def Serving.start (engine : EngineState) : Serving where
  engine := engine
  phase _ := .arrived
  owner _ := none

/-- Request `i` runs a program on the engine's state and goes on. -/
def Serving.perform {α : Type} (s : Serving) (i : Nat) (x : EngineM α)
    (next : Except Exn α → Phase) : Serving :=
  { s with
    engine := after x s.engine
    phase := Function.update s.phase i (next (result x s.engine)) }

/-- One step of request `i`; a request whose mutex is not free waits. -/
def AppState.serveStep (app : AppState) (requests : Nat → Request) (s : Serving) (i : Nat) :
    Serving :=
  let request := requests i
  match s.phase i with
  | .arrived =>
    -- The frame of a scan is built under `m`, which is free again afterwards.
    if request.mutex = .m ∧ s.owner .m ≠ none then s
    else s.perform i (app.receive request) fun r =>
      match r with
      | .ok (.ok frameBytes) => .ready frameBytes
      | .ok (.error reply) => .replied (.ok reply)
      | .error e => .replied (.error e)
  | .ready frameBytes =>
    if s.owner request.mutex = none then
      { s with
        phase := Function.update s.phase i (.holding frameBytes)
        owner := Function.update s.owner request.mutex (some i) }
    else s
  | .holding frameBytes =>
    s.perform i (app.engine.lookupFrame request.env frameBytes) fun r =>
      match r with
      | .ok found => .looked frameBytes found
      | .error e => .decided (.error e)
  | .looked frameBytes found =>
    s.perform i (app.engine.commitFrame request.env frameBytes.length found) .decided
  | .decided r =>
    { s with
      phase := Function.update s.phase i (.replied r)
      owner := Function.update s.owner request.mutex none }
  | .replied _ => s

/-! ## What one step does -/

variable {app : AppState} {requests : Nat → Request} {s : Serving} {i : Nat}

/-- The bytes are those of the request, or of a frame that was built for it. -/
def Request.Sends (app : AppState) (frameBytes : Bytes) : Request → Prop
  | .hwUid scan => ∃ kv, buildEncryptedFrameBytes app.keyManager (app.sendRequest scan kv) =
    .ok frameBytes
  | .decisionFrame _ body => frameBytes = body

theorem Request.Sends.carries {request : Request} {frameBytes : Bytes} {frame : Frame}
    (h : request.Sends app frameBytes)
    (hparse : parseFrame frameBytes app.cfg.frameHandler.maxCtLen = .ok frame) {r : UInt32}
    {q : UInt64} :
    request.Carries app r q ↔ frame.header.readerId = r ∧ frame.header.seq = q := by
  cases request with
  | hwUid scan =>
    obtain ⟨kv, hbuild⟩ := h
    obtain ⟨hreader, hseq⟩ := SendRequest.header_of_parse hbuild hparse
    rw [hreader, hseq]
    rfl
  | decisionFrame env body =>
    obtain rfl := h
    constructor
    · rintro ⟨frame', hparse', hheader⟩
      obtain rfl := Except.ok.inj (hparse.symm.trans hparse')
      exact hheader
    · exact fun hheader => ⟨frame, hparse, hheader⟩

/-- A request is denied at once, or its bytes go to the engine. -/
theorem returns_receive {request : Request} {e t : EngineState}
    {r : Except DecisionResult Bytes} (h : Returns (app.receive request) e r t) :
    (∃ reply, r = .error reply ∧ reply.allow = false) ∨
      ∃ frameBytes, r = .ok frameBytes ∧ request.Sends app frameBytes := by
  cases request with
  | hwUid scan =>
    simp only [AppState.receive, AppState.buildFrame, returns_bind, returns_lift] at h
    obtain ⟨kv, _, -, h⟩ := h
    split_ifs at h
    · simp only [returns_bind, returns_pure] at h
      obtain ⟨_, _, -, rfl, -⟩ := h
      exact .inl ⟨_, rfl, rfl⟩
    · simp only [returns_bind, returns_lift, returns_pure] at h
      obtain ⟨_, _, -, frameBytes, _, ⟨hbuild, -⟩, rfl, -⟩ := h
      exact .inr ⟨frameBytes, rfl, kv, hbuild⟩
  | decisionFrame env body =>
    simp only [AppState.receive] at h
    split_ifs at h
    · obtain ⟨rfl, -⟩ := returns_pure.mp h
      exact .inl ⟨_, rfl, rfl⟩
    · obtain ⟨rfl, -⟩ := returns_pure.mp h
      exact .inr ⟨body, rfl, rfl⟩

theorem windows_receive (request : Request) (e : EngineState) :
    (after (app.receive request) e).windows = e.windows := by
  have hlog : ∀ u t : EngineState, Engine.SameControl u t → u.windows = e.windows →
      t.windows = e.windows := fun u t hsame hu => hsame.1.trans hu
  have hkeeps : Keeps (fun u : EngineState => u.windows = e.windows) (app.receive request) := by
    cases request with
    | hwUid scan =>
      refine keeps_bind (keeps_lift _) fun kv => ?_
      split_ifs
      · exact keeps_bind (Engine.push_keeps hlog _ _) fun _ => keeps_pure _
      · exact keeps_bind (Engine.push_keeps hlog _ _) fun _ =>
          keeps_bind (keeps_lift _) fun _ => keeps_pure _
    | decisionFrame env body =>
      simp only [AppState.receive]
      split_ifs
      · exact keeps_pure _
      · exact keeps_pure _
  exact hkeeps e rfl

/-- The cases of `serveStep`, with what the rest relies on. -/
inductive ServeEffect (app : AppState) (requests : Nat → Request) (s : Serving) (i : Nat) :
    Serving → Prop
  | waits : ServeEffect app requests s i s
  | receives {engine : EngineState} {phase : Phase} (hbefore : s.phase i = .arrived)
      (hwindows : engine.windows = s.engine.windows)
      (hafter : (∃ r, phase = .replied r ∧ allowed r = false) ∨
        ∃ frameBytes, phase = .ready frameBytes ∧ (requests i).Sends app frameBytes) :
      ServeEffect app requests s i
        { s with engine, phase := Function.update s.phase i phase }
  | acquires {frameBytes : Bytes} (hbefore : s.phase i = .ready frameBytes)
      (hfree : s.owner (requests i).mutex = none) :
      ServeEffect app requests s i
        { s with
          phase := Function.update s.phase i (.holding frameBytes)
          owner := Function.update s.owner (requests i).mutex (some i) }
  | looks {frameBytes : Bytes} {engine : EngineState} {phase : Phase}
      (hbefore : s.phase i = .holding frameBytes)
      (hcontains : ∀ r q, engine.windows.contains r q = s.engine.windows.contains r q)
      (hfind : ∀ r, (s.engine.windows.find r).isSome = true →
        (engine.windows.find r).isSome = true)
      (hafter : (∃ e, phase = .decided (.error e)) ∨ ∃ found, phase = .looked frameBytes found ∧
        app.engine.handler.LookupResult frameBytes s.engine.windows engine.windows found) :
      ServeEffect app requests s i
        { s with engine, phase := Function.update s.phase i phase }
  | commits {frameBytes : Bytes} {found : FrameHandler.Found} {engine : EngineState}
      {r : Except Exn DecisionResult} (hbefore : s.phase i = .looked frameBytes found)
      (heffect : found.Wf app.engine.handler frameBytes →
        (∃ frame window, found = .ok (frame, window) ∧ engine.windows =
          s.engine.windows.remember frame.header.readerId frame.header.seq) ∨
        (engine.windows = s.engine.windows ∧ allowed r = false)) :
      ServeEffect app requests s i
        { s with engine, phase := Function.update s.phase i (.decided r) }
  | releases {r : Except Exn DecisionResult} (hbefore : s.phase i = .decided r) :
      ServeEffect app requests s i
        { s with
          phase := Function.update s.phase i (.replied r)
          owner := Function.update s.owner (requests i).mutex none }

theorem serveStep_effect (hon : app.cfg.frameHandler.antiReplayEnabled = true) (s : Serving)
    (i : Nat) : ServeEffect app requests s i (app.serveStep requests s i) := by
  unfold AppState.serveStep
  cases hphase : s.phase i with
  | arrived =>
    dsimp only
    split_ifs
    · exact .waits
    · refine .receives hphase (windows_receive _ _) ?_
      cases hresult : result (app.receive (requests i)) s.engine with
      | error e => exact .inl ⟨_, rfl, rfl⟩
      | ok r =>
        obtain ⟨reply, rfl, hdeny⟩ | ⟨frameBytes, rfl, hsends⟩ :=
          returns_receive (returns_after_iff.mpr hresult)
        · exact .inl ⟨_, rfl, hdeny⟩
        · exact .inr ⟨_, rfl, hsends⟩
  | ready frameBytes =>
    dsimp only
    split_ifs with hfree
    · exact .acquires hphase hfree
    · exact .waits
  | holding frameBytes =>
    refine .looks hphase (app.engine.contains_lookupFrame _ _ _)
      (fun r => app.engine.isSome_lookupFrame _ _) ?_
    cases hresult : result (app.engine.lookupFrame (requests i).env frameBytes) s.engine with
    | error e => exact .inl ⟨e, rfl⟩
    | ok found =>
      exact .inr ⟨found, rfl, Engine.lookupFrame_result hon hresult⟩
  | looked frameBytes found =>
    refine .commits hphase fun hwf => ?_
    obtain hrecorded | ⟨hsame, hdeny⟩ :=
      Engine.commitFrame_cases hon hwf (requests i).env frameBytes.length s.engine
    · exact .inl hrecorded
    · refine .inr ⟨hsame, ?_⟩
      cases hresult : result (app.engine.commitFrame (requests i).env frameBytes.length found)
          s.engine with
      | error e => rfl
      | ok r => exact hdeny r hresult
  | decided r => exact .releases hphase
  | replied r => exact .waits

/-! ## Mutual exclusion -/

/-- Request `j` owns its mutex if it is between `holding` and `decided`. -/
def Phase.Owns (owner : Mutex → Option Nat) (request : Request) (j : Nat) (phase : Phase) : Prop :=
  phase.holds = true → owner request.mutex = some j

def Exclusive (requests : Nat → Request) (s : Serving) : Prop :=
  ∀ j, (s.phase j).Owns s.owner (requests j) j

omit [Sodium] [JsonLib] in
theorem Exclusive.eq (h : Exclusive requests s) {j : Nat}
    (hmutex : (requests j).mutex = (requests i).mutex) (hi : (s.phase i).holds = true)
    (hj : (s.phase j).holds = true) : j = i := by
  have hown := h j hj
  rw [hmutex, h i hi] at hown
  exact (Option.some.inj hown).symm

theorem exclusive_step (hinv : Exclusive requests s) {t : Serving}
    (h : ServeEffect app requests s i t) : Exclusive requests t := by
  have hi := hinv i
  cases h with
  | waits => exact hinv
  | receives hbefore hwindows hafter =>
    refine (Function.forall_update_iff _ _).mpr ⟨?_, fun j _ => hinv j⟩
    obtain ⟨r, rfl, -⟩ | ⟨frameBytes, rfl, -⟩ := hafter
    · exact nofun
    · exact nofun
  | acquires hbefore hfree =>
    refine (Function.forall_update_iff _ _).mpr ⟨fun _ => Function.update_self .., ?_⟩
    intro j _ hj
    have hown := hinv j hj
    dsimp only
    rw [Function.update_of_ne, hown]
    intro hmutex
    rw [hmutex, hfree] at hown
    cases hown
  | looks hbefore hcontains hfind hafter =>
    rw [hbefore] at hi
    exact (Function.forall_update_iff _ _).mpr ⟨fun _ => hi rfl, fun j _ => hinv j⟩
  | commits hbefore heffect =>
    rw [hbefore] at hi
    exact (Function.forall_update_iff _ _).mpr ⟨fun _ => hi rfl, fun j _ => hinv j⟩
  | releases hbefore =>
    refine (Function.forall_update_iff _ _).mpr ⟨nofun, fun j hne hj => ?_⟩
    dsimp only
    rw [Function.update_of_ne]
    · exact hinv j hj
    · intro hmutex
      exact hne (hinv.eq hmutex (by rw [hbefore]; rfl) hj)

/-! ## What a request carries along -/

/-- The frame is that of the request, and what has been found fits it. -/
def Phase.Fits (app : AppState) (request : Request) (windows : ReplayWindowMap) : Phase → Prop
  | .ready frameBytes => request.Sends app frameBytes
  | .holding frameBytes => request.Sends app frameBytes
  | .looked frameBytes found => request.Sends app frameBytes ∧
    found.Wf app.engine.handler frameBytes ∧ found.HasWindow windows
  | _ => True

theorem Phase.Fits.mono {request : Request} {windows after : ReplayWindowMap} {phase : Phase}
    (h : phase.Fits app request windows)
    (hfind : ∀ r, (windows.find r).isSome = true → (after.find r).isSome = true) :
    phase.Fits app request after := by
  cases phase with
  | looked frameBytes found => exact ⟨h.1, h.2.1, h.2.2.mono hfind⟩
  | _ => exact h

def Consistent (app : AppState) (requests : Nat → Request) (s : Serving) : Prop :=
  ∀ j, (s.phase j).Fits app (requests j) s.engine.windows

theorem consistent_step (hinv : Consistent app requests s) {t : Serving}
    (h : ServeEffect app requests s i t) : Consistent app requests t := by
  have hi := hinv i
  cases h with
  | waits => exact hinv
  | receives hbefore hwindows hafter =>
    refine (Function.forall_update_iff _ _).mpr ⟨?_, fun j _ => ?_⟩
    · obtain ⟨r, rfl, -⟩ | ⟨frameBytes, rfl, hsends⟩ := hafter
      · trivial
      · exact hsends
    · rw [hwindows]
      exact hinv j
  | acquires hbefore hfree =>
    rw [hbefore] at hi
    exact (Function.forall_update_iff _ _).mpr ⟨hi, fun j _ => hinv j⟩
  | looks hbefore hcontains hfind hafter =>
    rw [hbefore] at hi
    refine (Function.forall_update_iff _ _).mpr ⟨?_, fun j _ => (hinv j).mono hfind⟩
    obtain ⟨e, rfl⟩ | ⟨found, rfl, hfound⟩ := hafter
    · trivial
    · exact ⟨hi, hfound.wf, hfound.hasWindow⟩
  | commits hbefore heffect =>
    rw [hbefore] at hi
    refine (Function.forall_update_iff _ _).mpr ⟨trivial, fun j _ => (hinv j).mono fun r hr => ?_⟩
    obtain ⟨frame, window, -, hwindows⟩ | ⟨hwindows, -⟩ := heffect hi.2.1
    · rw [hwindows]
      exact ReplayWindowMap.isSome_remember hr _ _
    · rw [hwindows]
      exact hr
  | releases hbefore => exact (Function.forall_update_iff _ _).mpr ⟨trivial, fun j _ => hinv j⟩

/-! ## One number -/

/-- The request is past its lookup with the number in hand: to be recorded, or granted. -/
@[simp] def Phase.claims (phase : Phase) : Bool := phase.pending || phase.granted

omit [Sodium] [JsonLib] in
theorem Phase.claims_of_granted {phase : Phase} (h : phase.granted = true) :
    phase.claims = true := by
  rw [claims, h, Bool.or_true]

/-- At most one request claims the number, and once it is granted it counts as seen. -/
structure Single (app : AppState) (requests : Nat → Request) (r : UInt32) (q : UInt64)
    (s : Serving) : Prop where
  alone : ∀ j k, (requests j).Carries app r q → (requests k).Carries app r q →
    (s.phase j).claims = true → (s.phase k).claims = true → j = k
  seen : ∀ j, (requests j).Carries app r q → (s.phase j).granted = true →
    s.engine.windows.contains r q = true

/-- No lookup of the number comes between a lookup and its commit at the other entrance, and no
commit makes the window drop the number before it is too old. -/
def Ordered (app : AppState) (requests : Nat → Request) (r : UInt32) (q : UInt64) (s : Serving)
    (i : Nat) : Prop :=
  match s.phase i with
  | .holding _ => (requests i).Carries app r q → ∀ j, (requests j).Carries app r q →
    (requests j).mutex ≠ (requests i).mutex → (s.phase j).pending = false
  | .looked _ (.ok (frame, _)) => frame.header.readerId = r →
    ∀ window, s.engine.windows.find r = some window → ¬ window.Drops q frame.header.seq
  | _ => True

variable {r : UInt32} {q : UInt64}

omit [Sodium] [JsonLib] in
/-- A move of request `i` to a phase in which it does not claim the number newly. -/
theorem Single.move (hinv : Single app requests r q s) {t : Serving} {phase : Phase}
    (hphase : t.phase = Function.update s.phase i phase)
    (hcontains : s.engine.windows.contains r q = true → t.engine.windows.contains r q = true)
    (hclaims : (requests i).Carries app r q → phase.claims = true → (s.phase i).claims = true)
    (hgranted : (requests i).Carries app r q → phase.granted = true →
      (s.phase i).granted = true ∨ t.engine.windows.contains r q = true) :
    Single app requests r q t := by
  have hold : ∀ j, (requests j).Carries app r q → (t.phase j).claims = true →
      (s.phase j).claims = true := by
    intro j hj hclaim
    rw [hphase] at hclaim
    by_cases hji : j = i
    · subst hji
      rw [Function.update_self] at hclaim
      exact hclaims hj hclaim
    · rwa [Function.update_of_ne hji] at hclaim
  refine ⟨fun j k hj hk hcj hck => hinv.alone j k hj hk (hold j hj hcj) (hold k hk hck), ?_⟩
  intro j hj hgrant
  rw [hphase] at hgrant
  by_cases hji : j = i
  · subst hji
    rw [Function.update_self] at hgrant
    rcases hgranted hj hgrant with hbefore | hnew
    · exact hcontains (hinv.seen j hj hbefore)
    · exact hnew
  · rw [Function.update_of_ne hji] at hgrant
    exact hcontains (hinv.seen j hj hgrant)

omit [Sodium] [JsonLib] in
/-- Only request `i` claims the number, and it is not granted yet. -/
theorem Single.of_only {t : Serving} (i : Nat)
    (honly : ∀ j, (requests j).Carries app r q → (t.phase j).claims = true → j = i)
    (hgranted : (t.phase i).granted = false) : Single app requests r q t := by
  refine ⟨fun j k hj hk hcj hck => (honly j hj hcj).trans (honly k hk hck).symm, ?_⟩
  intro j hj hgrant
  obtain rfl := honly j hj (Phase.claims_of_granted hgrant)
  rw [hgranted] at hgrant
  cases hgrant

omit [Sodium] [JsonLib] in
/-- When a lookup finds the number fresh, nobody claims it. -/
theorem nobody_claims (hexcl : Exclusive requests s) (hinv : Single app requests r q s)
    {frameBytes : Bytes} (hphase : s.phase i = .holding frameBytes)
    (hother : ∀ j, (requests j).Carries app r q → (requests j).mutex ≠ (requests i).mutex →
      (s.phase j).pending = false)
    (hfresh : s.engine.windows.contains r q = false) {j : Nat}
    (hj : (requests j).Carries app r q) : (s.phase j).claims = false := by
  rw [Phase.claims, Bool.or_eq_false_iff]
  constructor
  · by_cases hmutex : (requests j).mutex = (requests i).mutex
    · -- a request with the same mutex would have to be `i` itself
      by_contra hpending
      have hholds : (s.phase j).holds = true := by
        cases hp : s.phase j <;> simp_all
      obtain rfl := hexcl.eq hmutex (by rw [hphase]; rfl) hholds
      simp [hphase] at hpending
    · exact hother j hj hmutex
  · by_contra hgrant
    rw [hinv.seen j hj (by simpa using hgrant)] at hfresh
    cases hfresh

theorem single_step (hexcl : Exclusive requests s) (hcons : Consistent app requests s)
    (hinv : Single app requests r q s) (hord : Ordered app requests r q s i) {t : Serving}
    (h : ServeEffect app requests s i t) : Single app requests r q t := by
  have hi := hcons i
  unfold Ordered at hord
  cases h with
  | waits => exact hinv
  | receives hbefore hwindows hafter =>
    obtain ⟨r, rfl, hdeny⟩ | ⟨frameBytes, rfl, -⟩ := hafter
    · exact hinv.move rfl (by simp [hwindows]) (by simp [hdeny]) (by simp [hdeny])
    · exact hinv.move rfl (by simp [hwindows]) (by simp) (by simp)
  | acquires hbefore hfree => exact hinv.move rfl id (by simp) (by simp)
  | looks hbefore hcontains hfind hafter =>
    obtain ⟨e, rfl⟩ | ⟨found, rfl, hfound⟩ := hafter
    · exact hinv.move rfl (by simp [hcontains]) (by simp [allowed]) (by simp [allowed])
    cases hfound with
    | refused hdeny => exact hinv.move rfl (by simp [hcontains]) (by simp) (by simp)
    | @fresh frame hparse hfresh hafter =>
      rw [hbefore] at hi hord
      by_cases hcarries : (requests i).Carries app r q
      · obtain ⟨rfl, rfl⟩ := (hi.carries hparse).mp hcarries
        refine Single.of_only i (fun j hj hclaim => ?_) (by simp)
        by_contra hji
        have hnobody := nobody_claims hexcl hinv hbefore (hord hcarries) hfresh hj
        simp only [Function.update_of_ne hji, hnobody, Bool.false_eq_true] at hclaim
      · exact hinv.move rfl (by simp [hcontains]) (fun hc => absurd hc hcarries)
          (fun hc => absurd hc hcarries)
  | commits hbefore heffect =>
    rw [hbefore] at hi hord
    obtain ⟨hsends, hwf, hwindow⟩ := hi
    obtain ⟨frame, window, rfl, hwindows⟩ | ⟨hwindows, hdeny⟩ := heffect hwf
    · refine hinv.move rfl ?_ (by simp [hbefore]) fun hcarries _ => .inr ?_
      · intro hseen
        rw [hwindows]
        exact ReplayWindowMap.contains_remember hseen fun hr => hord hr.symm
      · obtain ⟨rfl, rfl⟩ := (hsends.carries hwf.1).mp hcarries
        rw [hwindows]
        exact ReplayWindowMap.contains_remember_self hwindow _
    · exact hinv.move rfl (by simp [hwindows]) (by simp [hdeny]) (by simp [hdeny])
  | releases hbefore => exact hinv.move rfl id (by simp [hbefore]) (by simp +contextual [hbefore])

/-! ## Runs -/

structure ServeInv (app : AppState) (requests : Nat → Request) (r : UInt32) (q : UInt64)
    (s : Serving) : Prop where
  exclusive : Exclusive requests s
  consistent : Consistent app requests s
  single : Single app requests r q s

theorem serveInv_start (app : AppState) (requests : Nat → Request) (r : UInt32) (q : UInt64)
    (engine : EngineState) : ServeInv app requests r q (.start engine) where
  exclusive _ := nofun
  consistent _ := trivial
  single := ⟨fun _ _ _ _ => nofun, fun _ _ => nofun⟩

/-- In a run whose steps all keep the order, of two requests that carry the same number at most
one is granted, whatever the entrances they come in by. -/
theorem granted_once (hon : app.cfg.frameHandler.antiReplayEnabled = true) (r : UInt32)
    (q : UInt64) (engine : EngineState) (steps : List Nat)
    (hordered : Along (app.serveStep requests) (Ordered app requests r q) (.start engine) steps)
    {i j : Nat} (hne : i ≠ j) (hi : (requests i).Carries app r q)
    (hj : (requests j).Carries app r q) :
    let s := run (app.serveStep requests) (.start engine) steps
    ¬ ((s.phase i).granted = true ∧ (s.phase j).granted = true) := by
  have hrun : ServeInv app requests r q (run (app.serveStep requests) (.start engine) steps) := by
    refine run_invariant ?_ (serveInv_start app requests r q engine) hordered
    intro s k hinv hord
    have heffect : ServeEffect app requests s k _ := serveStep_effect hon s k
    exact ⟨exclusive_step hinv.exclusive heffect, consistent_step hinv.consistent heffect,
      single_step hinv.exclusive hinv.consistent hinv.single hord heffect⟩
  rintro s ⟨hgi, hgj⟩
  exact hne (hrun.single.alone i j hi hj (Phase.claims_of_granted hgi)
    (Phase.claims_of_granted hgj))

/-! ## A request that is alone -/

/-- The steps of a request that no other request comes between are `serve`. -/
theorem run_serve_alone {s : Serving} {i : Nat} (hphase : s.phase i = .arrived)
    (hfree : s.owner (requests i).mutex = none) :
    let t := run (app.serveStep requests) s (List.replicate 5 i)
    t.engine = after (app.serve (requests i)) s.engine ∧
      t.phase i = .replied (result (app.serve (requests i)) s.engine) ∧
      t.owner (requests i).mutex = none := by
  have hbuild : ¬ ((requests i).mutex = .m ∧ s.owner .m ≠ none) := by
    rintro ⟨hmutex, howned⟩
    exact howned (hmutex ▸ hfree)
  rw [AppState.serve, after_bind_eq, result_bind_eq]
  cases hreceive : result (app.receive (requests i)) s.engine with
  | error e =>
    simp [List.replicate, AppState.serveStep, Serving.perform, hphase, hbuild, hreceive, hfree]
  | ok r =>
    cases r with
    | error reply =>
      simp [List.replicate, AppState.serveStep, Serving.perform, hphase, hbuild, hreceive, hfree]
    | ok frameBytes =>
      dsimp only
      rw [Engine.handleFrameBytes_steps, after_bind_eq, result_bind_eq]
      cases hlookup : result (app.engine.lookupFrame (requests i).env frameBytes)
          (after (app.receive (requests i)) s.engine) with
      | error e =>
        simp [List.replicate, AppState.serveStep, Serving.perform, hphase, hbuild, hreceive, hfree,
          hlookup]
      | ok found =>
        simp [List.replicate, AppState.serveStep, Serving.perform, hphase, hbuild, hreceive, hfree,
          hlookup]

end

/-! ## A scan and a frame with one number -/

/-- The frame that a scan of the sample application sends. -/
def sampleFrame : Frame :=
  letI : Sodium := .transparent
  (sampleApp.sendRequest (sampleScan 1 .answered) 1).frame sampleApp.keyManager
    (RequestText.dump (bytesOf "card") (bytesOf "open"))

/-- The scan at the hardware endpoint, and its frame at the decision endpoint. -/
def sampleRequests : Nat → Request
  | 0 => .hwUid (sampleScan 1 .answered)
  | 1 => .decisionFrame .quiet (serialize sampleFrame)
  | _ => .decisionFrame .quiet []

def serveAll (steps : List Nat) : Serving :=
  letI : Sodium := .transparent
  letI : JsonLib := .requests
  run (sampleApp.serveStep sampleRequests) (.start .initial) steps

theorem sampleRequests_carry :
    (sampleRequests 0).Carries sampleApp 7 1 ∧ (sampleRequests 1).Carries sampleApp 7 1 := by
  refine ⟨⟨rfl, rfl⟩, sampleFrame, ?_, rfl, rfl⟩
  let _ : Sodium := .transparent
  exact parseFrame_frame_iff.mpr ⟨rfl, by decide +kernel⟩

/-- No other request is pending at a lookup, and the window has room at a commit. -/
def calmStep (s : Serving) (i : Nat) : Bool :=
  match s.phase i with
  | .holding _ => !(s.phase 0).pending && !(s.phase 1).pending
  | .looked _ (.ok _) => (s.engine.windows.find 7).all fun w => w.order.length < w.window.toNat
  | _ => true

theorem ordered_of_calmStep {s : Serving} {i : Nat} (h : calmStep s i = true) :
    Ordered sampleApp sampleRequests 7 1 s i := by
  unfold calmStep at h
  unfold Ordered
  split at h
  · rename_i frameBytes hphase
    rw [Bool.and_eq_true, Bool.not_eq_true', Bool.not_eq_true'] at h
    rw [hphase]
    rintro - j hj -
    match j with
    | 0 => exact h.1
    | 1 => exact h.2
    | j + 2 =>
      obtain ⟨frame, hparse, -⟩ := hj
      cases hparse
  · rename_i frameBytes pair hphase
    obtain ⟨frame, window⟩ := pair
    rw [hphase]
    rintro - w hw ⟨-, hfull, -⟩
    rw [hw, Option.all_some, decide_eq_true_eq] at h
    omega
  · split
    · simp_all
    · simp_all
    · trivial

/-- One after the other, the second request is refused. -/
theorem granted_once_sequential :
    ¬ (((serveAll [0, 0, 0, 0, 0, 1, 1, 1, 1, 1]).phase 0).granted = true ∧
      ((serveAll [0, 0, 0, 0, 0, 1, 1, 1, 1, 1]).phase 1).granted = true) := by
  let _ : Sodium := .transparent
  let _ : JsonLib := .requests
  have hon : sampleApp.cfg.frameHandler.antiReplayEnabled = true := rfl
  have hne : (0 : Nat) ≠ 1 := by decide
  have hcalm : ∀ steps, Along (sampleApp.serveStep sampleRequests) (fun s i => calmStep s i = true)
      (.start .initial) steps → ¬ (((serveAll steps).phase 0).granted = true ∧
        ((serveAll steps).phase 1).granted = true) := by
    intro steps h
    exact granted_once hon 7 1 .initial steps (along_mono (fun _ _ => ordered_of_calmStep) h) hne
      sampleRequests_carry.1 sampleRequests_carry.2
  exact hcalm _ (by decide +kernel)

/-- Both requests look the number up before one of them records it. -/
theorem granted_twice :
    (sampleRequests 0).Carries sampleApp 7 1 ∧ (sampleRequests 1).Carries sampleApp 7 1 ∧
      ((serveAll [0, 0, 0, 1, 1, 1, 0, 1, 0, 1]).phase 0).granted = true ∧
      ((serveAll [0, 0, 0, 1, 1, 1, 0, 1, 0, 1]).phase 1).granted = true := by
  refine ⟨sampleRequests_carry.1, sampleRequests_carry.2, ?_, ?_⟩
  · decide +kernel
  · decide +kernel

end AccessSecurity.Admin
