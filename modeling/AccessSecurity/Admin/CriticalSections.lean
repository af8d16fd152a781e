import AccessSecurity.Admin.AdminRoutes
import AccessSecurity.Admin.Agreement
import AccessSecurity.Foundation.Run

/-!
# Critical sections of the local mode

When frames are decided in process, every access to the tables and to the engine is made under
the mutex of `AppState`. A request of the administrator is one critical section, a scan is two:
its frame is built, the mutex is released and taken again, and the frame is decided. Between
the two, sections of any other requests can run, so a run of the server is a list of sections in
any order. Only the sections of requests that carry the token, and of scans that are signed,
change anything (`run_genuine`).
-/

namespace AccessSecurity.Admin

open Foundation Protocol Crypto Core Decision Storage

/-- A scan whose frame has been built and not been decided. -/
structure Flight where
  scan : Scan
  kv : UInt32
  frameBytes : Bytes

/-- The tables, the engine, and the scans between their two sections, by request. -/
structure SectionState extends AdminState where
  flights : Nat → Option Flight

/-- A critical section; `id` is the request it is made for. -/
inductive Section where
  | admin (call : AdminCall)
  | build (id : Nat) (call : HwCall)
  | decide (id : Nat) (env : Env)

section

variable [Sodium] [JsonLib]

/-- The first section of `processHwUid`; nothing is in flight for an unknown reader. -/
def AppState.buildFlight (app : AppState) (scan : Scan) : EngineM (Option Flight) := do
  let req := scan.req
  let kv ← lift (scan.env.access .hwKeyVersion (app.store.currentKeyVersionForReader req.readerId))
  if kv = 0 then
    pushHwEvent app.engine scan.env (bytesOf "hw uid: unknown_reader") req.readerId req.doorId 0
    return none
  else
    pushHwEvent app.engine scan.env (bytesOf "uid=" ++ req.uid) req.readerId req.doorId req.hwSeq
    let frameBytes ← lift (buildEncryptedFrameBytes app.keyManager (app.sendRequest scan kv))
    return some { scan, kv, frameBytes }

/-- The second section. -/
def AppState.decideFlight (app : AppState) (env : Env) (flight : Flight) : EngineM HwResponse := do
  let r ← app.engine.handleFrameBytes env flight.frameBytes
  let req := flight.scan.req
  return {
    allow := r.allow
    reason := r.reason
    details := some (req.readerId, req.doorId, req.hwSeq, flight.kv) }

/-- What follows the first section. -/
def AppState.answerScan (app : AppState) (env : Env) : Option Flight → EngineM HwResponse
  | none => return { allow := false, reason := "unknown_reader" }
  | some flight => app.decideFlight env flight

/-- A scan that is not interrupted is the two sections in a row. -/
theorem processHwUid_eq {app : AppState} (hlocal : app.cfg.decisionMode ≠ "remote") (scan : Scan) :
    app.processHwUid scan = app.buildFlight scan >>= app.answerScan scan.env := by
  unfold AppState.processHwUid AppState.buildFlight
  simp only [bind_assoc, if_neg hlocal]
  congr 1
  funext kv
  split_ifs with hzero
  · simp only [bind_assoc, pure_bind]
    rfl
  · simp only [bind_assoc, pure_bind]
    rfl

/-! ## Runs -/

variable [JsonIntegers]

namespace Server

def secret (srv : Server) : Bytes := bytesOf srv.cfg.admin.hwSharedSecretHex

/-- A section ends in the state it has reached, also when it throws. A request that is not
signed is refused before its first section, and an id in use is not used again. -/
def step (srv : Server) (s : SectionState) : Section → SectionState
  | .admin call => { s with toAdminState := after (srv.adminRoute call) s.toAdminState }
  | .build id call =>
    match admitHwUid srv.secret call.request, s.flights id with
    | .ok req, none =>
      match (srv.app s.db).buildFlight (call.scan req) s.engine with
      | .ok flight engine =>
        { s with engine, flights := Function.update s.flights id flight }
      | .error _ engine => { s with engine }
    | _, _ => s
  | .decide id env =>
    match s.flights id with
    | some flight => { s with
        engine := after ((srv.app s.db).decideFlight env flight) s.engine
        flights := Function.update s.flights id none }
    | none => s

/-- A server that has just been started on tables with this history. -/
def opened (ops : List StoreOp) : SectionState where
  db := run StoreOp.step .empty ops
  engine := .initial
  flights _ := none

/-- The operation on the tables that a section performs. -/
def performed (srv : Server) : Section → Option StoreOp
  | .admin call => srv.change call
  | _ => none

/-- The operations on the tables that the sections perform. -/
def history (srv : Server) (sections : List Section) : List StoreOp :=
  sections.filterMap srv.performed

/-- The request of the section carries the token, or is signed. -/
def genuine (srv : Server) : Section → Bool
  | .admin call => (srv.accepted call).isSome
  | .build _ call => (admitHwUid srv.secret call.request).toOption.isSome
  | .decide _ _ => true

variable {srv : Server} {s : SectionState}

/-- The two sections of a request, one after the other, are the route. -/
theorem sections_adjacent (hlocal : srv.cfg.admin.decisionMode ≠ "remote") {id : Nat}
    (hfree : s.flights id = none) (call : HwCall) :
    (srv.step (srv.step s (.build id call)) (.decide id call.env)).engine =
      after ((srv.app s.db).hwUidRoute srv.secret call) s.engine := by
  unfold AppState.hwUidRoute
  cases hadm : admitHwUid srv.secret call.request with
  | error reply => simp [step, hadm, hfree]
  | ok req =>
    have happ : (srv.app s.db).cfg.decisionMode ≠ "remote" := hlocal
    have hafter : after (recover (fun e => HwReply.failed 400 e.what) do
        let resp ← (srv.app s.db).processHwUid (call.scan req)
        return .processed resp) s.engine =
          after ((srv.app s.db).processHwUid (call.scan req)) s.engine := by
      rw [after_recover, after_bind_pure]
    dsimp only
    rw [hafter, processHwUid_eq happ, after_bind_eq]
    simp only [step, hadm, hfree]
    unfold result after
    cases hbuild : (srv.app s.db).buildFlight (call.scan req) s.engine with
    | error e engine => simp [hfree]
    | ok flight engine =>
      cases flight with
      | none =>
        simp only [Function.update_self]
        rfl
      | some flight =>
        simp only [Function.update_self]
        rfl

/-! ### What is not genuine -/

theorem step_of_not_genuine {sec : Section} (h : srv.genuine sec = false) :
    srv.step s sec = s := by
  cases sec with
  | admin call =>
    have hnone : srv.accepted call = none := by simpa [genuine] using h
    simp only [step, adminRoute_refused hnone]
  | build id call =>
    simp only [genuine] at h
    cases hadm : admitHwUid srv.secret call.request with
    | error reply => simp only [step, hadm]
    | ok req => simp [hadm, Except.toOption] at h
  | decide id env => cases h

theorem db_step (srv : Server) (s : SectionState) (sec : Section) :
    (srv.step s sec).db = (srv.performed sec).elim s.db fun op => op.step s.db := by
  cases sec with
  | admin call => exact (srv.adminRoute_effect call s.toAdminState).db
  | build id call =>
    simp only [step]
    split
    · split
      · rfl
      · rfl
    · rfl
  | decide id env =>
    simp only [step]
    split
    · rfl
    · rfl

/-- The tables are what their history makes of them. -/
theorem db_run (srv : Server) (s : SectionState) (sections : List Section) :
    (run srv.step s sections).db = run StoreOp.step s.db (srv.history sections) := by
  induction sections generalizing s with
  | nil => rfl
  | cons sec sections ih =>
    rw [run_cons, ih, db_step, history, history, List.filterMap_cons]
    cases srv.performed sec with
    | none => rfl
    | some op => rfl

theorem db_opened (srv : Server) (ops : List StoreOp) (sections : List Section) :
    (run srv.step (opened ops) sections).db =
      run StoreOp.step .empty (ops ++ srv.history sections) := by
  rw [db_run, run_append]
  rfl

/-- The first section of a scan computes a frame and pushes events. -/
theorem step_build {P : EngineState → Prop} (hpush : ∀ ev, Keeps P ((srv.app s.db).engine.push ev))
    (hs : P s.engine) (id : Nat) (call : HwCall) : P (srv.step s (.build id call)).engine := by
  have hkeeps : ∀ scan, Keeps P ((srv.app s.db).buildFlight scan) := by
    intro scan
    unfold AppState.buildFlight
    refine keeps_bind (keeps_lift _) fun kv => ?_
    split_ifs
    · exact keeps_bind (hpush _) fun _ => keeps_pure _
    · exact keeps_bind (hpush _) fun _ => keeps_bind (keeps_lift _) fun _ => keeps_pure _
  simp only [step]
  split
  · rename_i req hadm hfree
    have hbuild := hkeeps (call.scan req) s.engine hs
    unfold after at hbuild
    split
    · rename_i flight engine heq
      rw [heq] at hbuild
      exact hbuild
    · rename_i e engine heq
      rw [heq] at hbuild
      exact hbuild
  · exact hs

/-! ### Scans in flight -/

/-- The request of the flight was signed, and its frame built, with the reader's key version,
when the tables had the history `ops`. -/
structure Launched (srv : Server) (ops : List StoreOp) (call : HwCall) (flight : Flight) :
    Prop where
  admitted : ∃ req, admitHwUid srv.secret call.request = .ok req ∧ flight.scan = call.scan req
  kv_eq : flight.kv = SqliteAccessStore.currentKeyVersionForReader flight.scan.req.readerId
    (run StoreOp.step .empty ops)
  kv_ne : flight.kv ≠ 0
  built : buildEncryptedFrameBytes srv.keyManager
    ((srv.app .empty).sendRequest flight.scan flight.kv) = .ok flight.frameBytes

omit [JsonIntegers] in
theorem returns_buildFlight {app : AppState} {scan : Scan} {flight : Flight} {e t : EngineState}
    (h : Returns (app.buildFlight scan) e (some flight) t) :
    flight.scan = scan ∧ flight.kv = app.store.currentKeyVersionForReader scan.req.readerId ∧
      flight.kv ≠ 0 ∧ buildEncryptedFrameBytes app.keyManager (app.sendRequest scan flight.kv) =
        .ok flight.frameBytes := by
  unfold AppState.buildFlight at h
  simp only [returns_bind, returns_lift] at h
  obtain ⟨kv, _, ⟨hkv, rfl⟩, h⟩ := h
  obtain ⟨rfl, -⟩ := Env.access_ok hkv
  split_ifs at h with hzero
  · simp only [returns_bind, returns_pure] at h
    obtain ⟨_, _, -, hnone, -⟩ := h
    cases hnone
  · simp only [returns_bind, returns_lift, returns_pure, Option.some.injEq] at h
    obtain ⟨_, _, -, frameBytes, _, ⟨hbuild, rfl⟩, rfl, -⟩ := h
    exact ⟨rfl, rfl, hzero, hbuild⟩

theorem flights_step {sec : Section} {id : Nat} {flight : Flight}
    (h : (srv.step s sec).flights id = some flight) :
    s.flights id = some flight ∨ ∃ call req engine, sec = .build id call ∧
      admitHwUid srv.secret call.request = .ok req ∧
      Returns ((srv.app s.db).buildFlight (call.scan req)) s.engine (some flight) engine := by
  cases sec with
  | admin call => exact .inl h
  | build i call =>
    simp only [step] at h
    split at h
    · rename_i req hadm hfree
      split at h
      · rename_i built engine hbuild
        dsimp only at h
        by_cases hid : id = i
        · subst hid
          rw [Function.update_self] at h
          exact .inr ⟨call, req, engine, rfl, hadm, h ▸ hbuild⟩
        · rw [Function.update_of_ne hid] at h
          exact .inl h
      · exact .inl h
    · exact .inl h
  | decide i env =>
    simp only [step] at h
    split at h
    · dsimp only at h
      by_cases hid : id = i
      · subst hid
        rw [Function.update_self] at h
        cases h
      · rw [Function.update_of_ne hid] at h
        exact .inl h
    · exact .inl h

/-- What is in flight was launched by a section of the run. -/
theorem launched_of_flight {ops : List StoreOp} {sections : List Section} {id : Nat}
    {flight : Flight} (h : (run srv.step (opened ops) sections).flights id = some flight) :
    ∃ before call after, sections = before ++ .build id call :: after ∧
      Launched srv (ops ++ srv.history before) call flight := by
  induction sections using List.reverseRecOn with
  | nil => cases h
  | append_singleton sections sec ih =>
    rw [run_snoc] at h
    rcases flights_step h with h | ⟨call, req, engine, rfl, hadm, hbuild⟩
    · obtain ⟨before, call, after, rfl, hlaunched⟩ := ih h
      exact ⟨before, call, after ++ [sec], by simp, hlaunched⟩
    · obtain ⟨hscan, hkv, hne, hframe⟩ := returns_buildFlight hbuild
      refine ⟨sections, call, [], rfl, ⟨req, hadm, hscan⟩, ?_, hne, ?_⟩
      · rw [hkv, hscan, ← db_opened]
        rfl
      · rw [hscan]
        exact hframe

end Server

end

end AccessSecurity.Admin
