import AccessSecurity.Admin.CriticalSections
import AccessSecurity.Admin.Restart

/-!
# Single use

What a run of critical sections grants, as the list of the scans whose second section answers
that access is allowed. One process of the server grants no number of a reader twice, whatever
else runs in between, as long as a window that is full drops only numbers that are too old
(`granted_nodup`).
-/

namespace AccessSecurity.Admin

open Foundation Protocol Crypto Core Decision Storage

section

variable [Sodium] [JsonLib] [JsonIntegers]

namespace Server

/-- The scan that a section grants. -/
def grants (srv : Server) (s : SectionState) : Section → List HwUidRequest
  | .decide id env =>
    match s.flights id with
    | some flight =>
      match result ((srv.app s.db).decideFlight env flight) s.engine with
      | .ok resp => if resp.allow then [flight.scan.req] else []
      | .error _ => []
    | none => []
  | _ => []

def granted (srv : Server) (ops : List StoreOp) (sections : List Section) : List HwUidRequest :=
  trace srv.step srv.grants (opened ops) sections

/-- No number that is not too old is dropped for that of the scan. -/
def Roomy (srv : Server) (s : SectionState) : Section → Prop
  | .decide id _ => ∀ flight, s.flights id = some flight → ∀ q,
    ¬ (s.engine.windows.windowOf srv.cfg.frameHandler.replayWindowSize
      flight.scan.req.readerId).Drops q flight.scan.req.hwSeq
  | _ => True

variable {srv : Server} {s : SectionState}

omit [JsonIntegers] in
theorem mem_grants {sec : Section} {req : HwUidRequest} (h : req ∈ srv.grants s sec) :
    ∃ id env flight resp t, sec = .decide id env ∧ s.flights id = some flight ∧
      flight.scan.req = req ∧ resp.allow = true ∧
      Returns ((srv.app s.db).decideFlight env flight) s.engine resp t := by
  cases sec with
  | decide id env =>
    simp only [grants] at h
    split at h
    · rename_i flight hflight
      split at h
      · rename_i resp hresult
        split_ifs at h with hallow
        · obtain rfl := List.mem_singleton.mp h
          exact ⟨id, env, flight, resp, _, rfl, hflight, rfl, hallow,
            returns_after_iff.mpr hresult⟩
        · cases h
      · cases h
    · cases h
  | _ => cases h

/-! ### Windows -/

theorem windows_step_of_not_decide {sec : Section} (h : ∀ id env, sec ≠ .decide id env) :
    (srv.step s sec).engine.windows = s.engine.windows := by
  cases sec with
  | admin call => exact (srv.adminRoute_effect call s.toAdminState).windows
  | build id call =>
    refine step_build (P := fun e => e.windows = s.engine.windows)
      (Engine.push_keeps ?_ _) rfl id call
    exact fun _ _ hsame he => hsame.1.trans he
  | decide id env => exact absurd rfl (h id env)

section

variable (app : AppState) {flight : Flight} (hbuilt : buildEncryptedFrameBytes app.keyManager
  (app.sendRequest flight.scan flight.kv) = .ok flight.frameBytes)

include hbuilt

omit [JsonIntegers]

theorem processed_decideFlight (env : Env) (s : EngineState) :
    app.Processed flight.scan.req s (after (app.decideFlight env flight) s) := by
  have hkeeps : Keeps (app.Processed flight.scan.req s) (app.decideFlight env flight) :=
    keeps_bind (handleFrameBytes_number (header_of_scan hbuilt) (fun _ => .create)
      (fun _ => .remember) env) fun _ => keeps_pure _
  exact hkeeps s (.refl _)

theorem uses_of_decideFlight (hon : app.cfg.frameHandler.antiReplayEnabled = true) {env : Env}
    {s t : EngineState} {resp : HwResponse} (h : Returns (app.decideFlight env flight) s resp t)
    (hallow : resp.allow = true) :
    Uses flight.scan.req.readerId flight.scan.req.hwSeq s t := by
  simp only [AppState.decideFlight, returns_bind, returns_pure] at h
  obtain ⟨r, _, hcall, rfl, rfl⟩ := h
  exact uses_of_granted (header_of_scan hbuilt) hon hcall hallow

end

/-! ### Runs -/

/-- What has been granted counts as seen, and no number has been granted twice. -/
structure Spent (granted : List HwUidRequest) (windows : ReplayWindowMap) : Prop where
  seen : ∀ req ∈ granted, windows.contains req.readerId req.hwSeq = true
  nodup : (granted.map (·.number)).Nodup

theorem Spent.decide {granted : List HwUidRequest} (h : Spent granted s.engine.windows)
    (hon : srv.cfg.frameHandler.antiReplayEnabled = true) {id : Nat} {env : Env} {flight : Flight}
    (hflight : s.flights id = some flight)
    (hbuilt : buildEncryptedFrameBytes srv.keyManager
      ((srv.app .empty).sendRequest flight.scan flight.kv) = .ok flight.frameBytes)
    (hroom : srv.Roomy s (.decide id env)) :
    Spent (granted ++ srv.grants s (.decide id env))
      (srv.step s (.decide id env)).engine.windows := by
  have hstep : (srv.step s (.decide id env)).engine =
      after ((srv.app s.db).decideFlight env flight) s.engine := by
    simp only [step, hflight]
  have hkept : ∀ req ∈ granted, (srv.step s (.decide id env)).engine.windows.contains
      req.readerId req.hwSeq = true := by
    intro req hreq
    rw [hstep]
    refine (processed_decideFlight (srv.app s.db) hbuilt env s.engine).contains
      (h.seen req hreq) fun hreader => ?_
    rw [hreader]
    exact hroom flight hflight req.hwSeq
  have hnumber : ∀ req ∈ srv.grants s (.decide id env), req = flight.scan.req ∧
      Uses req.readerId req.hwSeq s.engine (srv.step s (.decide id env)).engine := by
    intro req hreq
    obtain ⟨id', env', flight', resp, t, heq, hflight', rfl, hallow, hreturns⟩ := mem_grants hreq
    obtain ⟨rfl, rfl⟩ := Section.decide.inj heq
    obtain rfl := Option.some.inj (hflight.symm.trans hflight')
    rw [hstep, hreturns.after_eq]
    exact ⟨rfl, uses_of_decideFlight (srv.app s.db) hbuilt hon hreturns hallow⟩
  have hone : srv.grants s (.decide id env) = [] ∨
      srv.grants s (.decide id env) = [flight.scan.req] := by
    simp only [grants, hflight]
    split
    · split_ifs
      · exact .inr rfl
      · exact .inl rfl
    · exact .inl rfl
  rcases hone with hnone | hsome
  · rw [hnone, List.append_nil]
    exact ⟨hkept, h.nodup⟩
  · obtain ⟨-, hfresh, hseen⟩ := hnumber flight.scan.req (by simp [hsome])
    rw [hsome]
    constructor
    · simp only [List.mem_append, List.mem_singleton]
      rintro req (hreq | rfl)
      · exact hkept req hreq
      · exact hseen
    · rw [List.map_append, List.map_singleton, ← List.concat_eq_append]
      refine h.nodup.concat fun hmem => ?_
      obtain ⟨req, hreq, hnumber⟩ := List.mem_map.mp hmem
      obtain ⟨hreader, hseq⟩ := Prod.mk.inj hnumber
      have hbefore := h.seen req hreq
      rw [hreader, hseq, hfresh] at hbefore
      cases hbefore

/-- Whatever runs in between, one process grants no number of a reader twice. -/
theorem granted_nodup (hon : srv.cfg.frameHandler.antiReplayEnabled = true) (ops : List StoreOp)
    {sections : List Section} (hroom : Along srv.step srv.Roomy (opened ops) sections) :
    ((srv.granted ops sections).map (·.number)).Nodup := by
  suffices hspent : Spent (srv.granted ops sections)
      (run srv.step (opened ops) sections).engine.windows from hspent.nodup
  induction sections using List.reverseRecOn with
  | nil => exact ⟨nofun, List.nodup_nil⟩
  | append_singleton sections sec ih =>
    obtain ⟨hbefore, hlast, -⟩ := (along_append _ _ _).mp hroom
    have hspent := ih hbefore
    rw [granted, trace_snoc, run_snoc]
    cases sec with
    | decide id env =>
      cases hflight : (run srv.step (opened ops) sections).flights id with
      | none =>
        simp only [grants, step, hflight, List.append_nil]
        exact hspent
      | some flight =>
        obtain ⟨_, _, _, -, hlaunched⟩ := launched_of_flight hflight
        exact hspent.decide hon hflight hlaunched.built hlast
    | _ =>
      rw [windows_step_of_not_decide fun _ _ h => by cases h]
      simp only [grants, List.append_nil]
      exact hspent

end Server

end

end AccessSecurity.Admin
