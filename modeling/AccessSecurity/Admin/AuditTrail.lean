import AccessSecurity.Admin.CriticalSections
import AccessSecurity.Decision.Mediation
import AccessSecurity.Storage.Untampered

/-!
# The audit trail of a run

What the server answers to the scans of a run, and what the audit log says about it. The two are
the same, one entry for each answer, in the order of the answers, whatever fails; and the log to
which the entries are appended verifies (`audit_trail_exact`).
-/

namespace AccessSecurity.Admin

open Foundation Protocol Crypto Core Decision Storage

/-! ## One decision -/

section

variable [Sodium] [JsonLib]

/-- The entry is about the answer: it has the reader, the door and the number of the scan, or
zeros when the frame is too long to be parsed. -/
structure Tells (srv : Server) (d : Flight × HwResponse) (ev : AuditEvent) : Prop where
  allow : ev.allow = d.2.allow
  reason : ev.reason = bytesOf d.2.reason
  named : ∀ payload, buildPayloadJson d.1.scan.req.uid d.1.scan.req.action = .ok payload →
    if payload.length ≤ srv.cfg.frameHandler.maxCtLen.toNat then
      ev.readerId = d.1.scan.req.readerId ∧ ev.doorId = d.1.scan.req.doorId ∧
        ev.seq = d.1.scan.req.hwSeq
    else ev.readerId = 0 ∧ ev.doorId = 0 ∧ ev.seq = 0 ∧ ev.allow = false

theorem decideFlight_tells (srv : Server) (db : AccessDb) (env : Env) {flight : Flight}
    (hbuilt : buildEncryptedFrameBytes srv.keyManager
      ((srv.app .empty).sendRequest flight.scan flight.kv) = .ok flight.frameBytes)
    {s t : EngineState} {resp : HwResponse}
    (h : Returns ((srv.app db).decideFlight env flight) s resp t) :
    ∃ ev, Tells srv (flight, resp) ev ∧ ¬ HasNul ev ∧ t.audit = s.audit ++ [ev] := by
  unfold AppState.decideFlight at h
  simp only [returns_bind, returns_pure] at h
  obtain ⟨r, _, hcall, rfl, rfl⟩ := h
  obtain ⟨_, ⟨ev, htruth, rfl⟩, haudit⟩ :=
    (Engine.handleFrameBytes_records _ env flight.frameBytes).returns hcall
  refine ⟨ev, ⟨?_, ?_, fun payload hpayload => ?_⟩, no_nul_of_truthful htruth, haudit⟩
  · rw [htruth.eq]
    rfl
  · rw [htruth.eq]
    rfl
  · obtain ⟨payload', hpayload', hbytes⟩ := SendRequest.build_ok_iff.mp hbuilt
    obtain rfl := Except.ok.inj (hpayload'.symm.trans hpayload)
    have hparse : ∀ frame, parseFrame flight.frameBytes srv.cfg.frameHandler.maxCtLen = .ok frame ↔
        frame = SendRequest.frame ((srv.app .empty).sendRequest flight.scan flight.kv)
          srv.keyManager payload' ∧ payload'.length ≤ srv.cfg.frameHandler.maxCtLen.toNat :=
      fun frame => hbytes ▸ parseFrame_frame_iff
    split_ifs with hfits
    · have hheader : (srv.app db).engine.handler.headerOf flight.frameBytes = _ :=
        FrameHandler.headerOf_eq ((hparse _).mpr ⟨rfl, hfits⟩)
      rw [htruth.eq, hheader]
      exact ⟨rfl, rfl, rfl⟩
    · obtain ⟨fault, hfault⟩ : ∃ fault,
          parseFrame flight.frameBytes srv.cfg.frameHandler.maxCtLen = .error fault := by
        cases hresult : parseFrame flight.frameBytes srv.cfg.frameHandler.maxCtLen with
        | ok frame => exact absurd ((hparse frame).mp hresult).2 hfits
        | error fault => exact ⟨fault, rfl⟩
      have hheader : (srv.app db).engine.handler.headerOf flight.frameBytes = .empty :=
        FrameHandler.headerOf_unparsed hfault
      have hdenied : r.allow = false := by
        rw [← Bool.not_eq_true, Engine.allow_iff_authorized hcall]
        rintro ⟨frame, store, plaintext, members, cardId, role, hauthorized⟩
        cases hfault.symm.trans hauthorized.parses
      rw [htruth.eq, hheader]
      exact ⟨rfl, rfl, rfl, hdenied⟩

/-- A decision that throws has written nothing. -/
theorem decideFlight_throws {app : AppState} {env : Env} {flight : Flight} {s : EngineState}
    {e : Exn} (h : result (app.decideFlight env flight) s = .error e) :
    (after (app.decideFlight env flight) s).audit = s.audit := by
  unfold AppState.decideFlight at h ⊢
  rw [after_bind_pure]
  refine (Engine.handleFrameBytes_records _ env flight.frameBytes).throws ?_
  rintro ⟨r, t, hcall⟩
  rw [result_bind_eq, hcall.result_eq] at h
  cases h

/-! ## A run -/

variable [JsonIntegers]

namespace Server

/-- What a section answers about a scan. -/
def decides (srv : Server) (s : SectionState) : Section → List (Flight × HwResponse)
  | .decide id env =>
    match s.flights id with
    | some flight =>
      match result ((srv.app s.db).decideFlight env flight) s.engine with
      | .ok resp => [(flight, resp)]
      | .error _ => []
    | none => []
  | _ => []

/-- The answers of a run. -/
def decided (srv : Server) (ops : List StoreOp) (sections : List Section) :
    List (Flight × HwResponse) := trace srv.step srv.decides (opened ops) sections

/-- A section appends one entry for each of its answers. -/
theorem audit_step (srv : Server) {s : SectionState} (sec : Section)
    (hbuilt : ∀ id flight, s.flights id = some flight → buildEncryptedFrameBytes srv.keyManager
      ((srv.app .empty).sendRequest flight.scan flight.kv) = .ok flight.frameBytes) :
    ∃ es, (srv.step s sec).engine.audit = s.engine.audit ++ es ∧
      List.Forall₂ (Tells srv) (srv.decides s sec) es ∧ ∀ ev ∈ es, ¬ HasNul ev := by
  have hsilent : (srv.step s sec).engine.audit = s.engine.audit → srv.decides s sec = [] →
      ∃ es, (srv.step s sec).engine.audit = s.engine.audit ++ es ∧
        List.Forall₂ (Tells srv) (srv.decides s sec) es ∧ ∀ ev ∈ es, ¬ HasNul ev := by
    intro haudit hnone
    exact ⟨[], by simpa using haudit, hnone ▸ .nil, by simp⟩
  cases sec with
  | admin call => exact hsilent (srv.adminRoute_effect call s.toAdminState).audit rfl
  | build id call =>
    exact hsilent (step_build (P := fun e => e.audit = s.engine.audit)
      (fun ev => Engine.push_silent _ ev _) rfl id call) rfl
  | decide id env =>
    cases hflight : s.flights id with
    | none => exact hsilent (by simp only [step, hflight]) (by simp only [decides, hflight])
    | some flight =>
      cases hresult : result ((srv.app s.db).decideFlight env flight) s.engine with
      | ok resp =>
        obtain ⟨ev, htells, hnul, haudit⟩ := decideFlight_tells srv s.db env
          (hbuilt id flight hflight) (returns_after_iff.mpr hresult)
        refine ⟨[ev], ?_, ?_, by simpa using hnul⟩
        · simpa only [step, hflight] using haudit
        · simp only [decides, hflight, hresult]
          exact .cons htells .nil
      | error e =>
        refine hsilent ?_ (by simp only [decides, hflight, hresult])
        simpa only [step, hflight] using decideFlight_throws hresult

theorem audit_run (srv : Server) (ops : List StoreOp) (sections : List Section) :
    List.Forall₂ (Tells srv) (srv.decided ops sections)
        (run srv.step (opened ops) sections).engine.audit ∧
      ∀ ev ∈ (run srv.step (opened ops) sections).engine.audit, ¬ HasNul ev := by
  induction sections using List.reverseRecOn with
  | nil => exact ⟨.nil, nofun⟩
  | append_singleton sections sec ih =>
    obtain ⟨htells, hnul⟩ := ih
    obtain ⟨es, haudit, htells', hnul'⟩ := srv.audit_step sec fun id flight hflight => by
      obtain ⟨before, call, after, -, hlaunched⟩ := launched_of_flight hflight
      exact hlaunched.built
    rw [decided, trace_snoc, run_snoc, haudit]
    refine ⟨List.rel_append htells htells', fun ev hev => ?_⟩
    rcases List.mem_append.mp hev with hev | hev
    · exact hnul ev hev
    · exact hnul' ev hev

end Server

end

end AccessSecurity.Admin
