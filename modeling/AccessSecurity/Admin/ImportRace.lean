import AccessSecurity.Admin.DbImport
import AccessSecurity.Foundation.Run

/-!
# Imports in flight

All requests to import a database write to one temporary file, and only the copy over the
database is made under the lock. A request takes its steps in order; between them others take
theirs. What a request installs is what it has checked as long as nobody puts something else
into the file between its integrity check and its copy (`installs_verified`).
-/

namespace AccessSecurity.Admin

open Foundation Crypto Decision Storage

/-- Where a request stands. The contents are those that its checks have read. -/
inductive ImportPhase where
  | received (data : Bytes)
  | written
  | checked (integrity : Bytes)
  | verified (integrity audited : Bytes)
  | swapped
  | closing (ok : Except String Unit)
  | done

/-- The content on which the checks made so far have succeeded. -/
def ImportPhase.content : ImportPhase → Option Bytes
  | .checked integrity => some integrity
  | .verified integrity _ => some integrity
  | _ => none

/-- What a copy has put over the database, and what the checks of its request have read. -/
structure Install where
  installed : Bytes
  integrity : Bytes
  audited : Bytes
  deriving DecidableEq

structure ImportState where
  server : ServerState
  phase : Nat → ImportPhase
  installs : List Install := []

/-- A request takes its next step, and this is what it meets. -/
structure Turn where
  request : Nat
  env : ImportEnv := {}

def ImportState.enter (s : ImportState) (request : Nat) (phase : ImportPhase) : ImportState :=
  { s with phase := Function.update s.phase request phase }

/-- A step of `importDbFile`. What it reports as an error ends up in the answer; what it throws
leaves `importDatabase` at once. -/
def ImportState.advance (s : ImportState) (request : Nat) (x : ServerM (Except String Unit))
    (next : ServerState → ImportPhase) : ImportState :=
  { s.enter request (match result x s.server with
      | .ok (.ok ()) => next (after x s.server)
      | .ok (.error error) => .closing (.error error)
      | .error _ => .done) with
    server := after x s.server }

section

variable [Sqlite] [Sodium] (sv : ServerConfig)

def importTurn (s : ImportState) (turn : Turn) : ImportState :=
  match s.phase turn.request with
  | .received data =>
    if sv.maxUploadBytes < data.length then s.enter turn.request .done
    else { s.enter turn.request .written with
      server := { s.server with upload := turn.env.write.content data s.server.upload } }
  | .written =>
    s.advance turn.request (sqliteIntegrityOk turn.env) fun server =>
      .checked (server.upload.getD [])
  | .checked integrity =>
    s.advance turn.request (verifyUploadedAuditChain sv.keyManager turn.env) fun server =>
      .verified integrity (server.upload.getD [])
  | .verified integrity audited =>
    { s.advance turn.request (swapDbFile turn.env) fun _ => .swapped with
      installs := s.installs ++
        ((s.server.upload.bind turn.env.replace.arrives).map fun installed =>
          ⟨installed, integrity, audited⟩).toList }
  | .swapped =>
    s.advance turn.request (reopen sv turn.env) fun _ => .closing (.ok ())
  | .closing _ =>
    { s.enter turn.request .done with
      server := { s.server with upload := if turn.env.removes then none else s.server.upload } }
  | .done => s

/-- What the turn puts into the temporary file; a check creates the file when it is missing. -/
def putsUpload (s : ImportState) (turn : Turn) : Option Bytes :=
  match s.phase turn.request with
  | .received data =>
    if sv.maxUploadBytes < data.length then none else turn.env.write.arrives data
  | .written => if turn.env.integrityOpens && s.server.upload.isNone then some [] else none
  | .checked _ => if turn.env.auditOpens && s.server.upload.isNone then some [] else none
  | _ => none

/-- The turn puts nothing into the temporary file but what another request has checked there,
and no copy over the database stops on the way. -/
structure OrderlyTurn (s : ImportState) (turn : Turn) : Prop where
  others : ∀ content, putsUpload sv s turn = some content → ∀ request ≠ turn.request, ∀ c,
    (s.phase request).content = some c → c = content
  complete : ∀ integrity audited, s.phase turn.request = .verified integrity audited →
    ∀ source content, s.server.upload = some source →
      turn.env.replace.arrives source = some content → content = source

/-- What a request has checked is in the temporary file, unless the file was removed. -/
structure ImportInv (s : ImportState) : Prop where
  kept : ∀ request content, (s.phase request).content = some content →
    s.server.upload = some content ∨ s.server.upload = none
  same : ∀ request integrity audited, s.phase request = .verified integrity audited →
    audited = integrity
  installs : ∀ i ∈ s.installs, i.installed = i.integrity ∧ i.installed = i.audited

/-! ## One turn -/

omit [Sodium] in
theorem after_sqliteIntegrityOk (env : ImportEnv) (s : ServerState) :
    after (sqliteIntegrityOk env) s = s.openUpload env.integrityOpens := rfl

theorem after_verifyUploadedAuditChain (km : KeyManager) (env : ImportEnv) (s : ServerState) :
    after (verifyUploadedAuditChain km env) s = s.openUpload env.auditOpens :=
  keeps_lift (P := fun t => t = s.openUpload env.auditOpens) _ _ rfl

omit [Sqlite] [Sodium] in
theorem after_swapDbFile (env : ImportEnv) (s : ServerState) :
    after (swapDbFile env) s = s.swapped env :=
  (returns_swapDbFile.mpr ⟨rfl, rfl⟩).after_eq

theorem upload_reopen (env : ImportEnv) (s : ServerState) :
    (after (reopen sv env) s).upload = s.upload := by
  have hcheck : ∀ site, Keeps (fun t : ServerState => t.upload = s.upload) (env.check site) := by
    intro site
    unfold ImportEnv.check
    cases env.throws site with
    | none => exact keeps_pure _
    | some e => exact keeps_throw e
  have hopen : Keeps (fun t : ServerState => t.upload = s.upload) (openOrCreate sv env) := by
    refine keeps_bind (hcheck _) fun _ => keeps_bind (hcheck _) fun _ => ?_
    refine keeps_bind (keeps_modify fun t ht => ht) fun _ => keeps_bind (hcheck _) fun _ => ?_
    refine keeps_bind (keeps_modify fun t ht => ht) fun _ => keeps_bind (hcheck _) fun _ => ?_
    refine keeps_bind (keeps_modify fun t ht => ht) fun _ => keeps_bind (keeps_lift _) fun _ => ?_
    refine keeps_bind (hcheck _) fun _ => keeps_bind (keeps_modify fun t ht => ht) fun _ => ?_
    exact keeps_bind (keeps_lift _) fun _ => keeps_modify fun t ht => ht
  exact keeps_bind hopen (fun _ => keeps_pure _) s rfl

omit [Sqlite] [Sodium] in
theorem openUpload_upload (s : ServerState) (opens : Bool) : (s.openUpload opens).upload =
    (if opens && s.upload.isNone then some [] else none).or s.upload := by
  cases opens with
  | false => simp [ServerState.openUpload]
  | true => cases h : s.upload <;> simp [ServerState.openUpload, h]

theorem upload_importTurn (s : ImportState) (turn : Turn) :
    (importTurn sv s turn).server.upload = (putsUpload sv s turn).or s.server.upload ∨
      (importTurn sv s turn).server.upload = none := by
  unfold importTurn putsUpload
  cases hphase : s.phase turn.request with
  | received data =>
    left
    by_cases hlarge : sv.maxUploadBytes < data.length
    · simp [hlarge, ImportState.enter]
    · simp [hlarge, CopyOutcome.content]
  | written => exact .inl (openUpload_upload _ _)
  | checked integrity =>
    left
    simp only [ImportState.advance, after_verifyUploadedAuditChain]
    exact openUpload_upload _ _
  | verified integrity audited =>
    left
    simp only [ImportState.advance, after_swapDbFile]
    rfl
  | swapped => exact .inl (upload_reopen sv _ _)
  | closing ok =>
    cases turn.env.removes with
    | true => exact .inr rfl
    | false => exact .inl rfl
  | done => exact .inl rfl

theorem phase_importTurn_of_ne (s : ImportState) (turn : Turn) {request : Nat}
    (h : request ≠ turn.request) : (importTurn sv s turn).phase request = s.phase request := by
  unfold importTurn
  cases s.phase turn.request with
  | received data =>
    by_cases hlarge : sv.maxUploadBytes < data.length
    · simp [hlarge, ImportState.enter, h]
    · simp [hlarge, ImportState.enter, h]
  | done => rfl
  | _ => simp [ImportState.advance, ImportState.enter, h]

/-! ## What a check has read -/

theorem result_verifyUploadedAuditChain (km : KeyManager) (env : ImportEnv) (s : ServerState) :
    result (verifyUploadedAuditChain km env) s =
      auditVerdict km env.auditOpens ((s.openUpload env.auditOpens).upload.getD []) :=
  result_lift _ _

omit [Sodium] in
theorem opens_of_integrityVerdict {opens : Bool} {content : Bytes}
    (h : integrityVerdict opens content = .ok ()) : opens = true := by
  cases opens with
  | true => rfl
  | false => cases h

/-- An empty file has no tables to verify. -/
theorem opens_of_auditVerdict {km : KeyManager} {opens : Bool} {content : Bytes}
    (h : auditVerdict km opens content = .ok (.ok ())) : opens = true ∧ content ≠ [] := by
  cases opens with
  | false => cases h
  | true =>
    refine ⟨rfl, ?_⟩
    rintro rfl
    obtain ⟨key, -, h⟩ := except_bind_ok.mp h
    obtain ⟨vr, hvr, -⟩ := except_bind_ok.mp h
    obtain ⟨query, hquery, -⟩ := except_bind_ok.mp hvr
    rw [Sqlite.auditLog_nil] at hquery
    cases hquery

omit [Sqlite] [Sodium] in
/-- A step ends in the next phase when it reports success, and has no content left to install
when it does not. -/
theorem phase_advance (s : ImportState) (request : Nat) (x : ServerM (Except String Unit))
    (next : ServerState → ImportPhase) :
    (result x s.server = .ok (.ok ()) ∧
        (s.advance request x next).phase request = next (after x s.server)) ∨
      ((s.advance request x next).phase request).content = none := by
  simp only [ImportState.advance, ImportState.enter, Function.update_self]
  cases result x s.server with
  | error e => exact .inr rfl
  | ok verdict =>
    cases verdict with
    | error error => exact .inr rfl
    | ok _ => exact .inl ⟨rfl, rfl⟩

/-- What a turn of a request leaves of it: nothing to install, or the content that the check
it has just passed has found in the file. -/
theorem phase_importTurn_self (s : ImportState) (turn : Turn) :
    ((importTurn sv s turn).phase turn.request).content = none ∨
      ∃ content, (importTurn sv s turn).server.upload = some content ∧
        ((importTurn sv s turn).phase turn.request = .checked content ∨
          ∃ integrity, s.phase turn.request = .checked integrity ∧ content ≠ [] ∧
            (importTurn sv s turn).phase turn.request = .verified integrity content) := by
  unfold importTurn
  cases hphase : s.phase turn.request with
  | received data =>
    left
    by_cases hlarge : sv.maxUploadBytes < data.length
    · simp [hlarge, ImportState.enter, ImportPhase.content]
    · simp [hlarge, ImportState.enter, ImportPhase.content]
  | written =>
    obtain ⟨hresult, hnext⟩ | hnone := phase_advance s turn.request
      (sqliteIntegrityOk turn.env) fun server => .checked (server.upload.getD [])
    · have hopens : turn.env.integrityOpens = true :=
        opens_of_integrityVerdict (Except.ok.inj hresult)
      refine .inr ⟨_, ?_, .inl hnext⟩
      simp [ImportState.advance, after_sqliteIntegrityOk, ServerState.openUpload, hopens]
    · exact .inl hnone
  | checked integrity =>
    obtain ⟨hresult, hnext⟩ | hnone := phase_advance s turn.request
      (verifyUploadedAuditChain sv.keyManager turn.env) fun server =>
        .verified integrity (server.upload.getD [])
    · rw [result_verifyUploadedAuditChain] at hresult
      obtain ⟨hopens, hne⟩ := opens_of_auditVerdict hresult
      rw [after_verifyUploadedAuditChain] at hnext
      refine .inr ⟨_, ?_, .inr ⟨integrity, rfl, hne, hnext⟩⟩
      simp [ImportState.advance, after_verifyUploadedAuditChain, ServerState.openUpload, hopens]
    · exact .inl hnone
  | verified integrity audited =>
    left
    obtain ⟨-, hnext⟩ | hnone :=
      phase_advance s turn.request (swapDbFile turn.env) fun _ => .swapped
    · exact congrArg ImportPhase.content hnext
    · exact hnone
  | swapped =>
    left
    obtain ⟨-, hnext⟩ | hnone :=
      phase_advance s turn.request (reopen sv turn.env) fun _ => .closing (.ok ())
    · exact congrArg ImportPhase.content hnext
    · exact hnone
  | closing ok => simp [ImportState.enter, ImportPhase.content]
  | done => simp [hphase, ImportPhase.content]

theorem installs_importTurn (s : ImportState) (turn : Turn) {i : Install}
    (h : i ∈ (importTurn sv s turn).installs) : i ∈ s.installs ∨
      ∃ source, s.phase turn.request = .verified i.integrity i.audited ∧
        s.server.upload = some source ∧ turn.env.replace.arrives source = some i.installed := by
  unfold importTurn at h
  cases hphase : s.phase turn.request with
  | received data =>
    left
    rw [hphase] at h
    by_cases hlarge : sv.maxUploadBytes < data.length
    · simpa [hlarge, ImportState.enter] using h
    · simpa [hlarge, ImportState.enter] using h
  | verified integrity audited =>
    rw [hphase] at h
    rcases List.mem_append.mp h with h | h
    · exact .inl h
    · simp only [Option.mem_toList, Option.map_eq_some_iff, Option.bind_eq_some_iff] at h
      obtain ⟨installed, ⟨source, hsource, hinstalled⟩, rfl⟩ := h
      exact .inr ⟨source, rfl, hsource, hinstalled⟩
  | _ =>
    left
    rw [hphase] at h
    exact h

/-- The audit check finds what the integrity check has found. -/
theorem audited_eq {s : ImportState} {turn : Turn} (hinv : ImportInv s) {integrity content : Bytes}
    (hphase : s.phase turn.request = .checked integrity) (hne : content ≠ [])
    (hupload : (importTurn sv s turn).server.upload = some content) : content = integrity := by
  obtain hturn | hnone := upload_importTurn sv s turn
  · obtain hkept | hremoved := hinv.kept turn.request integrity (by rw [hphase]; rfl)
    · simpa [putsUpload, hphase, hkept, hupload] using hturn
    · simp only [putsUpload, hphase, hremoved, hupload, Option.or_none] at hturn
      grind
  · rw [hupload] at hnone
    cases hnone

/-- A request that has something to install after its own turn has just found it in the file. -/
theorem upload_of_content {s : ImportState} {turn : Turn} (hinv : ImportInv s) {content : Bytes}
    (hcontent : ((importTurn sv s turn).phase turn.request).content = some content) :
    (importTurn sv s turn).server.upload = some content := by
  obtain hnone | ⟨found, hupload, hchecked | ⟨integrity, hphase, hne, hverified⟩⟩ :=
    phase_importTurn_self sv s turn
  · rw [hnone] at hcontent
    cases hcontent
  · rw [hchecked] at hcontent
    cases hcontent
    exact hupload
  · rw [hverified] at hcontent
    cases hcontent
    rw [hupload, audited_eq sv hinv hphase hne hupload]

theorem same_of_verified {s : ImportState} {turn : Turn} (hinv : ImportInv s)
    {integrity audited : Bytes}
    (hverified : (importTurn sv s turn).phase turn.request = .verified integrity audited) :
    audited = integrity := by
  obtain hnone | ⟨found, hupload, hchecked | ⟨first, hphase, hne, hnext⟩⟩ :=
    phase_importTurn_self sv s turn
  · rw [hverified] at hnone
    cases hnone
  · rw [hverified] at hchecked
    cases hchecked
  · rw [hverified] at hnext
    cases hnext
    exact audited_eq sv hinv hphase hne hupload

/-- What a turn records as installed is what the database file holds after it. -/
theorem db_importTurn {s : ImportState} {turn : Turn} {integrity audited : Bytes}
    (hphase : s.phase turn.request = .verified integrity audited) :
    (importTurn sv s turn).server.db =
      (s.server.upload.bind turn.env.replace.arrives).or s.server.db := by
  simp only [importTurn, hphase, ImportState.advance, after_swapDbFile, ServerState.swapped,
    copyFile]
  cases s.server.upload <;> rfl

/-! ## Runs -/

theorem importInv_turn {s : ImportState} {turn : Turn} (hinv : ImportInv s)
    (h : OrderlyTurn sv s turn) : ImportInv (importTurn sv s turn) := by
  refine ⟨?_, ?_, ?_⟩
  · intro request content hcontent
    by_cases hrequest : request = turn.request
    · subst hrequest
      exact .inl (upload_of_content sv hinv hcontent)
    · rw [phase_importTurn_of_ne sv s turn hrequest] at hcontent
      obtain hupload | hupload := upload_importTurn sv s turn
      · rw [hupload]
        cases hputs : putsUpload sv s turn with
        | none => exact hinv.kept request content hcontent
        | some c =>
          left
          rw [h.others c hputs request hrequest content hcontent]
          rfl
      · exact .inr hupload
  · intro request integrity audited hverified
    by_cases hrequest : request = turn.request
    · subst hrequest
      exact same_of_verified sv hinv hverified
    · rw [phase_importTurn_of_ne sv s turn hrequest] at hverified
      exact hinv.same request integrity audited hverified
  · intro i hi
    obtain hold | ⟨source, hphase, hsource, hinstalled⟩ := installs_importTurn sv s turn hi
    · exact hinv.installs i hold
    · have hsame := hinv.same _ _ _ hphase
      have hcomplete := h.complete _ _ hphase _ _ hsource hinstalled
      obtain hkept | hremoved := hinv.kept turn.request i.integrity (by rw [hphase]; rfl)
      · grind
      · grind

/-- The requests that have been received, before any has taken a step. -/
def ImportState.start (server : ServerState) (data : Nat → Bytes) : ImportState where
  server := server
  phase request := .received (data request)

omit [Sqlite] [Sodium] in
theorem importInv_start (server : ServerState) (data : Nat → Bytes) :
    ImportInv (.start server data) := by
  refine ⟨?_, ?_, ?_⟩
  · intro request content h
    cases h
  · intro request integrity audited h
    cases h
  · intro i hi
    cases hi

/-- Every content that is installed in an undisturbed run of any number of requests has passed
both checks of the request that installs it. -/
theorem installs_verified (server : ServerState) (data : Nat → Bytes) {turns : List Turn}
    (h : Along (importTurn sv) (OrderlyTurn sv) (.start server data) turns) :
    ∀ i ∈ (run (importTurn sv) (.start server data) turns).installs,
      i.installed = i.integrity ∧ i.installed = i.audited :=
  (run_invariant (fun _ _ => importInv_turn sv) (importInv_start server data) h).installs

/-! ## A request that is alone -/

/-- What the rest of a request, from the phase it is in, does to the server. -/
def remaining (env : ImportEnv) : ImportPhase → ServerState → ServerState
  | .received data => after (importDatabase sv env data)
  | .written => after (importDbFile sv env >>= closeImport env)
  | .checked _ =>
    after (ifOk (verifyUploadedAuditChain sv.keyManager env)
      (ifOk (swapDbFile env) (reopen sv env)) >>= closeImport env)
  | .verified _ _ => after (ifOk (swapDbFile env) (reopen sv env) >>= closeImport env)
  | .swapped => after (reopen sv env >>= closeImport env)
  | .closing ok => after (closeImport env ok)
  | .done => id

omit [Sqlite] [Sodium] in
theorem after_ifOk_bind (x y : ServerM (Except String Unit))
    (k : Except String Unit → ServerM ServiceResult) (s : ServerState) :
    after (ifOk x y >>= k) s =
      match result x s with
      | .ok (.ok ()) => after (y >>= k) (after x s)
      | .ok (.error error) => after (k (.error error)) (after x s)
      | .error _ => after x s := by
  unfold ifOk
  rw [bind_assoc, after_bind_eq]
  cases result x s with
  | error e => rfl
  | ok verdict => cases verdict <;> rfl

theorem remaining_advance (s : ImportState) (env : ImportEnv) (request : Nat)
    {x y : ServerM (Except String Unit)} (next : ServerState → ImportPhase)
    (hnext : ∀ server, remaining sv env (next server) = after (y >>= closeImport env)) :
    remaining sv env ((s.advance request x next).phase request) (s.advance request x next).server =
      after (ifOk x y >>= closeImport env) s.server := by
  rw [after_ifOk_bind]
  simp only [ImportState.advance, ImportState.enter, Function.update_self]
  cases result x s.server with
  | error e => rfl
  | ok verdict =>
    cases verdict with
    | error error => rfl
    | ok _ => exact congrFun (hnext _) _

/-- A turn takes the first part off the rest of its request. -/
theorem remaining_importTurn (s : ImportState) (turn : Turn) :
    remaining sv turn.env ((importTurn sv s turn).phase turn.request)
        (importTurn sv s turn).server =
      remaining sv turn.env (s.phase turn.request) s.server := by
  unfold importTurn
  cases hphase : s.phase turn.request with
  | received data =>
    by_cases hlarge : sv.maxUploadBytes < data.length
    · simp only [hlarge, if_true, ImportState.enter, Function.update_self, remaining,
        importDatabase]
      rfl
    · simp only [hlarge, if_false, ImportState.enter, Function.update_self, remaining,
        importDatabase]
      rfl
  | written => exact remaining_advance sv s turn.env turn.request _ fun _ => rfl
  | checked integrity => exact remaining_advance sv s turn.env turn.request _ fun _ => rfl
  | verified integrity audited =>
    exact remaining_advance sv s turn.env turn.request (fun _ => .swapped) fun _ => rfl
  | swapped =>
    simp only [remaining, after_bind_eq]
    simp only [ImportState.advance, ImportState.enter, Function.update_self]
    cases result (reopen sv turn.env) s.server with
    | error e => rfl
    | ok verdict => cases verdict <;> rfl
  | closing ok =>
    simp only [ImportState.enter, Function.update_self, remaining]
    cases ok <;> rfl
  | done => simp only [hphase]

/-- The number of turns a request still takes. -/
def ImportPhase.turnsLeft : ImportPhase → Nat
  | .received _ => 6
  | .written => 5
  | .checked _ => 4
  | .verified _ _ => 3
  | .swapped => 2
  | .closing _ => 1
  | .done => 0

theorem turnsLeft_importTurn (s : ImportState) (turn : Turn) :
    ((importTurn sv s turn).phase turn.request).turnsLeft ≤
      (s.phase turn.request).turnsLeft - 1 := by
  unfold importTurn
  cases hphase : s.phase turn.request with
  | received data =>
    by_cases hlarge : sv.maxUploadBytes < data.length
    · simp [hlarge, ImportState.enter, ImportPhase.turnsLeft]
    · simp [hlarge, ImportState.enter, ImportPhase.turnsLeft]
  | closing ok => simp [ImportState.enter, ImportPhase.turnsLeft]
  | done => simp [hphase, ImportPhase.turnsLeft]
  | _ =>
    simp only [ImportState.advance, ImportState.enter, Function.update_self]
    split <;> simp [ImportPhase.turnsLeft]

/-- The turns of a request that is alone make up `importDatabase`. -/
theorem run_alone (s : ImportState) (request : Nat) (env : ImportEnv) {data : Bytes}
    (hphase : s.phase request = .received data) :
    (run (importTurn sv) s (List.replicate 6 { request, env })).server =
      after (importDatabase sv env data) s.server := by
  have hturns : ∀ n s', (s'.phase request).turnsLeft ≤ n →
      (run (importTurn sv) s' (List.replicate n { request, env })).server =
        remaining sv env (s'.phase request) s'.server := by
    intro n
    induction n with
    | zero =>
      intro s' hleft
      cases hdone : s'.phase request with
      | done => rfl
      | _ => simp [hdone, ImportPhase.turnsLeft] at hleft
    | succ n ih =>
      intro s' hleft
      have hturn := turnsLeft_importTurn sv s' { request, env }
      rw [List.replicate_succ, run_cons, ih _ (by dsimp only at hturn; omega)]
      exact remaining_importTurn sv s' { request, env }
  rw [hturns 6 s (by simp [hphase, ImportPhase.turnsLeft]), hphase]
  rfl

omit [Sqlite] [Sodium] in
theorem orderlyTurn_alone {s : ImportState} {turn : Turn}
    (halone : ∀ request ≠ turn.request, (s.phase request).content = none)
    (hcopy : turn.env.replace = .ok) : OrderlyTurn sv s turn := by
  constructor
  · intro content _ request hrequest c hc
    rw [halone request hrequest] at hc
    cases hc
  · intro integrity audited _ source content _ harrives
    rw [hcopy] at harrives
    exact (Option.some.inj harrives).symm

/-- Nobody is there to disturb a request that is alone. -/
theorem along_alone {request : Nat} {turns : List Turn}
    (hturns : ∀ turn ∈ turns, turn.request = request ∧ turn.env.replace = .ok) {s : ImportState}
    (halone : ∀ r ≠ request, (s.phase r).content = none) :
    Along (importTurn sv) (OrderlyTurn sv) s turns := by
  induction turns generalizing s with
  | nil => trivial
  | cons turn turns ih =>
    obtain ⟨rfl, hcopy⟩ := hturns turn (.head _)
    refine ⟨orderlyTurn_alone sv halone hcopy, ih (fun t ht => hturns t (.tail _ ht)) ?_⟩
    intro r hr
    rw [phase_importTurn_of_ne sv s turn hr]
    exact halone r hr

end

/-! ## Two requests -/

/-- Request zero uploads the sample database, all others something else. -/
def sampleImports : ImportState :=
  .start (sampleServer []) fun request =>
    if request = 0 then sampleImage else bytesOf "not a database"

/-- Request zero alone. -/
theorem installs_verified_alone :
    letI : Sqlite := .sample
    letI : Sodium := .trailing
    (run (importTurn sampleConfig) sampleImports (List.replicate 4 ⟨0, {}⟩)).installs =
        [⟨sampleImage, sampleImage, sampleImage⟩] ∧
      ∀ i ∈ (run (importTurn sampleConfig) sampleImports (List.replicate 4 ⟨0, {}⟩)).installs,
        i.installed = i.integrity ∧ i.installed = i.audited := by
  let _ : Sqlite := .sample
  let _ : Sodium := .trailing
  have hturns : ∀ turn ∈ List.replicate 4 (⟨0, {}⟩ : Turn),
      turn.request = 0 ∧ turn.env.replace = .ok := by
    intro turn hturn
    rw [List.eq_of_mem_replicate hturn]
    exact ⟨rfl, rfl⟩
  exact ⟨by decide +kernel,
    installs_verified sampleConfig _ _ (along_alone _ hturns fun _ _ => rfl)⟩

/-- Request one writes its upload when both checks of request zero have succeeded. -/
theorem unverified_installed :
    letI : Sqlite := .sample
    letI : Sodium := .trailing
    (run (importTurn sampleConfig) sampleImports
        [⟨0, {}⟩, ⟨0, {}⟩, ⟨0, {}⟩, ⟨1, {}⟩, ⟨0, {}⟩]).installs =
      [⟨bytesOf "not a database", sampleImage, sampleImage⟩] ∧
    bytesOf "not a database" ≠ sampleImage ∧
    integrityVerdict true (bytesOf "not a database") ≠ .ok () := by
  refine ⟨?_, ?_, ?_⟩
  · decide +kernel
  · decide +kernel
  · decide +kernel

end AccessSecurity.Admin
