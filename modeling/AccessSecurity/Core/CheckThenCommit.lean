import AccessSecurity.Core.Verdict

/-!
# Check and commit

`handle` consists of two steps between which another thread can run. `lookup` parses the
frame, looks the reader up and asks the replay window; `commit` decrypts and records the
number. The number was fresh at the lookup, and nothing is asked again at the commit.
-/

namespace AccessSecurity.Core.FrameHandler

open Foundation Protocol Crypto

/-- What the first step hands on: the error result, or the frame and the window pointer. -/
abbrev Found := Except HandleResult (Frame × Option UInt32)

variable [Sodium]

def lookup (fh : FrameHandler) (env : Env) (frameBytes : Bytes) : HandlerM Found := do
  match fh.parseFrame frameBytes with
  | .error err => return .error err
  | .ok frame =>
    match ← lift (fh.validateReader env frame) with
    | .error err => return .error err
    | .ok currentKeyVersion =>
      match fh.validateKeyVersion frame currentKeyVersion with
      | some err => return .error err
      | none =>
        match ← fh.checkReplay frame with
        | (some err, _) => return .error err
        | (none, window) => return .ok (frame, window)

def commit (fh : FrameHandler) (env : Env) (found : Found) : HandlerM HandleResult :=
  match found with
  | .error err => pure err
  | .ok (frame, window) => fh.tryDecrypt env frame window

theorem handle_eq (fh : FrameHandler) (env : Env) (frameBytes : Bytes) :
    fh.handle env frameBytes = fh.lookup env frameBytes >>= fh.commit env := by
  unfold handle lookup
  cases fh.parseFrame frameBytes with
  | error err => simp [commit]
  | ok frame =>
    simp only [bind_assoc]
    congr 1
    funext reader
    cases reader with
    | error err => simp [commit]
    | ok kv =>
      dsimp only
      cases fh.validateKeyVersion frame kv with
      | some err => simp [commit]
      | none =>
        simp only [bind_assoc]
        congr 1
        funext r
        obtain ⟨err | err, window⟩ := r
        · simp [commit]
        · simp [commit]

/-! ## What the steps do -/

/-- What a lookup returns: an error result that refuses the frame, or the frame with a fresh
number, and the window of its reader is there from then on. -/
inductive LookupResult (fh : FrameHandler) (frameBytes : Bytes) (windows after : ReplayWindowMap) :
    Found → Prop
  | refused {err : HandleResult} (hdeny : err.allow = false) :
      LookupResult fh frameBytes windows after (.error err)
  | fresh {frame : Frame}
      (hparse : Protocol.parseFrame frameBytes fh.config.maxCtLen = .ok frame)
      (hfresh : windows.contains frame.header.readerId frame.header.seq = false)
      (hafter : after =
        windows.getOrCreateWindow fh.config.replayWindowSize frame.header.readerId) :
      LookupResult fh frameBytes windows after (.ok (frame, some frame.header.readerId))

theorem returns_lookup {fh : FrameHandler} (hon : fh.config.antiReplayEnabled = true) {env : Env}
    {frameBytes : Bytes} {found : Found} {windows after : ReplayWindowMap}
    (h : Returns (fh.lookup env frameBytes) windows found after) :
    fh.LookupResult frameBytes windows after found := by
  unfold lookup at h
  cases hparse : fh.parseFrame frameBytes with
  | error err =>
    obtain ⟨rfl, -⟩ : found = .error err ∧ after = windows := by simpa [hparse] using h
    exact .refused (parseFrame_error hparse).1
  | ok frame =>
    simp only [hparse, returns_bind, returns_lift] at h
    obtain ⟨reader, u, ⟨hreader, rfl⟩, h⟩ := h
    obtain ⟨err, rfl, hdeny, -⟩ | ⟨store, -, rfl, -⟩ := validateReader_ok hreader
    · obtain ⟨rfl, -⟩ := returns_pure.mp h
      exact .refused hdeny
    simp only [validateKeyVersion] at h
    split_ifs at h
    · simp only [checkReplay, hon, if_true, returns_bind, returns_modify, returns_get] at h
      obtain ⟨r, t, ⟨_, u, hu, m, v, ⟨rfl, rfl⟩, hr⟩, h⟩ := h
      split_ifs at hr with hseen
      · obtain ⟨rfl, rfl⟩ := returns_pure.mp hr
        obtain ⟨rfl, -⟩ := returns_pure.mp h
        exact .refused rfl
      · obtain ⟨rfl, rfl⟩ := returns_pure.mp hr
        obtain ⟨rfl, rfl⟩ := returns_pure.mp h
        refine .fresh (parseFrame_ok.mp hparse) ?_ hu
        simpa [hu] using hseen
    · obtain ⟨rfl, -⟩ := returns_pure.mp h
      exact .refused rfl

/-- An error result refuses, and the window pointer is that of the frame's reader. -/
def Found.Wf (fh : FrameHandler) (frameBytes : Bytes) : Found → Prop
  | .error err => err.allow = false
  | .ok (frame, window) => Protocol.parseFrame frameBytes fh.config.maxCtLen = .ok frame ∧
    window = some frame.header.readerId

omit [Sodium] in
theorem LookupResult.wf {fh : FrameHandler} {frameBytes : Bytes} {windows after : ReplayWindowMap}
    {found : Found} (h : fh.LookupResult frameBytes windows after found) :
    found.Wf fh frameBytes := by
  cases h with
  | refused hdeny => exact hdeny
  | fresh hparse hfresh hafter => exact ⟨hparse, rfl⟩

/-- The window that the pointer points to is in the map. -/
def Found.HasWindow (windows : ReplayWindowMap) : Found → Prop
  | .error _ => True
  | .ok (frame, _) => (windows.find frame.header.readerId).isSome = true

omit [Sodium] in
theorem LookupResult.hasWindow {fh : FrameHandler} {frameBytes : Bytes}
    {windows after : ReplayWindowMap} {found : Found}
    (h : fh.LookupResult frameBytes windows after found) : found.HasWindow after := by
  cases h with
  | refused hdeny => trivial
  | fresh hparse hfresh hafter =>
    simp [Found.HasWindow, hafter, ReplayWindowMap.find_getOrCreateWindow]

omit [Sodium] in
theorem Found.HasWindow.mono {windows after : ReplayWindowMap} {found : Found}
    (h : found.HasWindow windows)
    (hfind : ∀ r, (windows.find r).isSome = true → (after.find r).isSome = true) :
    found.HasWindow after := by
  cases found with
  | error err => trivial
  | ok pair => exact hfind _ h

theorem commit_total (fh : FrameHandler) (env : Env) (found : Found) (windows : ReplayWindowMap) :
    Total (fh.commit env found) windows := by
  unfold commit
  cases found with
  | error err => exact total_pure _ _
  | ok frame => exact tryDecrypt_total _ _ _ _

/-- The number of the frame is recorded, or the frame is not allowed. -/
theorem returns_commit {fh : FrameHandler} (hon : fh.config.antiReplayEnabled = true) {env : Env}
    {frameBytes : Bytes} {found : Found} (hwf : found.Wf fh frameBytes)
    {windows after : ReplayWindowMap} {res : HandleResult}
    (h : Returns (fh.commit env found) windows res after) :
    (∃ frame window, found = .ok (frame, window) ∧
      after = windows.remember frame.header.readerId frame.header.seq) ∨
    (after = windows ∧ res.allow = false) := by
  cases found with
  | error err =>
    obtain ⟨rfl, rfl⟩ := returns_pure.mp h
    exact .inr ⟨rfl, hwf⟩
  | ok pair =>
    obtain ⟨frame, window⟩ := pair
    obtain ⟨-, rfl⟩ := hwf
    have hcommit : Returns (fh.tryDecrypt env frame (some frame.header.readerId)) windows res
      after := h
    obtain ⟨rfl, rfl⟩ := (returns_tryDecrypt (by simp [hon])).mp hcommit
    cases hallow : (fh.decryption (env.now .skewCheck) frame).allow with
    | true =>
      refine .inl ⟨frame, _, rfl, ?_⟩
      simp [hon]
    | false => exact .inr ⟨by simp, rfl⟩

omit [Sodium] in
theorem lookup_keeps {fh : FrameHandler} {P : ReplayWindowMap → Prop}
    (h : ∀ windows r, P windows → P (windows.getOrCreateWindow fh.config.replayWindowSize r))
    (env : Env) (frameBytes : Bytes) : Keeps P (fh.lookup env frameBytes) := by
  unfold lookup
  cases fh.parseFrame frameBytes with
  | error err => exact keeps_pure _
  | ok frame =>
    refine keeps_bind (keeps_lift _) fun reader => ?_
    cases reader with
    | error err => exact keeps_pure _
    | ok kv =>
      dsimp only
      cases fh.validateKeyVersion frame kv with
      | some err => exact keeps_pure _
      | none =>
        refine keeps_bind ?_ fun r => ?_
        · unfold checkReplay
          split_ifs
          · refine keeps_bind (keeps_modify fun windows hw => h windows _ hw) fun _ =>
              keeps_get_bind fun _ _ => ?_
            split_ifs
            · exact keeps_pure _
            · exact keeps_pure _
          · exact keeps_pure _
        · obtain ⟨err | err, window⟩ := r
          · exact keeps_pure _
          · exact keeps_pure _

end AccessSecurity.Core.FrameHandler
