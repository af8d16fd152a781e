import AccessSecurity.Decision.Quarantine

/-!
# Readers that give no alarm

`Calm last` says that no reader is in quarantine and that neither the replay windows nor
the detector have met a sequence number above `last`. A frame with a number above the last
one of its reader passes the detector and keeps the engine calm, whether the call returns
or throws, as long as the frame handler does not take it for a replay or a forgery.
-/

namespace AccessSecurity.Decision.Engine

open Foundation Protocol Crypto Core

/-- Nobody is in quarantine, and the numbers met so far are at most the last ones. -/
structure Calm (last : UInt32 → UInt64) (s : EngineState) : Prop where
  fresh : ∀ r q, last r < q → s.windows.contains r q = false
  notQuarantined : ∀ r, (s.readers.getState r).quarantine = none
  maxSeenSeq_le : ∀ r, (s.readers.getState r).maxSeenSeq ≤ last r

theorem calm_initial (last : UInt32 → UInt64) : Calm last .initial where
  fresh _ _ _ := rfl
  notQuarantined _ := rfl
  maxSeenSeq_le _ := UInt64.le_iff_toNat_le.mpr (Nat.zero_le _)

theorem Calm.mono {last last' : UInt32 → UInt64} {s : EngineState} (h : Calm last s)
    (hle : ∀ r, last r ≤ last' r) : Calm last' s where
  fresh r q hq := h.fresh r q (UInt64.lt_of_le_of_lt (hle r) hq)
  notQuarantined := h.notQuarantined
  maxSeenSeq_le r := UInt64.le_trans (h.maxSeenSeq_le r) (hle r)

theorem Calm.of_control {last : UInt32 → UInt64} (s t : EngineState) (hsame : SameControl s t)
    (h : Calm last s) : Calm last t := by
  obtain ⟨hwindows, hreaders⟩ := hsame
  constructor
  · intro r q hq
    rw [hwindows, h.fresh r q hq]
  · intro r
    rw [hreaders, h.notQuarantined r]
  · intro r
    rw [hreaders]
    exact h.maxSeenSeq_le r

theorem Calm.isQuarantined {last : UInt32 → UInt64} {s : EngineState} (h : Calm last s)
    (r : UInt32) : s.readers.isQuarantined r = false := by
  rw [Readers.isQuarantined_eq, h.notQuarantined r]
  rfl

/-- The detector has no reason to act on a verdict. -/
def Harmless (res : HandleResult) : Prop :=
  res.allow = true ∨ (res.reason ≠ "replay" ∧ res.reason ≠ "mac_verification_failed" ∧
    res.reason ≠ "decrypt_failed")

section

variable {last : UInt32 → UInt64}

theorem report_calm {α : Type} {readerId : UInt32} {op : ReaderState → α × ReaderState}
    (hop : ∀ state, state.quarantine = none → state.maxSeenSeq ≤ last readerId →
      (op state).2.quarantine = none ∧ (op state).2.maxSeenSeq ≤ last readerId) :
    Keeps (Calm last) (report readerId op) := by
  intro s hs
  rw [(report_result.mpr ⟨rfl, rfl⟩ : Returns (report readerId op) s _ _).after_eq]
  obtain ⟨hquarantine, hseq⟩ :=
    hop _ (hs.notQuarantined readerId) (hs.maxSeenSeq_le readerId)
  refine ⟨hs.fresh, fun r => ?_, fun r => ?_⟩
  · by_cases hr : r = readerId
    · simpa [hr] using hquarantine
    · simpa [Readers.getState_report_of_ne _ op hr] using hs.notQuarantined r
  · by_cases hr : r = readerId
    · simpa [hr] using hseq
    · simpa [Readers.getState_report_of_ne _ op hr] using hs.maxSeenSeq_le r

variable {en : Engine} {header : Header} (hlast : last header.readerId = header.seq)
  (hwrap : header.seq.toNat + en.config.rollbackThreshold.toNat < 2 ^ 64)

include hlast hwrap in
theorem checkRollback_calm (env : Env) : Keeps (Calm last) (en.checkRollback env header) := by
  unfold checkRollback
  split_ifs
  · refine keeps_bind (report_calm ?_) fun anomaly => ?_
    · intro state hquarantine hle
      have hroll := ReaderState.not_rollsBack hwrap (hlast ▸ hle)
      have hseq : header.seq ≤ last header.readerId := hlast ▸ UInt64.le_refl _
      rw [ReaderState.reportSeq, if_neg (by simp [hroll])]
      exact ⟨by simpa using hquarantine, ReaderState.maxSeenSeq_raise_le hseq hle⟩
    · cases anomaly with
      | none => exact keeps_pure _
      | some anomaly => exact keeps_bind (push_keeps Calm.of_control en _) fun _ => keeps_pure _
  · exact keeps_pure _

theorem reportDenied_calm {res : HandleResult} (hdeny : res.allow = false) (h : Harmless res)
    (env : Env) : Keeps (Calm last) (en.reportDenied env res) := by
  obtain hallow | ⟨hreplay, hmac, hdecrypt⟩ := h
  · simp [hdeny] at hallow
  unfold reportDenied
  split_ifs with _ htag
  · exact absurd htag (by simp [hmac, hdecrypt])
  · exact keeps_pure _
  · exact keeps_pure _

include hlast in
theorem reportAllowed_calm {res : HandleResult} (hheader : res.header = header) :
    Keeps (Calm last) (en.reportAllowed res) := by
  unfold reportAllowed
  split_ifs
  · rw [hheader]
    refine report_calm fun state hquarantine hle => ?_
    have hseq : header.seq ≤ last header.readerId := hlast ▸ UInt64.le_refl _
    exact ⟨by simpa [ReaderState.reportSuccess] using hquarantine,
      ReaderState.maxSeenSeq_raise_le hseq hle⟩
  · exact keeps_pure _

variable [Sodium] (hnonce : en.nonceOk header = true)

include hnonce in
theorem checkNonce_calm (env : Env) : Keeps (Calm last) (en.checkNonce env header) := by
  unfold checkNonce
  split_ifs with hcheck
  · have hequal : nonceEqual header.nonce (en.nonceFor header)
        (nonceLenFor (.ofString en.frameHandlerCfg.cipherMode)) = true := by
      simpa [nonceOk, hcheck.2] using hnonce
    rw [expectedNonce_ok]
    refine keeps_bind_returns (keeps_lift _) fun expected s t hret => ?_
    obtain rfl := Except.ok.inj (returns_lift.mp hret).1
    rw [if_pos hequal]
    exact keeps_pure _
  · exact keeps_pure _

include hlast hwrap hnonce in
/-- The detector lets a frame with a new number pass. -/
theorem Calm.screen {s : EngineState} {last₀ : UInt32 → UInt64} (h : Calm last₀ s)
    (hle : ∀ r, last₀ r ≤ last r) (now : ClockSite → UInt64) :
    (en.screen now s.readers header).1 = false := by
  have hseen : (s.readers.getState header.readerId).maxSeenSeq ≤ header.seq :=
    hlast ▸ (h.mono hle).maxSeenSeq_le header.readerId
  have hroll : en.rollsBack s.readers header = false := by
    simp [rollsBack, ReaderState.not_rollsBack hwrap hseen]
  unfold Engine.screen
  simp only [h.isQuarantined, hroll, hnonce, Bool.false_eq_true, if_false, if_true]
  split_ifs <;> rfl

variable [JsonLib]

include hlast in
theorem finish_calm {res : HandleResult} (hheader : res.header = header) (h : Harmless res)
    (env : Env) : Keeps (Calm last) (en.finish env res) := by
  refine keeps_bind (push_keeps Calm.of_control en _) fun _ => ?_
  split_ifs with hdeny
  · exact keeps_bind (reportDenied_calm hdeny h env) fun _ =>
      deny_keeps (.of_control Calm.of_control) en env _ _
  · exact keeps_bind (reportAllowed_calm hlast hheader) fun _ =>
      checkPayload_keeps (.of_control Calm.of_control) en env res

include hlast hwrap hnonce in
/-- A frame with a number above the last one of its reader keeps the engine calm. -/
theorem handleFrameBytes_calm {last₀ : UInt32 → UInt64} {s : EngineState} (hs : Calm last₀ s)
    (hle : ∀ r, last₀ r ≤ last r) {env : Env} {frameBytes : Bytes} {frame : Frame}
    (hparse : parseFrame frameBytes en.frameHandlerCfg.maxCtLen = .ok frame)
    (hheader : frame.header = header) (hverdict : Harmless (en.verdict env.now s frameBytes)) :
    Calm last (after (en.handleFrameBytes env frameBytes) s) := by
  have hwindows : Keeps (fun m : ReplayWindowMap => ∀ r q, last r < q → m.contains r q = false)
      (en.handler.handle env frameBytes) := by
    refine FrameHandler.handle_keeps hparse (fun m hm r q hq => ?_) (fun m hm r q hq => ?_) env
    · rw [ReplayWindowMap.contains_getOrCreateWindow, hm r q hq]
    · refine ReplayWindowMap.not_contains_remember (hm r q hq) fun hr => ?_
      rw [hheader, ← hlast, ← hheader, ← hr]
      exact hq
  have hhandle : Keeps (Calm last) (zoom EngineState.windows (fun windows s => { s with windows })
      (en.handler.handle env frameBytes)) :=
    keeps_zoom_of (fun t ht => ht.fresh)
      (fun m t ht hm => ⟨hm, ht.notQuarantined, ht.maxSeenSeq_le⟩) hwindows
  unfold handleFrameBytes
  refine after_bind_of (hhandle s (hs.mono hle)) fun res t hret => ?_
  have ht : Calm last t := hret.after_eq ▸ hhandle s (hs.mono hle)
  obtain ⟨windows, hwindows, -⟩ := returns_zoom.mp hret
  have hres : res = en.verdict env.now s frameBytes := (FrameHandler.returns_handle hwindows).1
  have hres_header : res.header = header := by
    rw [hres, ← hheader]
    exact FrameHandler.verdict_header hparse
  have hrefuse := refuseQuarantined_keeps (P := Calm last) Calm.of_control en env res
  -- from here on every part of the call keeps the engine calm
  suffices hrest : Keeps (Calm last) _ from hrest t ht
  refine keeps_bind (push_keeps Calm.of_control en _) fun _ => keeps_get_bind fun u hu => ?_
  rw [if_neg (by simp [hu.isQuarantined]), hres_header]
  refine keeps_bind (checkRollback_calm hlast hwrap env) fun refused => ?_
  split_ifs
  · exact hrefuse
  refine keeps_bind (checkNonce_calm hnonce env) fun refused => ?_
  split_ifs
  · exact hrefuse
  · exact finish_calm hlast hres_header (hres ▸ hverdict) env

end

end AccessSecurity.Decision.Engine
