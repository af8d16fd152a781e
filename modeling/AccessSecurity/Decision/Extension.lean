import AccessSecurity.Decision.Locality

/-!
# An engine with and without its detector

The detector only adds denials. Two engines that differ in the detector alone keep the same
replay windows over any run, and where the one with the detector does not answer
`quarantined`, the other one gives the same answer (`detector_conservative`).
-/

namespace AccessSecurity.Decision.Engine

open Foundation Protocol Crypto Core

/-- The engine without its detector. -/
def bare (en : Engine) : Engine := { en with detector := none }

section

variable [Sodium] [JsonLib] {en : Engine} {env : Env}

/-- From the verdict on, the answer does not depend on the detector. -/
theorem finish_agree_bare (res : HandleResult) :
    Agree (fun _ _ : EngineState => True) (en.finish env res) (en.bare.finish env res) := by
  have hlog : ∀ s s' t t' : EngineState, SameControl s s' → SameControl t t' → True → True :=
    fun _ _ _ _ _ _ h => h
  refine agree_bind (push_agree hlog en _) fun _ => ?_
  split_ifs
  · have hreport := agree_of_total (reportDenied_total en env res)
      (reportDenied_total en.bare env res)
    exact agree_bind hreport fun _ => deny_agree hlog en env _ _
  · have hreport := agree_of_total (reportAllowed_total en res) (reportAllowed_total en.bare res)
    exact agree_bind hreport fun _ => checkPayload_agree hlog en env res

/-- A call that is not refused by the detector ends like one without it. -/
theorem detect_finish {res : HandleResult} {s t : EngineState} {r : DecisionResult}
    (h : Returns (en.detect env res) s r t) :
    r = createDeniedResult "quarantined" ∨ ∃ u, Returns (en.finish env res) u r t := by
  unfold detect at h
  rw [returns_bind] at h
  obtain ⟨v, _, -, h⟩ := h
  split_ifs at h
  · exact .inl (refuseQuarantined_result h).1
  rw [returns_bind] at h
  obtain ⟨refused, u, -, h⟩ := h
  split_ifs at h
  · exact .inl (refuseQuarantined_result h).1
  rw [returns_bind] at h
  obtain ⟨mismatch, u, -, h⟩ := h
  split_ifs at h
  · exact .inl (refuseQuarantined_result h).1
  · exact .inr ⟨u, h⟩

theorem detect_bare (res : HandleResult) (s : EngineState) :
    en.bare.detect env res s = en.bare.finish env res s := by
  have hactive : en.bare.detectorActive = false := rfl
  have hroll : en.bare.checkRollback env res.header = pure false := by
    unfold checkRollback
    rw [if_neg (by simp [hactive])]
  have hnonce : en.bare.checkNonce env res.header = pure false := by
    unfold checkNonce
    rw [if_neg (by simp [hactive])]
  unfold detect
  rw [hroll, hnonce, hactive]
  rfl

variable {frameBytes : Bytes}

/-- One call: the engine with the detector refuses the frame for its quarantine or answers
like the one without. -/
theorem returns_bare {s t u : EngineState} {r : DecisionResult} (hwindows : u.windows = s.windows)
    (h : Returns (en.handleFrameBytes env frameBytes) s r t) :
    r = createDeniedResult "quarantined" ∨
      ∃ v, Returns (en.bare.handleFrameBytes env frameBytes) u r v := by
  rw [handleFrameBytes_eq] at h
  simp only [returns_bind, returns_zoom] at h
  obtain ⟨res, s₁, ⟨windows, hhandle, -⟩, _, s₂, -, hdetect⟩ := h
  rcases detect_finish hdetect with hrefused | ⟨w, hfinish⟩
  · exact .inl hrefused
  right
  obtain ⟨_, u₂, hpush⟩ : Total (en.bare.publishFrameEvent env frameBytes.length)
      { u with windows } := push_total _ _ _
  obtain ⟨v, hv, -⟩ := (finish_agree_bare res).returns (trivial : True) hfinish (t := u₂)
  refine ⟨v, ?_⟩
  rw [handleFrameBytes_eq]
  simp only [returns_bind, returns_zoom]
  refine ⟨res, _, ⟨windows, hwindows ▸ hhandle, rfl⟩, _, u₂, hpush, ?_⟩
  unfold Returns
  rw [detect_bare]
  exact hv

end

/-- Over every run, and with the same clock readings and faults, an engine with a detector
keeps the replay windows of the engine without it, and every call of it that returns denies
the frame as `quarantined` or gives the answer of the engine without it. -/
theorem detector_conservative [Sodium] [JsonLib] (en : Engine) (calls : List (Env × Bytes))
    (s : EngineState) :
    (run en.bare.feed s calls).windows = (run en.feed s calls).windows ∧
    ∀ env frameBytes,
      (env.NoFault → Total (en.handleFrameBytes env frameBytes) (run en.feed s calls) ∧
        Total (en.bare.handleFrameBytes env frameBytes) (run en.bare.feed s calls)) ∧
      ∀ r t, Returns (en.handleFrameBytes env frameBytes) (run en.feed s calls) r t →
        r = createDeniedResult "quarantined" ∨ ∃ u,
          Returns (en.bare.handleFrameBytes env frameBytes) (run en.bare.feed s calls) r u := by
  have hwindows : (run en.bare.feed s calls).windows = (run en.feed s calls).windows := by
    refine run_related (R := fun u v : EngineState => v.windows = u.windows) ?_ rfl calls
    intro u v call huv
    unfold feed
    rw [windows_after_handleFrameBytes, windows_after_handleFrameBytes, huv]
    rfl
  refine ⟨hwindows, fun env frameBytes => ⟨fun henv => ?_, fun r t h => ?_⟩⟩
  · exact ⟨handleFrameBytes_total en henv _ _, handleFrameBytes_total en.bare henv _ _⟩
  · exact returns_bare hwindows h

end AccessSecurity.Decision.Engine
