import AccessSecurity.Decision.Policy

/-!
# What the parts of a call preserve

Each part of the engine keeps a property of the state that is not about what the part
touches: the policy touches the audit log and its events, the detector's checks touch one
reader and their events, and none of them publishes a decision. What is proved of a whole
call, about the detector, the log or the feed, is put together from these.
-/

namespace AccessSecurity.Decision.Engine

open Foundation Protocol Crypto Core

variable {P : EngineState → Prop}

/-! ## Logging -/

/-- The property is about neither the audit log nor the events that are not decisions. -/
structure Logless (P : EngineState → Prop) : Prop where
  audit : ∀ entries s, P s → P { s with audit := entries }
  events : ∀ ev s, ev.kind ≠ "decision" → P s → P { s with events := s.events ++ [ev] }

theorem Logless.of_control (hlog : ∀ s t, SameControl s t → P s → P t) : Logless P where
  audit _ s hs := hlog s _ ⟨rfl, rfl⟩ hs
  events _ s _ hs := hlog s _ ⟨rfl, rfl⟩ hs

theorem keeps_push (en : Engine) {ev : Event}
    (h : ∀ s, P s → P { s with events := s.events ++ [ev] }) : Keeps P (en.push ev) := by
  unfold push
  split_ifs
  · exact keeps_modify h
  · exact keeps_pure _

theorem push_keeps (hlog : ∀ s t, SameControl s t → P s → P t) (en : Engine) (ev : Event) :
    Keeps P (en.push ev) :=
  keeps_push en fun s hs => hlog s _ ⟨rfl, rfl⟩ hs

section

variable (h : Logless P)

include h

theorem logAuditEvent_keeps (en : Engine) (env : Env) (header : Header) (allow : Bool)
    (reason : String) (cardId action : Bytes) :
    Keeps P (en.logAuditEvent env header allow reason cardId action) := by
  unfold logAuditEvent
  split_ifs
  · refine keeps_bind (keeps_lift _) fun _ => ?_
    refine keeps_bind (keeps_modify fun s hs => h.audit _ s hs) fun _ => ?_
    exact keeps_push en fun s hs => h.events _ s (by simp) hs
  · exact keeps_pure _

theorem deny_keeps (en : Engine) (env : Env) (header : Header) (reason : String) :
    Keeps P (en.deny env header reason) :=
  keeps_bind (logAuditEvent_keeps h en env header false reason [] []) fun _ => keeps_pure _

theorem checkAccessPolicy_keeps [Sodium] (en : Engine) (env : Env) (res : HandleResult)
    (request : AccessRequest) : Keeps P (en.checkAccessPolicy env res request) := by
  unfold checkAccessPolicy
  split_ifs
  · exact deny_keeps h en env _ _
  cases en.store with
  | none => exact deny_keeps h en env _ _
  | some store =>
    refine keeps_bind (keeps_lift _) fun kv => ?_
    split_ifs
    · exact deny_keeps h en env _ _
    refine keeps_bind (keeps_lift _) fun ⟨cardHmac, role⟩ => ?_
    cases role with
    | none => exact keeps_bind (logAuditEvent_keeps h en env _ _ _ _ _) fun _ => keeps_pure _
    | some role =>
      refine keeps_bind (keeps_lift _) fun _ => ?_
      exact keeps_bind (logAuditEvent_keeps h en env _ _ _ _ _) fun _ => keeps_pure _

theorem checkPayload_keeps [Sodium] [JsonLib] (en : Engine) (env : Env) (res : HandleResult) :
    Keeps P (en.checkPayload env res) := by
  unfold checkPayload
  cases parseAccessRequestJson res.plaintext with
  | error e => exact deny_keeps h en env _ _
  | ok request => exact checkAccessPolicy_keeps h en env res request

end

/-! ## Reports to the detector -/

section

variable {readerId : UInt32} (hreport : ∀ {α : Type} (op : ReaderState → α × ReaderState) s,
  P s → P { s with readers := (s.readers.report readerId op).2 })

include hreport in
theorem report_keeps {α : Type} (op : ReaderState → α × ReaderState) :
    Keeps P (report readerId op) := by
  intro s hs
  rw [(report_result.mpr ⟨rfl, rfl⟩ : Returns (report readerId op) s _ _).after_eq]
  exact hreport op s hs

include hreport in
theorem reportAllowed_keeps (en : Engine) {res : HandleResult}
    (hreader : res.header.readerId = readerId) : Keeps P (en.reportAllowed res) := by
  subst hreader
  unfold reportAllowed
  split_ifs
  · exact report_keeps hreport _
  · exact keeps_pure _

variable (hevents : ∀ ev s, ev.kind ≠ "decision" → P s → P { s with events := s.events ++ [ev] })

include hevents

theorem publishFrameEvent_keeps (en : Engine) (env : Env) (frameSize : Nat) :
    Keeps P (en.publishFrameEvent env frameSize) :=
  keeps_push en fun s hs => hevents _ s (by simp) hs

theorem publishAnomalyEvent_keeps (en : Engine) (env : Env) (r : UInt32) (type : AnomalyType) :
    Keeps P (en.publishAnomalyEvent env r type) :=
  keeps_push en fun s hs => hevents _ s (by simp) hs

include hreport

theorem checkRollback_keeps (en : Engine) (env : Env) {header : Header}
    (hreader : header.readerId = readerId) : Keeps P (en.checkRollback env header) := by
  subst hreader
  unfold checkRollback
  split_ifs
  · refine keeps_bind (report_keeps hreport _) fun anomaly => ?_
    cases anomaly with
    | none => exact keeps_pure _
    | some anomaly =>
      exact keeps_bind (publishAnomalyEvent_keeps hevents en env _ _) fun _ => keeps_pure _
  · exact keeps_pure _

theorem checkNonce_keeps [Sodium] (en : Engine) (env : Env) {header : Header}
    (hreader : header.readerId = readerId) : Keeps P (en.checkNonce env header) := by
  subst hreader
  unfold checkNonce
  split_ifs
  · refine keeps_bind (keeps_lift _) fun expected => ?_
    split_ifs
    · exact keeps_pure _
    · exact keeps_bind (report_keeps hreport _) fun _ =>
        keeps_bind (publishAnomalyEvent_keeps hevents en env _ _) fun _ => keeps_pure _
  · exact keeps_pure _

theorem reportDenied_keeps (en : Engine) (env : Env) {res : HandleResult}
    (hreader : res.header.readerId = readerId) : Keeps P (en.reportDenied env res) := by
  subst hreader
  unfold reportDenied
  split_ifs
  · exact keeps_bind (report_keeps hreport _) fun _ =>
      publishAnomalyEvent_keeps hevents en env _ _
  · refine keeps_bind (report_keeps hreport _) fun anomaly => ?_
    cases anomaly with
    | none => exact keeps_pure _
    | some anomaly => exact publishAnomalyEvent_keeps hevents en env _ _
  · exact keeps_pure _
  · exact keeps_pure _

end

/-! ## The ways out -/

section

variable (hlog : ∀ s t, SameControl s t → P s → P t)

include hlog

theorem refuseQuarantined_keeps (en : Engine) (env : Env) (res : HandleResult) :
    Keeps P (en.refuseQuarantined env res) :=
  keeps_bind (logAuditEvent_keeps (.of_control hlog) en env _ _ _ _ _) fun _ =>
    keeps_bind (push_keeps hlog en _) fun _ => keeps_pure _

theorem finish_keeps [Sodium] [JsonLib] {readerId : UInt32}
    (hreport : ∀ {α : Type} (op : ReaderState → α × ReaderState) s,
      P s → P { s with readers := (s.readers.report readerId op).2 }) (en : Engine) (env : Env)
    {res : HandleResult} (hreader : res.header.readerId = readerId) :
    Keeps P (en.finish env res) := by
  have hlogless : Logless P := .of_control hlog
  refine keeps_bind (push_keeps hlog en _) fun _ => ?_
  split_ifs
  · exact keeps_bind (reportDenied_keeps hreport hlogless.events en env hreader) fun _ =>
      deny_keeps hlogless en env _ _
  · exact keeps_bind (reportAllowed_keeps hreport en hreader) fun _ =>
      checkPayload_keeps hlogless en env res

end

end AccessSecurity.Decision.Engine
