import AccessSecurity.Core.Verdict
import AccessSecurity.Decision.Engine

/-!
# Access policy

What the store's tables prescribe for a request (`policy`), and that the engine's policy
check answers exactly this. Audit log and event bus never influence an answer: writing
to them leaves the rest of the state alone.
-/

namespace AccessSecurity.Decision.Engine

open Foundation Protocol Crypto Core

/-! ## Logging leaves the rest alone -/

/-- The state up to the audit log and the event bus. -/
def SameControl (s t : EngineState) : Prop := t.windows = s.windows ∧ t.readers = s.readers

theorem SameControl.refl (s : EngineState) : SameControl s s := ⟨rfl, rfl⟩

theorem SameControl.trans {s t u : EngineState} (h : SameControl s t) (h' : SameControl t u) :
    SameControl s u :=
  ⟨h'.1.trans h.1, h'.2.trans h.2⟩

theorem push_control {en : Engine} {ev : Event} {s t : EngineState} {a : Unit}
    (h : Returns (en.push ev) s a t) : SameControl s t := by
  unfold push at h
  split at h
  · rw [returns_modify] at h
    subst h
    exact ⟨rfl, rfl⟩
  · obtain ⟨-, rfl⟩ := returns_pure.mp h
    exact .refl _

theorem push_total (en : Engine) (ev : Event) (s : EngineState) : Total (en.push ev) s := by
  unfold push
  split_ifs
  · exact total_modify _ _
  · exact total_pure _ _

theorem log_control {en : Engine} {env : Env} {header : Header} {allow : Bool} {reason : String}
    {cardId action : Bytes} {s t : EngineState} {a : Unit}
    (h : Returns (en.logAuditEvent env header allow reason cardId action) s a t) :
    SameControl s t := by
  unfold logAuditEvent at h
  split at h
  · simp only [returns_bind, returns_lift, returns_modify] at h
    obtain ⟨_, u, ⟨-, rfl⟩, _, v, rfl, h⟩ := h
    obtain ⟨hwindows, hreaders⟩ := push_control h
    exact ⟨hwindows, hreaders⟩
  · obtain ⟨-, rfl⟩ := returns_pure.mp h
    exact .refl _

theorem log_total (en : Engine) {env : Env} (henv : env.NoFault) (header : Header)
    (allow : Bool) (reason : String) (cardId action : Bytes) (s : EngineState) :
    Total (en.logAuditEvent env header allow reason cardId action) s := by
  unfold logAuditEvent
  split_ifs
  · refine total_bind (total_lift (henv.access _ _) _) fun _ _ _ => ?_
    exact total_bind (total_modify _ _) fun _ _ _ => push_total _ _ _
  · exact total_pure _ _

theorem deny_result {en : Engine} {env : Env} {header : Header} {reason : String}
    {s t : EngineState} {r : DecisionResult} (h : Returns (en.deny env header reason) s r t) :
    r = createDeniedResult reason ∧ SameControl s t := by
  unfold deny at h
  simp only [returns_bind, returns_pure] at h
  obtain ⟨_, u, hlog, rfl, rfl⟩ := h
  exact ⟨rfl, log_control hlog⟩

theorem deny_total (en : Engine) {env : Env} (henv : env.NoFault) (header : Header)
    (reason : String) (s : EngineState) : Total (en.deny env header reason) s :=
  total_bind (log_total en henv header false reason [] [] s) fun _ _ _ => total_pure _ _

theorem report_result {α : Type} {readerId : UInt32} {op : ReaderState → α × ReaderState}
    {s t : EngineState} {a : α} : Returns (report readerId op) s a t ↔
    a = (op (s.readers.getState readerId)).1 ∧
      t = { s with readers := (s.readers.report readerId op).2 } := by
  unfold report
  simp only [returns_bind, returns_get, returns_modify, returns_pure]
  constructor
  · rintro ⟨_, _, ⟨rfl, rfl⟩, _, _, rfl, rfl, rfl⟩
    exact ⟨rfl, rfl⟩
  · rintro ⟨rfl, rfl⟩
    exact ⟨s, s, ⟨rfl, rfl⟩, (), _, rfl, rfl, rfl⟩

/-! ## Access policy -/

theorem checkRoleAccess_ok {env : Env} {store : AccessStore} {doorId : UInt32} {role : Bytes}
    {r : DecisionResult} (h : checkRoleAccess env store doorId role = .ok r) :
    r = if store.isAllowed doorId role then { allow := true, reason := "ok" }
      else createDeniedResult "forbidden" := by
  unfold checkRoleAccess at h
  rw [except_bind_ok] at h
  obtain ⟨allowed, haccess, h⟩ := h
  obtain ⟨rfl, -⟩ := Env.access_ok haccess
  split_ifs at h with hallowed
  · simpa [hallowed] using except_pure_ok.mp h
  · simpa [hallowed, createDeniedResult] using except_pure_ok.mp h

theorem sub_one_ne_zero {kv : UInt32} (h : 1 < kv) : kv - 1 ≠ 0 := by
  intro heq
  rw [UInt32.lt_iff_toNat_lt] at h
  have hsub : (kv - 1).toNat = kv.toNat - 1 :=
    UInt32.toNat_sub_of_le _ _ (by rw [UInt32.le_iff_toNat_le]; exact h.le)
  rw [heq] at hsub
  simp at hsub h
  omega

variable [Sodium]

/-- The role of a card for a reader at key version `currentKv`. -/
def roleOf (en : Engine) (store : AccessStore) (currentKv : UInt32) (cardId : Bytes) :
    Option Bytes :=
  if en.frameHandlerCfg.pepperMode = "static" then
    store.roleForCardHmac (en.keyManager.cardHmac 1 cardId)
  else
    (store.roleForCardHmac (en.keyManager.cardHmac currentKv cardId)).or
      (if en.frameHandlerCfg.allowPreviousKeyVersion ∧ 1 < currentKv then
        store.roleForCardHmac (en.keyManager.cardHmac (currentKv - 1) cardId)
      else none)

/-- What the store's tables prescribe for a request. -/
def policy (en : Engine) (header : Header) (request : AccessRequest) : DecisionResult :=
  if request.action ≠ bytesOf "open" then createDeniedResult "bad_action"
  else
    match en.store with
    | none => createDeniedResult "no_store"
    | some store =>
      let currentKv := store.currentKeyVersionForReader header.readerId
      if currentKv = 0 then createDeniedResult "unknown_reader"
      else
        match en.roleOf store currentKv request.cardId with
        | none => createDeniedResult "unknown_card"
        | some role =>
          if store.isAllowed header.doorId role then { allow := true, reason := "ok" }
          else createDeniedResult "forbidden"

/-- The lookup in terms of the store alone, for a card and a version that have an HMAC. -/
theorem resolveCardHmac_eq (en : Engine) (env : Env) (store : AccessStore) {cardId : Bytes}
    {currentKv : UInt32} (hcard : cardId ≠ []) (hkv : currentKv ≠ 0) :
    en.resolveCardHmac env store cardId currentKv =
      (if en.frameHandlerCfg.pepperMode = "static" then do
        let role ← env.access .cardRole
          (store.roleForCardHmac (en.keyManager.cardHmac 1 cardId))
        return (en.keyManager.cardHmac 1 cardId, role)
      else do
        let role ← env.access .cardRole
          (store.roleForCardHmac (en.keyManager.cardHmac currentKv cardId))
        if role.isNone ∧ en.frameHandlerCfg.allowPreviousKeyVersion ∧ 1 < currentKv then
          let rolePrev ← env.access .previousCardRole
            (store.roleForCardHmac (en.keyManager.cardHmac (currentKv - 1) cardId))
          return (if rolePrev.isSome then en.keyManager.cardHmac (currentKv - 1) cardId
            else en.keyManager.cardHmac currentKv cardId, rolePrev)
        else return (en.keyManager.cardHmac currentKv cardId, role)) := by
  unfold resolveCardHmac
  split_ifs with hstatic
  · exact KeyManager.hmac_bind _ (by decide) hcard _
  · rw [KeyManager.hmac_bind _ hkv hcard]
    congr 1
    funext role
    split_ifs with hprev
    · exact KeyManager.hmac_bind _ (sub_one_ne_zero hprev.2.2) hcard _
    · rfl

/-- The role is that of the card; the HMAC that is logged belongs to the card, and it is the
one the role was found under. -/
theorem resolveCardHmac_ok {en : Engine} {env : Env} {store : AccessStore} {cardId : Bytes}
    {currentKv : UInt32} {result : Bytes × Option Bytes} (hcard : cardId ≠ [])
    (hkv : currentKv ≠ 0) (h : en.resolveCardHmac env store cardId currentKv = .ok result) :
    result.2 = en.roleOf store currentKv cardId ∧
      (∃ keyVersion, result.1 = en.keyManager.cardHmac keyVersion cardId) ∧
      ∀ role, result.2 = some role → store.roleForCardHmac result.1 = some role := by
  rw [resolveCardHmac_eq en env store hcard hkv] at h
  unfold roleOf
  split_ifs at h ⊢ with hstatic hprev
  · simp only [except_bind_ok, except_pure_ok] at h
    obtain ⟨role, hrole, rfl⟩ := h
    obtain ⟨rfl, -⟩ := Env.access_ok hrole
    exact ⟨rfl, ⟨1, rfl⟩, fun _ hsome => hsome⟩
  · obtain ⟨role, hrole, h⟩ := except_bind_ok.mp h
    obtain ⟨rfl, -⟩ := Env.access_ok hrole
    cases hcur : store.roleForCardHmac (en.keyManager.cardHmac currentKv cardId) with
    | some role =>
      simp only [hcur, Option.isNone_some, Bool.false_eq_true, false_and, if_false,
        except_pure_ok] at h
      subst h
      exact ⟨rfl, ⟨currentKv, rfl⟩, fun _ hsome => hcur.trans hsome⟩
    | none =>
      simp only [hcur, Option.isNone_none, hprev, and_self, if_true, except_bind_ok,
        except_pure_ok] at h
      obtain ⟨role, hrole, rfl⟩ := h
      obtain ⟨rfl, -⟩ := Env.access_ok hrole
      refine ⟨Option.none_or.symm, ?_, fun role hsome => ?_⟩
      · split_ifs
        · exact ⟨currentKv - 1, rfl⟩
        · exact ⟨currentKv, rfl⟩
      · dsimp only at hsome
        simp [hsome]
  · obtain ⟨role, hrole, h⟩ := except_bind_ok.mp h
    obtain ⟨rfl, -⟩ := Env.access_ok hrole
    simp only [hprev, and_false, if_false, except_pure_ok] at h
    subst h
    exact ⟨Option.or_none.symm, ⟨currentKv, rfl⟩, fun _ hsome => hsome⟩

theorem resolveCardHmac_total (en : Engine) {env : Env} (henv : env.NoFault)
    (store : AccessStore) {cardId : Bytes} {currentKv : UInt32} (hcard : cardId ≠ [])
    (hkv : currentKv ≠ 0) :
    ∃ result, en.resolveCardHmac env store cardId currentKv = .ok result := by
  rw [resolveCardHmac_eq en env store hcard hkv]
  simp only [henv.access, bind, Except.bind]
  split_ifs <;> exact ⟨_, rfl⟩

theorem checkAccessPolicy_result {en : Engine} {env : Env} {res : HandleResult}
    {request : AccessRequest} {s t : EngineState} {r : DecisionResult}
    (hcard : request.cardId ≠ []) (h : Returns (en.checkAccessPolicy env res request) s r t) :
    r = en.policy res.header request ∧ SameControl s t := by
  unfold checkAccessPolicy at h
  unfold policy
  split_ifs at h ⊢ with haction
  · exact deny_result h
  cases hstore : en.store with
  | none =>
    simp only [hstore] at h
    exact deny_result h
  | some store =>
    simp only [hstore, returns_bind, returns_lift] at h
    obtain ⟨kv, _, ⟨hkv, rfl⟩, h⟩ := h
    obtain ⟨rfl, -⟩ := Env.access_ok hkv
    dsimp only
    split_ifs at h ⊢ with hzero
    · exact deny_result h
    rw [returns_bind] at h
    obtain ⟨⟨cardHmac, role⟩, _, hlift, h⟩ := h
    obtain ⟨hresolve, rfl⟩ := returns_lift.mp hlift
    have hrole : role = _ := (resolveCardHmac_ok hcard hzero hresolve).1
    rw [← hrole]
    cases role with
    | none =>
      simp only [returns_bind, returns_pure] at h
      obtain ⟨_, u, hlog, rfl, rfl⟩ := h
      exact ⟨rfl, log_control hlog⟩
    | some role =>
      simp only [returns_bind, returns_lift, returns_pure] at h
      obtain ⟨result, _, ⟨haccess, rfl⟩, _, u, hlog, rfl, rfl⟩ := h
      exact ⟨checkRoleAccess_ok haccess, log_control hlog⟩

theorem checkAccessPolicy_total (en : Engine) {env : Env} (henv : env.NoFault)
    (res : HandleResult) {request : AccessRequest} (hcard : request.cardId ≠ [])
    (s : EngineState) : Total (en.checkAccessPolicy env res request) s := by
  unfold checkAccessPolicy
  split_ifs with haction
  · exact deny_total en henv _ _ s
  cases en.store with
  | none => exact deny_total en henv _ _ s
  | some store =>
    refine total_bind (total_lift (henv.access _ _) _) fun kv _ hkv => ?_
    split_ifs with hzero
    · exact deny_total en henv _ _ _
    obtain ⟨result, hresolve⟩ := resolveCardHmac_total en henv store hcard hzero
    refine total_bind (total_lift hresolve _) fun result _ _ => ?_
    obtain ⟨cardHmac, role⟩ := result
    cases role with
    | none => exact total_bind (log_total en henv _ _ _ _ _ _) fun _ _ _ => total_pure _ _
    | some role =>
      refine total_bind ?_ fun _ _ _ =>
        total_bind (log_total en henv _ _ _ _ _ _) fun _ _ _ => total_pure _ _
      unfold checkRoleAccess
      simp only [henv.access, bind, Except.bind]
      split_ifs <;> exact total_lift rfl _

end AccessSecurity.Decision.Engine
