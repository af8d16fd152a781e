import AccessSecurity.Decision.Outcome

/-!
# Complete mediation

`Authorized` collects every check on the way to a grant, over all three classes that make
the decision: what holds of the bytes, of the reader, of the card and of the door. A
frame is granted exactly when it is authorized (`complete_mediation`).
-/

namespace AccessSecurity.Decision.Engine

open Foundation Protocol Crypto Core

section

variable [Sodium]

/-- The role of a card for a reader whose current key version is `cur`: under the pepper
of that version, or else of the version before. -/
def HasRole (en : Engine) (store : AccessStore) (cur : UInt32) (cardId role : Bytes) : Prop :=
  if en.frameHandlerCfg.pepperMode = "static" then
    store.roleForCardHmac (en.keyManager.cardHmac 1 cardId) = some role
  else
    store.roleForCardHmac (en.keyManager.cardHmac cur cardId) = some role ∨
      (store.roleForCardHmac (en.keyManager.cardHmac cur cardId) = none ∧
        en.frameHandlerCfg.allowPreviousKeyVersion = true ∧ 1 < cur.toNat ∧
        store.roleForCardHmac (en.keyManager.cardHmac (cur - 1) cardId) = some role)

theorem roleOf_eq_some_iff {en : Engine} {store : AccessStore} {cur : UInt32}
    {cardId role : Bytes} :
    en.roleOf store cur cardId = some role ↔ en.HasRole store cur cardId role := by
  unfold roleOf HasRole
  split_ifs with hstatic hprev
  · rfl
  · rw [UInt32.lt_iff_toNat_lt] at hprev
    simp only [Option.or_eq_some_iff, hprev.1, true_and]
    exact or_congr_right (and_congr_right fun _ => ⟨fun h => ⟨hprev.2, h⟩, fun h => h.2⟩)
  · rw [UInt32.lt_iff_toNat_lt] at hprev
    simp only [Option.or_none]
    refine ⟨.inl, fun h => h.resolve_right ?_⟩
    rintro ⟨-, hallow, hcur, -⟩
    exact hprev ⟨hallow, hcur⟩

/-- The detector lets a frame pass. -/
structure Cleared (en : Engine) (readers : Readers) (header : Header) : Prop where
  notQuarantined : readers.isQuarantined header.readerId = false
  noRollback : 0 < header.seq →
    (readers.getState header.readerId).rollsBack en.config header.seq = false
  nonce : en.frameHandlerCfg.nonceMode = "deterministic" →
    header.nonce.toList.take (nonceLenFor (.ofString en.frameHandlerCfg.cipherMode)) =
      (en.nonceFor header).toList.take (nonceLenFor (.ofString en.frameHandlerCfg.cipherMode))

theorem screen_eq_false_iff {en : Engine} {now : ClockSite → UInt64} {readers : Readers}
    {header : Header} : (en.screen now readers header).1 = false ↔
    (en.detectorActive = true → en.Cleared readers header) := by
  have hnonce : en.nonceOk header = true ↔ (en.frameHandlerCfg.nonceMode = "deterministic" →
      header.nonce.toList.take (nonceLenFor (.ofString en.frameHandlerCfg.cipherMode)) =
        (en.nonceFor header).toList.take
          (nonceLenFor (.ofString en.frameHandlerCfg.cipherMode))) := by
    simp [nonceOk, nonceEqual, imp_iff_not_or]
  have hroll : en.rollsBack readers header = false ↔ (0 < header.seq →
      (readers.getState header.readerId).rollsBack en.config header.seq = false) := by
    simp [rollsBack]
  unfold screen
  split_ifs with hactive hquar hback hok
  · simp [hactive]
  · refine iff_of_false (by simp) fun h => ?_
    simpa [hquar] using (h (by simpa using hactive)).notQuarantined
  · refine iff_of_false (by simp) fun h => ?_
    simpa [hback] using hroll.mpr (h (by simpa using hactive)).noRollback
  · exact iff_of_true rfl fun _ => ⟨by simpa using hquar, hroll.mp (by simpa using hback),
      hnonce.mp hok⟩
  · exact iff_of_false (by simp) fun h => hok (hnonce.mpr (h (by simpa using hactive)).nonce)

/-- The requests the policy grants. -/
theorem policy_allow_iff {en : Engine} {header : Header} {request : AccessRequest} :
    (en.policy header request).allow = true ↔
    ∃ store role, en.store = some store ∧ request.action = bytesOf "open" ∧
      store.currentKeyVersionForReader header.readerId ≠ 0 ∧
      en.HasRole store (store.currentKeyVersionForReader header.readerId) request.cardId role ∧
      store.isAllowed header.doorId role = true := by
  unfold policy
  by_cases haction : request.action = bytesOf "open"
  · cases hstore : en.store with
    | none => simp [haction, createDeniedResult]
    | some store =>
      by_cases hzero : store.currentKeyVersionForReader header.readerId = 0
      · simp [haction, hzero, createDeniedResult]
      · simp only [← roleOf_eq_some_iff]
        cases hrole : en.roleOf store (store.currentKeyVersionForReader header.readerId)
            request.cardId with
        | none => simp [haction, hzero, hrole, createDeniedResult]
        | some role =>
          by_cases hallowed : store.isAllowed header.doorId role = true
          · simp [haction, hzero, hrole, hallowed]
          · simp [haction, hzero, hrole, hallowed, createDeniedResult]
  · simp [haction, createDeniedResult]

variable [JsonLib]

/-- Everything that must hold of a frame, and of the card in it, to be granted. -/
structure Authorized (en : Engine) (now : ClockSite → UInt64) (s : EngineState)
    (frameBytes : Bytes) (frame : Frame) (store : AccessStore) (plaintext : Bytes)
    (members : List (Bytes × Json)) (cardId role : Bytes) : Prop where
  parses : parseFrame frameBytes en.frameHandlerCfg.maxCtLen = .ok frame
  store_eq : en.store = some store
  registered : store.currentKeyVersionForReader frame.header.readerId ≠ 0
  bound : en.frameHandlerCfg.enforceReaderDoorBinding = true →
    store.isReaderAllowedDoor frame.header.readerId frame.header.doorId = true
  keyVersion : frame.header.keyVersion = store.currentKeyVersionForReader frame.header.readerId ∨
    (en.frameHandlerCfg.allowPreviousKeyVersion = true ∧
      1 < (store.currentKeyVersionForReader frame.header.readerId).toNat ∧
      frame.header.keyVersion.toNat + 1 =
        (store.currentKeyVersionForReader frame.header.readerId).toNat)
  fresh : en.frameHandlerCfg.antiReplayEnabled = true →
    s.windows.contains frame.header.readerId frame.header.seq = false
  opens : aeadOpen (.ofString en.frameHandlerCfg.cipherMode)
    (if en.frameHandlerCfg.keyDerivationMode = "direct" then en.keyManager.masterAsAeadKey
      else en.keyManager.aeadKey frame.header.readerId frame.header.keyVersion)
    (effectiveNonce (.ofString en.frameHandlerCfg.cipherMode) frame.header.nonce)
    (if en.frameHandlerCfg.aadMode ≠ "none" then frame.header.toBytes else [])
    frame.ct frame.tag = some plaintext
  inTime : en.frameHandlerCfg.maxSkewMs ≠ 0 →
    (((now .skewCheck).toNat : Int) - frame.header.tsUnixMs.toNat).natAbs ≤
      en.frameHandlerCfg.maxSkewMs.toNat
  isObject : JsonLib.parse plaintext = .ok (.object members)
  card : Json.stringAt members "card_id" = some cardId ∧ cardId ≠ []
  action : Json.stringAt members "action" = some (bytesOf "open")
  hasRole : en.HasRole store (store.currentKeyVersionForReader frame.header.readerId) cardId role
  allowed : store.isAllowed frame.header.doorId role = true
  cleared : en.detectorActive = true → en.Cleared s.readers frame.header

/-- The verdicts of the handler that lead to a grant. -/
theorem decide_allow_iff {en : Engine} {res : HandleResult} :
    (en.decide res).allow = true ↔ res.allow = true ∧ ∃ request,
      parseAccessRequestJson res.plaintext = .ok request ∧
        (en.policy res.header request).allow = true := by
  unfold decide
  cases res.allow with
  | false => simp [createDeniedResult]
  | true =>
    cases parseAccessRequestJson res.plaintext with
    | error e => simp [createDeniedResult]
    | ok request => simp

theorem authorized_iff {en : Engine} {now : ClockSite → UInt64} {s : EngineState}
    {frameBytes : Bytes} {frame : Frame} {store : AccessStore} {plaintext : Bytes}
    {members : List (Bytes × Json)} {cardId role : Bytes} :
    en.Authorized now s frameBytes frame store plaintext members cardId role ↔
    parseFrame frameBytes en.frameHandlerCfg.maxCtLen = .ok frame ∧
      en.handler.Passes (now .skewCheck) s.windows frame store plaintext ∧
      (JsonLib.parse plaintext = .ok (.object members) ∧
        (Json.stringAt members "card_id" = some cardId ∧ cardId ≠ []) ∧
        Json.stringAt members "action" = some (bytesOf "open")) ∧
      (en.HasRole store (store.currentKeyVersionForReader frame.header.readerId) cardId role ∧
        store.isAllowed frame.header.doorId role = true) ∧
      (en.detectorActive = true → en.Cleared s.readers frame.header) := by
  constructor
  · intro h
    exact ⟨h.parses,
      ⟨h.store_eq, h.registered, h.bound, FrameHandler.keyOk_iff.mpr h.keyVersion, h.fresh,
        h.opens, FrameHandler.skew_eq_none_iff.mpr h.inTime⟩,
      ⟨h.isObject, h.card, h.action⟩, ⟨h.hasRole, h.allowed⟩, h.cleared⟩
  · rintro ⟨hparse, hpasses, ⟨hobject, hcard, haction⟩, ⟨hrole, hallowed⟩, hcleared⟩
    exact ⟨hparse, hpasses.store_eq, hpasses.registered, hpasses.bound,
      FrameHandler.keyOk_iff.mp hpasses.keyVersion, hpasses.fresh, hpasses.opens,
      FrameHandler.skew_eq_none_iff.mp hpasses.inTime, hobject, hcard, haction, hrole, hallowed,
      hcleared⟩

theorem allow_iff_authorized {en : Engine} {env : Env} {frameBytes : Bytes} {s t : EngineState}
    {r : DecisionResult} (h : Returns (en.handleFrameBytes env frameBytes) s r t) :
    r.allow = true ↔ ∃ frame store plaintext members cardId role,
      en.Authorized env.now s frameBytes frame store plaintext members cardId role := by
  rw [(returns_handleFrameBytes h).answer]
  unfold answer verdict
  constructor
  · intro hallow
    split_ifs at hallow with hscreen
    · simp [createDeniedResult] at hallow
    obtain ⟨hres, request, hpayload, hpolicy⟩ := decide_allow_iff.mp hallow
    obtain ⟨frame, plaintext, hparse, store, hpasses⟩ := FrameHandler.accepts_of_allow hres
    have hverdict := FrameHandler.Accepts.verdict ⟨hparse, store, hpasses⟩
    rw [hverdict] at hscreen hpayload hpolicy
    obtain ⟨members, hobject, hcard, haction, hne, -⟩ := parseAccessRequestJson_ok_iff.mp hpayload
    obtain ⟨store', role, hstore, hopen, -, hrole, hallowed⟩ := policy_allow_iff.mp hpolicy
    obtain rfl : store' = store := Option.some.inj (hstore.symm.trans hpasses.store_eq)
    exact ⟨frame, store', plaintext, members, request.cardId, role, authorized_iff.mpr
      ⟨hparse, hpasses, ⟨hobject, ⟨hcard, hne⟩, hopen ▸ haction⟩, ⟨hrole, hallowed⟩,
        screen_eq_false_iff.mp (by simpa using hscreen)⟩⟩
  · rintro ⟨frame, store, plaintext, members, cardId, role, hauth⟩
    obtain ⟨hparse, hpasses, ⟨hobject, ⟨hcard, hne⟩, haction⟩, ⟨hrole, hallowed⟩, hcleared⟩ :=
      authorized_iff.mp hauth
    have hverdict := FrameHandler.Accepts.verdict ⟨hparse, store, hpasses⟩
    have hopen : bytesOf "open" ≠ [] := by decide
    have hpayload : parseAccessRequestJson plaintext = .ok ⟨cardId, bytesOf "open"⟩ :=
      parseAccessRequestJson_ok_iff.mpr ⟨members, hobject, hcard, haction, hne, hopen⟩
    rw [hverdict, if_neg (by simp [screen_eq_false_iff.mpr hcleared]), decide_allow_iff]
    exact ⟨rfl, _, hpayload, policy_allow_iff.mpr
      ⟨store, role, hpasses.store_eq, rfl, hpasses.registered, hrole, hallowed⟩⟩

/-- Complete mediation: a call grants access exactly when every check passes, and only a
failing database access keeps it from answering. -/
theorem complete_mediation (en : Engine) (env : Env) (frameBytes : Bytes) (s : EngineState) :
    (∀ r t, Returns (en.handleFrameBytes env frameBytes) s r t →
      (r.allow = true ↔ ∃ frame store plaintext members cardId role,
        en.Authorized env.now s frameBytes frame store plaintext members cardId role)) ∧
    (env.NoFault → Total (en.handleFrameBytes env frameBytes) s) :=
  ⟨fun _ _ h => allow_iff_authorized h,
    fun henv => handleFrameBytes_total en henv frameBytes s⟩

end

theorem complete_mediation_permissive :
    letI : Sodium := .transparent
    letI : JsonLib := .requests
    ∃ frameBytes frame store plaintext members cardId role,
      permissive.Authorized Env.quiet.now .initial frameBytes frame store plaintext members
        cardId role := by
  let _ : Sodium := .transparent
  let _ : JsonLib := .requests
  obtain ⟨hiff, htotal⟩ := complete_mediation permissive .quiet (serialize knock) .initial
  obtain ⟨r, t, h⟩ := htotal Env.quiet_noFault
  have hr : r = { allow := true, reason := "ok" } := by
    rw [(returns_handleFrameBytes h).answer]
    decide +kernel
  exact ⟨serialize knock, (hiff r t h).mp (by rw [hr])⟩

end AccessSecurity.Decision.Engine
