import Mathlib.Data.Set.Function
import AccessSecurity.Decision.Policy
import AccessSecurity.Foundation.Since
import AccessSecurity.Storage.AccessStore

/-!
# Enrolling and deleting cards

`cards_service.cpp`. A card has one row for each key version it was enrolled under, and a
deletion removes the row of one HMAC. The engine looks for a card under one or two versions,
so it resolves no role exactly when none of these rows is left (`revoked_iff`).
-/

namespace AccessSecurity.Admin

open Foundation Crypto Core Decision Storage

section

variable [Sodium]

section

variable (km : KeyManager) (currentKeyVersion : UInt32)

/-- The HMAC that is answered, and the tables. -/
def upsertCard (cardId role : Bytes) (keyVersion : Option UInt32) (db : AccessDb) :
    Except Exn (Bytes × AccessDb) := do
  let kv := keyVersion.getD currentKeyVersion
  let pepper ← km.deriveCardPepper kv
  let hmacHex ← CardIdHasher.hmacHex ⟨pepper⟩ cardId
  return (hmacHex, SqliteAccessStore.upsertCardHmac hmacHex role db)

def deleteCard (cardHmac : Bytes) (db : AccessDb) : AccessDb :=
  SqliteAccessStore.deleteCardHmac cardHmac db

inductive CardOp where
  | upsertCard (cardId role : Bytes) (keyVersion : Option UInt32)
  | deleteCard (cardHmac : Bytes)
  deriving DecidableEq, Repr

/-- The tables after an operation, also when it throws. -/
def cardStep (db : AccessDb) : CardOp → AccessDb
  | .upsertCard cardId role keyVersion =>
    match upsertCard km currentKeyVersion cardId role keyVersion db with
    | .ok (_, db') => db'
    | .error _ => db
  | .deleteCard cardHmac => deleteCard cardHmac db

/-- The operation enrols the card under the key version. -/
def Enrols (version : UInt32) (cardId : Bytes) (op : CardOp) : Prop :=
  ∃ role keyVersion, op = .upsertCard cardId role keyVersion ∧
    keyVersion.getD currentKeyVersion = version

/-- The card was enrolled under the version and that row was not deleted since. -/
def LeftEnrolled (ops : List CardOp) (version : UInt32) (cardId : Bytes) : Prop :=
  Since (fun _ op => Enrols currentKeyVersion version cardId op)
    (· = .deleteCard (km.cardHmac version cardId)) ops

end

/-- The key versions under which the engine looks for a card. -/
def consulted (en : Engine) (currentKv : UInt32) : List UInt32 :=
  if en.frameHandlerCfg.pepperMode = "static" then [1]
  else currentKv ::
    if en.frameHandlerCfg.allowPreviousKeyVersion ∧ 1 < currentKv then [currentKv - 1] else []

/-- The versions and cards whose HMACs meet in a lookup: those enrolled, and those that are
looked up. -/
def involved (en : Engine) (currentKeyVersion : UInt32) (ops : List CardOp) (currentKv : UInt32)
    (cardId : Bytes) : Set (UInt32 × Bytes) :=
  {pair | (∃ op ∈ ops, Enrols currentKeyVersion pair.1 pair.2 op) ∨
    (pair.1 ∈ consulted en currentKv ∧ pair.2 = cardId)}

/-! ## One operation -/

theorem upsertCard_ok {km : KeyManager} {currentKeyVersion : UInt32} {cardId role : Bytes}
    {keyVersion : Option UInt32} {db : AccessDb} (hcard : cardId ≠ [])
    (hkv : keyVersion.getD currentKeyVersion ≠ 0) :
    upsertCard km currentKeyVersion cardId role keyVersion db =
      .ok (km.cardHmac (keyVersion.getD currentKeyVersion) cardId,
        SqliteAccessStore.upsertCardHmac
          (km.cardHmac (keyVersion.getD currentKeyVersion) cardId) role db) := by
  unfold upsertCard
  exact KeyManager.hmac_bind km hkv hcard _

/-- Nothing is stored for the empty card or under version zero. -/
theorem upsertCard_error {km : KeyManager} {currentKeyVersion : UInt32} {cardId role : Bytes}
    {keyVersion : Option UInt32} {db : AccessDb}
    (h : cardId = [] ∨ keyVersion.getD currentKeyVersion = 0) :
    ∃ e, upsertCard km currentKeyVersion cardId role keyVersion db = .error e := by
  by_cases hkv : keyVersion.getD currentKeyVersion = 0
  · simp [upsertCard, hkv, KeyManager.deriveCardPepper, bind, Except.bind, throw, throwThe,
      MonadExceptOf.throw]
  · obtain rfl := h.resolve_right hkv
    simp only [upsertCard, KeyManager.deriveCardPepper_ok km hkv]
    exact ⟨_, rfl⟩

/-- The HMAC that an enrolment returns is that of the card under its version. -/
theorem cardHmac_of_upsertCard {km : KeyManager} {currentKeyVersion : UInt32}
    {cardId role cardHmac : Bytes} {keyVersion : Option UInt32} {db db' : AccessDb}
    (h : upsertCard km currentKeyVersion cardId role keyVersion db = .ok (cardHmac, db')) :
    cardId ≠ [] ∧ cardHmac = km.cardHmac (keyVersion.getD currentKeyVersion) cardId := by
  by_cases hbad : cardId = [] ∨ keyVersion.getD currentKeyVersion = 0
  · obtain ⟨e, he⟩ : ∃ e, upsertCard km currentKeyVersion cardId role keyVersion db = .error e :=
      upsertCard_error hbad
    rw [he] at h
    cases h
  · obtain ⟨hcard, hkv⟩ := not_or.mp hbad
    rw [upsertCard_ok hcard hkv] at h
    cases h
    exact ⟨hcard, rfl⟩

theorem cString_cardHmac (km : KeyManager) (version : UInt32) (cardId : Bytes) :
    cString (km.cardHmac version cardId) = km.cardHmac version cardId :=
  cString_eq_self.mpr (CardIdHasher.zero_notMem_toHex _)

/-- A row is there after an operation that enrols its card under its version, and after any
other but the deletion of its HMAC if it was there before. -/
theorem mem_cardStep {km : KeyManager} {currentKeyVersion version : UInt32} {cardId : Bytes}
    (hcard : cardId ≠ []) (hversion : version ≠ 0) {op : CardOp}
    (hdistinct : ∀ v c, Enrols currentKeyVersion v c op →
      km.cardHmac v c = km.cardHmac version cardId → v = version ∧ c = cardId)
    (db : AccessDb) :
    km.cardHmac version cardId ∈ (cardStep km currentKeyVersion db op).cards ↔
      Enrols currentKeyVersion version cardId op ∨
        (km.cardHmac version cardId ∈ db.cards ∧
          ¬ op = .deleteCard (km.cardHmac version cardId)) := by
  cases op with
  | deleteCard cardHmac =>
    simp [cardStep, deleteCard, SqliteAccessStore.deleteCardHmac, Enrols, and_comm, eq_comm]
  | upsertCard c role keyVersion =>
    have henrols : Enrols currentKeyVersion (keyVersion.getD currentKeyVersion) c
        (.upsertCard c role keyVersion) := ⟨role, keyVersion, rfl, rfl⟩
    have hiff : Enrols currentKeyVersion version cardId (.upsertCard c role keyVersion) ↔
        keyVersion.getD currentKeyVersion = version ∧ c = cardId := by
      constructor
      · rintro ⟨r, kv, heq, hv⟩
        cases heq
        exact ⟨hv, rfl⟩
      · rintro ⟨rfl, rfl⟩
        exact henrols
    rw [hiff]
    by_cases hbad : c = [] ∨ keyVersion.getD currentKeyVersion = 0
    · obtain ⟨e, he⟩ : ∃ e, upsertCard km currentKeyVersion c role keyVersion db = .error e :=
        upsertCard_error hbad
      simp only [cardStep, he]
      grind
    · obtain ⟨hc, hkv⟩ := not_or.mp hbad
      have hsame := hdistinct _ _ henrols
      simp only [cardStep, upsertCard_ok hc hkv, SqliteAccessStore.upsertCardHmac,
        cString_cardHmac, AList.mem_insert]
      grind

/-! ## Lookups -/

theorem roleOf_eq_none_iff (en : Engine) (db : AccessDb) (currentKv : UInt32) (cardId : Bytes) :
    en.roleOf db.answers currentKv cardId = none ↔
      ∀ v ∈ consulted en currentKv, en.keyManager.cardHmac v cardId ∉ db.cards := by
  have hrow : ∀ v, db.answers.roleForCardHmac (en.keyManager.cardHmac v cardId) = none ↔
      en.keyManager.cardHmac v cardId ∉ db.cards := by
    intro v
    rw [← AList.lookup_eq_none]
    exact Option.map_eq_none_iff
  unfold Engine.roleOf consulted
  split_ifs with hstatic hprev
  · simp [hrow]
  · simp [hrow]
  · simp [hrow]

omit [Sodium] in
theorem consulted_ne_zero {en : Engine} {currentKv : UInt32} (hkv : currentKv ≠ 0) {v : UInt32}
    (hv : v ∈ consulted en currentKv) : v ≠ 0 := by
  unfold consulted at hv
  split_ifs at hv with hstatic hprev
  · obtain rfl : v = 1 := by simpa using hv
    decide
  · rcases List.mem_pair.mp hv with rfl | rfl
    · exact hkv
    · exact Engine.sub_one_ne_zero hprev.2
  · obtain rfl : v = currentKv := by simpa using hv
    exact hkv

/-- The engine resolves no role for the card, whatever it meets on the way. -/
def ResolvesNone (en : Engine) (db : AccessDb) (currentKv : UInt32) (cardId : Bytes) : Prop :=
  ∀ env result, en.resolveCardHmac env db.answers cardId currentKv = .ok result → result.2 = none

theorem resolvesNone_iff {en : Engine} {db : AccessDb} {currentKv : UInt32} {cardId : Bytes}
    (hcard : cardId ≠ []) (hkv : currentKv ≠ 0) : ResolvesNone en db currentKv cardId ↔
      ∀ v ∈ consulted en currentKv, en.keyManager.cardHmac v cardId ∉ db.cards := by
  rw [← roleOf_eq_none_iff]
  constructor
  · intro hnone
    obtain ⟨result, hresult⟩ :=
      Engine.resolveCardHmac_total en Env.quiet_noFault db.answers hcard hkv
    rw [← (Engine.resolveCardHmac_ok hcard hkv hresult).1]
    exact hnone _ _ hresult
  · intro hrole env result hresult
    rw [(Engine.resolveCardHmac_ok hcard hkv hresult).1, hrole]

/-! ## Histories -/

/-- After any history a row is there when its card is left enrolled under its version. -/
theorem mem_cards_run_iff {km : KeyManager} {currentKeyVersion version : UInt32} {cardId : Bytes}
    (hcard : cardId ≠ []) (hversion : version ≠ 0) (ops : List CardOp)
    (hdistinct : ∀ op ∈ ops, ∀ v c, Enrols currentKeyVersion v c op →
      km.cardHmac v c = km.cardHmac version cardId → v = version ∧ c = cardId) :
    km.cardHmac version cardId ∈ (run (cardStep km currentKeyVersion) .empty ops).cards ↔
      LeftEnrolled km currentKeyVersion ops version cardId :=
  run_since_iff (P := fun db : AccessDb => km.cardHmac version cardId ∈ db.cards)
    (AList.notMem_empty _) ops fun _ op hop => mem_cardStep hcard hversion (hdistinct op hop) _

/-- After the HMAC that its last enrolment returned was deleted, a card has no role exactly
when it is not left enrolled under another key version that the lookup consults. -/
theorem revoked_iff (en : Engine) (currentKeyVersion currentKv : UInt32)
    {before after : List CardOp} {cardId role cardHmac : Bytes} {keyVersion : Option UInt32}
    {db : AccessDb}
    (hreturned : upsertCard en.keyManager currentKeyVersion cardId role keyVersion
      (run (cardStep en.keyManager currentKeyVersion) .empty before) = .ok (cardHmac, db))
    (hlatest : ∀ version, ∀ op ∈ after, ¬ Enrols currentKeyVersion version cardId op)
    (hdeleted : .deleteCard cardHmac ∈ after) (hkv : currentKv ≠ 0)
    (hdistinct : Set.InjOn (fun pair => en.keyManager.cardHmac pair.1 pair.2)
      (involved en currentKeyVersion (before ++ .upsertCard cardId role keyVersion :: after)
        currentKv cardId)) :
    ResolvesNone en (run (cardStep en.keyManager currentKeyVersion) .empty
        (before ++ .upsertCard cardId role keyVersion :: after)) currentKv cardId ↔
      ∀ v ∈ consulted en currentKv, v ≠ keyVersion.getD currentKeyVersion →
        ¬ LeftEnrolled en.keyManager currentKeyVersion
          (before ++ .upsertCard cardId role keyVersion :: after) v cardId := by
  obtain ⟨hcard, rfl⟩ := cardHmac_of_upsertCard hreturned
  have hgone : ¬ LeftEnrolled en.keyManager currentKeyVersion
      (before ++ .upsertCard cardId role keyVersion :: after)
      (keyVersion.getD currentKeyVersion) cardId := by
    rw [← List.singleton_append, ← List.append_assoc]
    exact not_since_append (fun _ op hop => hlatest _ op hop) ⟨_, hdeleted, rfl⟩
  rw [resolvesNone_iff hcard hkv]
  refine forall₂_congr fun v hv => ?_
  rw [mem_cards_run_iff hcard (consulted_ne_zero hkv hv)]
  · constructor
    · exact fun hleft _ => hleft
    · intro hleft
      by_cases hsame : v = keyVersion.getD currentKeyVersion
      · rwa [hsame]
      · exact hleft hsame
  · intro op hop w c henrols hsame
    have hw : (w, c) ∈ involved en currentKeyVersion
        (before ++ .upsertCard cardId role keyVersion :: after) currentKv cardId :=
      .inl ⟨op, hop, henrols⟩
    have hlookup : (v, cardId) ∈ involved en currentKeyVersion
        (before ++ .upsertCard cardId role keyVersion :: after) currentKv cardId := .inr ⟨hv, rfl⟩
    exact Prod.mk.inj (hdistinct hw hlookup hsame)

end

/-! ## A card that was enrolled twice -/

def sampleCard : Bytes := bytesOf "card"

/-- Enrolled under version two only, then deleted. -/
theorem revoked_iff_once :
    letI : Sodium := .keyed
    ResolvesNone .permissive (run (cardStep ⟨zeros 32⟩ 2) .empty
      ([] ++ .upsertCard sampleCard (bytesOf "user") none ::
        [.deleteCard (KeyManager.cardHmac ⟨zeros 32⟩ 2 sampleCard)])) 2 sampleCard := by
  let _ : Sodium := .keyed
  have hcard : sampleCard ≠ [] := by decide +kernel
  have hpairs : ∀ pair ∈ involved .permissive 2
      ([] ++ .upsertCard sampleCard (bytesOf "user") none ::
        [.deleteCard (KeyManager.cardHmac ⟨zeros 32⟩ 2 sampleCard)]) 2 sampleCard,
      pair = (2, sampleCard) ∨ pair = (1, sampleCard) := by
    rintro ⟨v, c⟩ (⟨op, hop, role, keyVersion, rfl, hv⟩ | ⟨hv, rfl⟩)
    · simp only [List.nil_append, List.mem_cons, CardOp.upsertCard.injEq, reduceCtorEq,
        List.not_mem_nil, or_false] at hop
      obtain ⟨rfl, -, rfl⟩ := hop
      exact .inl (Prod.ext hv.symm rfl)
    · have hv' : v ∈ [(2 : UInt32), 1] := hv
      rcases List.mem_pair.mp hv' with rfl | rfl
      · exact .inl rfl
      · exact .inr rfl
  refine (revoked_iff .permissive 2 2 (upsertCard_ok hcard (by decide)) ?_ ?_ ?_ ?_).mpr ?_
  · rintro version op hop ⟨role, keyVersion, rfl, -⟩
    simp at hop
  · exact List.mem_singleton_self _
  · decide
  · rintro p hp q hq hsame
    have hne : KeyManager.cardHmac ⟨zeros 32⟩ 2 sampleCard ≠
        KeyManager.cardHmac ⟨zeros 32⟩ 1 sampleCard := by
      decide +kernel
    rcases hpairs p hp with rfl | rfl
    · rcases hpairs q hq with rfl | rfl
      · rfl
      · exact absurd hsame hne
    · rcases hpairs q hq with rfl | rfl
      · exact absurd hsame.symm hne
      · rfl
  · rintro v - hne ⟨before, op, after, hops, ⟨role, keyVersion, rfl, hv⟩, -⟩
    have hmem : CardOp.upsertCard sampleCard role keyVersion ∈
        [CardOp.upsertCard sampleCard (bytesOf "user") none,
          .deleteCard (KeyManager.cardHmac ⟨zeros 32⟩ 2 sampleCard)] := by
      rw [← List.nil_append (CardOp.upsertCard _ _ _ :: _), hops]
      simp
    simp only [List.mem_cons, CardOp.upsertCard.injEq, reduceCtorEq, List.not_mem_nil,
      or_false] at hmem
    obtain ⟨-, -, rfl⟩ := hmem
    exact hne hv.symm

/-- Enrolled under version one, and again after a rotation under version two. When the HMAC
of the second enrolment is deleted, the lookup falls back to the first row. -/
theorem revoked_card_resolves :
    letI : Sodium := .keyed
    let ops : List CardOp := [.upsertCard sampleCard (bytesOf "user") (some 1),
      .upsertCard sampleCard (bytesOf "user") none,
      .deleteCard (KeyManager.cardHmac ⟨zeros 32⟩ 2 sampleCard)]
    KeyManager.cardHmac ⟨zeros 32⟩ 1 sampleCard ≠ KeyManager.cardHmac ⟨zeros 32⟩ 2 sampleCard ∧
      ¬ ResolvesNone .permissive (run (cardStep ⟨zeros 32⟩ 2) .empty ops) 2 sampleCard := by
  let _ : Sodium := .keyed
  refine ⟨by decide +kernel, fun hnone => ?_⟩
  have hresolved : Engine.permissive.resolveCardHmac .quiet
      (run (cardStep ⟨zeros 32⟩ 2) .empty [.upsertCard sampleCard (bytesOf "user") (some 1),
        .upsertCard sampleCard (bytesOf "user") none,
        .deleteCard (KeyManager.cardHmac ⟨zeros 32⟩ 2 sampleCard)]).answers sampleCard 2 =
      .ok (KeyManager.cardHmac ⟨zeros 32⟩ 1 sampleCard, some (bytesOf "user")) := by
    decide +kernel
  exact absurd (hnone _ _ hresolved) (by simp)

end AccessSecurity.Admin
