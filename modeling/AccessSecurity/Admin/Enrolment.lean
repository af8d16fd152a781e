import AccessSecurity.Admin.CardsService

/-!
# Enrolment and lookup

The cards service chooses the pepper of a new row by the configured key version, the engine
that of a lookup by the reader's key version and the pepper mode. `enrolment_found_iff` says
when the two meet: the service does not look at the pepper mode, while a static engine always
uses the pepper of version one.
-/

namespace AccessSecurity.Admin

open Foundation Crypto Core Decision Storage

section

variable [Sodium]

/-- The card has no row, under any key version. -/
def Unenrolled (km : KeyManager) (cardId : Bytes) (db : AccessDb) : Prop :=
  ∀ version, km.cardHmac version cardId ∉ db.cards

/-- Enrolling the card under the configured version succeeds, and the engine then finds its
role for a reader at that version. -/
def EnrolsAndFinds (en : Engine) (currentKeyVersion : UInt32) (cardId role : Bytes)
    (db : AccessDb) : Prop :=
  ∃ cardHmac db',
    upsertCard en.keyManager currentKeyVersion cardId role none db = .ok (cardHmac, db') ∧
    ∀ env : Env, env.NoFault → ∃ found,
      en.resolveCardHmac env db'.answers cardId currentKeyVersion = .ok (found, some role)

/-- The table after an enrolment: the new row, whose role ends at the first NUL, and no other
row of the card. -/
theorem roleForCardHmac_upsert {km : KeyManager} {cardId : Bytes} {db : AccessDb}
    (hfresh : Unenrolled km cardId db) (v w : UInt32) (role : Bytes) :
    (SqliteAccessStore.upsertCardHmac (km.cardHmac v cardId) role db).answers.roleForCardHmac
        (km.cardHmac w cardId) =
      if km.cardHmac w cardId = km.cardHmac v cardId then some (cString role) else none := by
  simp only [AccessDb.answers, SqliteAccessStore.roleForCardHmac,
    SqliteAccessStore.upsertCardHmac, cString_cardHmac]
  split_ifs with hsame
  · rw [hsame, AList.lookup_insert, Option.map_some, cString_cString]
  · rw [AList.lookup_insert_ne hsame, AList.lookup_eq_none.mpr (hfresh w), Option.map_none]

/-- What the engine resolves after the enrolment. -/
theorem roleOf_upsert {en : Engine} {cardId : Bytes} {db : AccessDb}
    (hfresh : Unenrolled en.keyManager cardId db) (v : UInt32) (role : Bytes) :
    en.roleOf (SqliteAccessStore.upsertCardHmac (en.keyManager.cardHmac v cardId) role db).answers
        v cardId =
      if en.frameHandlerCfg.pepperMode ≠ "static" ∨
          en.keyManager.cardHmac 1 cardId = en.keyManager.cardHmac v cardId then
        some (cString role)
      else none := by
  unfold Engine.roleOf
  simp only [roleForCardHmac_upsert hfresh]
  by_cases hstatic : en.frameHandlerCfg.pepperMode = "static"
  · simp [hstatic]
  · simp [hstatic]

/-- A card that was enrolled without an explicit key version is found for a reader at the
configured version exactly if the peppers of the service and of the engine give one HMAC and
the role is stored whole. -/
theorem enrolment_found_iff (en : Engine) (currentKeyVersion : UInt32) (cardId role : Bytes)
    (db : AccessDb) (hversion : 1 ≤ currentKeyVersion) (hcard : cardId ≠ [])
    (hfresh : Unenrolled en.keyManager cardId db) :
    EnrolsAndFinds en currentKeyVersion cardId role db ↔
      0 ∉ role ∧ (en.frameHandlerCfg.pepperMode ≠ "static" ∨
        en.keyManager.cardHmac 1 cardId = en.keyManager.cardHmac currentKeyVersion cardId) := by
  have hkv := ne_zero_of_one_le hversion
  have hupsert : upsertCard en.keyManager currentKeyVersion cardId role none db = .ok
      (en.keyManager.cardHmac currentKeyVersion cardId, SqliteAccessStore.upsertCardHmac
        (en.keyManager.cardHmac currentKeyVersion cardId) role db) := upsertCard_ok hcard hkv
  have hstored := roleOf_upsert hfresh currentKeyVersion role
  constructor
  · rintro ⟨cardHmac, db', hdb, hfinds⟩
    rw [hupsert] at hdb
    obtain ⟨rfl, rfl⟩ := Prod.mk.inj (Except.ok.inj hdb)
    obtain ⟨found, hresolve⟩ := hfinds .quiet Env.quiet_noFault
    have hrole := (Engine.resolveCardHmac_ok hcard hkv hresolve).1
    rw [hstored] at hrole
    split_ifs at hrole with hmeets
    exact ⟨cString_eq_self.mp (Option.some.inj hrole).symm, hmeets⟩
  · rintro ⟨hplain, hmeets⟩
    refine ⟨_, _, hupsert, fun env henv => ?_⟩
    obtain ⟨⟨found, resolved⟩, hresolve⟩ :=
      Engine.resolveCardHmac_total en henv (SqliteAccessStore.upsertCardHmac
        (en.keyManager.cardHmac currentKeyVersion cardId) role db).answers hcard hkv
    have hrole : resolved = _ := (Engine.resolveCardHmac_ok hcard hkv hresolve).1
    rw [hstored, if_pos hmeets, cString_eq_self.mpr hplain] at hrole
    exact ⟨found, hrole ▸ hresolve⟩

end

theorem unenrolled_empty [Sodium] (km : KeyManager) (cardId : Bytes) :
    Unenrolled km cardId .empty := fun _ => AList.notMem_empty _

theorem enrolment_found_iff_versioned :
    letI : Sodium := .keyed
    EnrolsAndFinds .permissive 2 sampleCard (bytesOf "user") .empty := by
  let _ : Sodium := .keyed
  refine (enrolment_found_iff .permissive 2 sampleCard (bytesOf "user") .empty (by decide)
    (by decide +kernel) (unenrolled_empty _ _)).mpr ⟨by decide +kernel, .inl ?_⟩
  decide

/-- With a static pepper and the configured version two, the card is enrolled under the pepper
of version two and looked up under that of version one. -/
theorem static_card_not_found :
    letI : Sodium := .keyed
    let en : Engine := { Engine.permissive with frameHandlerCfg := { pepperMode := "static" } }
    ¬ EnrolsAndFinds en 2 sampleCard (bytesOf "user") .empty := by
  let _ : Sodium := .keyed
  intro en
  rintro ⟨cardHmac, db', hdb, hfinds⟩
  have hcard : sampleCard ≠ [] := by decide +kernel
  have hne : KeyManager.cardHmac ⟨zeros 32⟩ 1 sampleCard ≠
      KeyManager.cardHmac ⟨zeros 32⟩ 2 sampleCard := by
    decide +kernel
  obtain ⟨found, hresolve⟩ := hfinds .quiet Env.quiet_noFault
  have hrole := (Engine.resolveCardHmac_ok hcard (by decide) hresolve).1
  rw [upsertCard_ok hcard (by decide)] at hdb
  obtain ⟨rfl, rfl⟩ := Prod.mk.inj (Except.ok.inj hdb)
  have hstored : en.roleOf _ 2 sampleCard = none :=
    (roleOf_upsert (unenrolled_empty en.keyManager sampleCard) 2 (bytesOf "user")).trans
      (if_neg (not_or.mpr ⟨not_not.mpr rfl, hne⟩))
  cases hrole.trans hstored

end AccessSecurity.Admin
