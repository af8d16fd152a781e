import AccessSecurity.Admin.Enrolment
import AccessSecurity.Storage.ReaderTables

/-!
# Rotation of a reader's key version

Three rules have to line up when a reader moves from version `v` to `v + 1`: which key
versions the handler accepts, under which pepper a card is looked up, and under which it is
looked up next. `rotation_continuity` says that frames and cards of `v` keep working, those of
`v + 1` take precedence, and older ones do not count.
-/

namespace AccessSecurity.Admin

open Foundation Crypto Core Decision Storage Protocol

/-- The answers of a store that reports the version last upserted. -/
def afterUpsertReader (store : AccessStore) (reader keyVersion : UInt32) : AccessStore :=
  { store with
    currentKeyVersionForReader :=
      Function.update store.currentKeyVersionForReader reader keyVersion }

section

variable [Sodium] (km : KeyManager)

/-- What the store has under the HMACs of the card are the roles of enrolments, of this card or
of one whose HMAC is the same. -/
def Holds (store : AccessStore) (enrolled : UInt32 → Bytes → Option Bytes) (cardId : Bytes) :
    Prop :=
  ∀ version role, store.roleForCardHmac (km.cardHmac version cardId) = some role ↔
    ∃ w c, enrolled w c = some role ∧ km.cardHmac w c = km.cardHmac version cardId

/-- No HMACs collide among the enrolments and the two lookups of the card. -/
def NoCollision (enrolled : UInt32 → Bytes → Option Bytes) (v : UInt32) (cardId : Bytes) : Prop :=
  Set.InjOn (fun pair : UInt32 × Bytes => km.cardHmac pair.1 pair.2)
    {pair | enrolled pair.1 pair.2 ≠ none ∨ (pair.1 = v ∨ pair.1 = v + 1) ∧ pair.2 = cardId}

variable {km} {store : AccessStore} {enrolled : UInt32 → Bytes → Option Bytes} {v : UInt32}
  {cardId : Bytes}

/-- A lookup of the card under one of the two versions finds what was enrolled under it. -/
theorem roleForCardHmac_eq (hholds : Holds km store enrolled cardId)
    (hdistinct : NoCollision km enrolled v cardId) {version : UInt32}
    (hversion : version = v ∨ version = v + 1) :
    store.roleForCardHmac (km.cardHmac version cardId) = enrolled version cardId := by
  apply Option.ext
  intro role
  rw [hholds]
  constructor
  · rintro ⟨w, c, hrole, hsame⟩
    have hpair : (w, c) = (version, cardId) :=
      hdistinct (.inl (by simp [hrole])) (.inr ⟨hversion, rfl⟩) hsame
    obtain ⟨rfl, rfl⟩ := Prod.mk.inj hpair
    exact hrole
  · intro hrole
    exact ⟨version, cardId, hrole, rfl⟩

omit [Sodium] in
theorem toNat_succ (hnext : v.toNat + 1 < 2 ^ 32) : (v + 1).toNat = v.toNat + 1 := by
  rw [UInt32.toNat_add]
  exact Nat.mod_eq_of_lt hnext

omit [Sodium] in
theorem one_lt_succ (hv : 1 ≤ v) (hnext : v.toNat + 1 < 2 ^ 32) : 1 < v + 1 := by
  have hsucc := toNat_succ hnext
  have hone : (1 : UInt32).toNat = 1 := rfl
  rw [UInt32.le_iff_toNat_le] at hv
  rw [UInt32.lt_iff_toNat_lt]
  omega

/-- The engine looks for a card under the new version first and then under the one before. -/
theorem roleOf_succ {en : Engine} (hprevious : en.frameHandlerCfg.allowPreviousKeyVersion = true)
    (hmode : en.frameHandlerCfg.pepperMode ≠ "static") (hv : 1 ≤ v)
    (hnext : v.toNat + 1 < 2 ^ 32) (hholds : Holds en.keyManager store enrolled cardId)
    (hdistinct : NoCollision en.keyManager enrolled v cardId) :
    en.roleOf store (v + 1) cardId = (enrolled (v + 1) cardId).or (enrolled v cardId) := by
  have hlt := one_lt_succ hv hnext
  have hprev : v + 1 - 1 = v := by simp
  unfold Engine.roleOf
  rw [if_neg hmode, if_pos ⟨hprevious, hlt⟩, hprev,
    roleForCardHmac_eq hholds hdistinct (.inr rfl), roleForCardHmac_eq hholds hdistinct (.inl rfl)]

/-! ## Frames -/

omit [Sodium] in
theorem keyOk_succ {fh : FrameHandler} (hprevious : fh.config.allowPreviousKeyVersion = true)
    (hv : 1 ≤ v) (hnext : v.toNat + 1 < 2 ^ 32) (kv : UInt32) :
    fh.keyOk kv (v + 1) = true ↔ kv = v ∨ kv = v + 1 := by
  have hsucc := toNat_succ hnext
  have hlt := UInt32.lt_iff_toNat_lt.mp (one_lt_succ hv hnext)
  rw [FrameHandler.keyOk_iff, or_comm]
  apply or_congr_left
  constructor
  · rintro ⟨-, -, hprev⟩
    apply UInt32.toNat_inj.mp
    omega
  · rintro rfl
    exact ⟨hprevious, hlt, hsucc.symm⟩

omit [Sodium] in
theorem validateKeyVersion_eq_none_iff {fh : FrameHandler} {frame : Frame} {currentKv : UInt32} :
    fh.validateKeyVersion frame currentKv = none ↔
      fh.keyOk frame.header.keyVersion currentKv = true := by
  unfold FrameHandler.validateKeyVersion
  split_ifs with hok
  · simp [hok]
  · simp [hok]

omit [Sodium] in
/-- The handler continues with the version of a reader that may use the door of the frame. -/
theorem validateReader_bound {fh : FrameHandler} {env : Env} (henv : env.NoFault) {frame : Frame}
    (hstore : fh.store = some store)
    (hversion : store.currentKeyVersionForReader frame.header.readerId ≠ 0)
    (hbound : fh.config.enforceReaderDoorBinding = true →
      store.isReaderAllowedDoor frame.header.readerId frame.header.doorId = true) :
    fh.validateReader env frame =
      .ok (.ok (store.currentKeyVersionForReader frame.header.readerId)) := by
  simp only [FrameHandler.validateReader, hstore, henv.access, bind, Except.bind, if_neg hversion]
  split_ifs with hbinding hdoor
  · rfl
  · exact absurd (hbound hbinding) hdoor
  · rfl

theorem resolveCardHmac_nil {en : Engine} {env : Env} {currentKv : UInt32}
    {result : Bytes × Option Bytes} :
    en.resolveCardHmac env store [] currentKv ≠ .ok result := by
  unfold Engine.resolveCardHmac
  intro h
  split_ifs at h with hstatic
  · obtain ⟨pepper, -, h⟩ := except_bind_ok.mp h
    obtain ⟨cardHmac, hhmac, -⟩ := except_bind_ok.mp h
    cases hhmac
  · obtain ⟨pepper, -, h⟩ := except_bind_ok.mp h
    obtain ⟨cardHmac, hhmac, -⟩ := except_bind_ok.mp h
    cases hhmac

/-! ## The rotation -/

/-- After the reader has moved to `v + 1`, a frame passes the check of its key version exactly
under `v` and `v + 1`, and the engine resolves a card to the role enrolled under `v + 1`, or
else to that enrolled under `v`. -/
theorem rotation_continuity (en : Engine) (store : AccessStore) (reader v : UInt32)
    (hprevious : en.frameHandlerCfg.allowPreviousKeyVersion = true)
    (hmode : en.frameHandlerCfg.pepperMode ≠ "static") (hv : 1 ≤ v)
    (hnext : v.toNat + 1 < 2 ^ 32)
    (hstore : en.store = some (afterUpsertReader store reader (v + 1))) :
    (∀ env frame, env.NoFault → frame.header.readerId = reader →
      (en.frameHandlerCfg.enforceReaderDoorBinding = true →
        store.isReaderAllowedDoor reader frame.header.doorId = true) →
      en.handler.validateReader env frame = .ok (.ok (v + 1))) ∧
    (∀ env frame kv, frame.header.readerId = reader →
      en.handler.validateReader env frame = .ok (.ok kv) →
      (en.handler.validateKeyVersion frame kv = none ↔
        frame.header.keyVersion = v ∨ frame.header.keyVersion = v + 1)) ∧
    ∀ enrolled cardId, Holds en.keyManager store enrolled cardId →
      NoCollision en.keyManager enrolled v cardId →
      ∀ env : Env, (env.NoFault → cardId ≠ [] → ∃ result, en.resolveCardHmac env
          (afterUpsertReader store reader (v + 1)) cardId
          ((afterUpsertReader store reader (v + 1)).currentKeyVersionForReader reader) =
            .ok result) ∧
        ∀ result, en.resolveCardHmac env (afterUpsertReader store reader (v + 1)) cardId
          ((afterUpsertReader store reader (v + 1)).currentKeyVersionForReader reader) =
            .ok result → result.2 = (enrolled (v + 1) cardId).or (enrolled v cardId) := by
  have hnew : (afterUpsertReader store reader (v + 1)).currentKeyVersionForReader reader =
      v + 1 := Function.update_self ..
  have hpos : v + 1 ≠ 0 := by
    have hsucc := toNat_succ hnext
    intro hzero
    rw [hzero] at hsucc
    simp at hsucc
  refine ⟨?_, ?_, ?_⟩
  · rintro env frame henv rfl hbound
    rw [validateReader_bound henv hstore (by rwa [hnew]) hbound, hnew]
  · rintro env frame kv rfl hvalid
    rcases FrameHandler.validateReader_ok hvalid with ⟨err, herr, -⟩ | ⟨found, hfound, hkv, -⟩
    · cases herr
    · obtain rfl := Option.some.inj (hstore.symm.trans hfound)
      obtain rfl := (Except.ok.inj hkv).trans hnew
      rw [validateKeyVersion_eq_none_iff]
      exact keyOk_succ hprevious hv hnext _
  · intro enrolled cardId hholds hdistinct env
    rw [hnew]
    refine ⟨fun henv hcard => Engine.resolveCardHmac_total en henv _ hcard hpos,
      fun result hresult => ?_⟩
    have hcard : cardId ≠ [] := by
      rintro rfl
      exact resolveCardHmac_nil hresult
    rw [(Engine.resolveCardHmac_ok hcard hpos hresult).1]
    exact roleOf_succ hprevious hmode hv hnext hholds hdistinct

end

/-! ## The SQLite store -/

/-- For a version below 2^31 the SQLite store is one that reports the version last upserted. -/
theorem answers_upsertReader (db : AccessDb) {reader keyVersion : UInt32} (hpos : 1 ≤ keyVersion)
    (hsmall : keyVersion.toNat < 2 ^ 31) :
    (SqliteAccessStore.upsertReader reader keyVersion db).answers =
      afterUpsertReader db.answers reader keyVersion := by
  have hkept : ¬ keyVersion.toInt32 ≤ 0 := by
    rw [toInt32_nonpos_iff]
    exact not_or.mpr ⟨ne_zero_of_one_le hpos, not_le.mpr hsmall⟩
  have hversion :
      (SqliteAccessStore.upsertReader reader keyVersion db).answers.currentKeyVersionForReader =
        Function.update db.answers.currentKeyVersionForReader reader keyVersion := by
    funext r
    rcases eq_or_ne r reader with rfl | hr
    · simp [AccessDb.answers, SqliteAccessStore.currentKeyVersionForReader,
        SqliteAccessStore.upsertReader, hkept]
    · have hcolumn : bindInt r ≠ bindInt reader := by simpa using hr
      simp [AccessDb.answers, SqliteAccessStore.currentKeyVersionForReader,
        SqliteAccessStore.upsertReader, AList.lookup_insert_ne hcolumn, hr]
  unfold afterUpsertReader
  rw [← hversion]
  rfl

section

variable [Sodium] {km : KeyManager}

/-- One enrolment, of the card under version `v`. -/
def enrolledOnly (v : UInt32) (cardId role : Bytes) (w : UInt32) (c : Bytes) : Option Bytes :=
  if w = v ∧ c = cardId then some role else none

omit [Sodium] in
theorem enrolledOnly_eq_some {v w : UInt32} {cardId role c found : Bytes} :
    enrolledOnly v cardId role w c = some found ↔ w = v ∧ c = cardId ∧ found = role := by
  unfold enrolledOnly
  grind

theorem holds_upsert {cardId : Bytes} {db : AccessDb} (hfresh : Unenrolled km cardId db)
    (v : UInt32) (role : Bytes) :
    Holds km (SqliteAccessStore.upsertCardHmac (km.cardHmac v cardId) role db).answers
      (enrolledOnly v cardId (cString role)) cardId := by
  intro version found
  rw [roleForCardHmac_upsert hfresh, Option.ite_none_right_eq_some, Option.some.injEq]
  constructor
  · rintro ⟨hsame, rfl⟩
    exact ⟨v, cardId, enrolledOnly_eq_some.mpr ⟨rfl, rfl, rfl⟩, hsame.symm⟩
  · rintro ⟨w, c, hrole, hsame⟩
    obtain ⟨rfl, rfl, rfl⟩ := enrolledOnly_eq_some.mp hrole
    exact ⟨hsame.symm, rfl⟩

theorem noCollision_enrolledOnly {v : UInt32} {cardId role : Bytes}
    (hne : km.cardHmac v cardId ≠ km.cardHmac (v + 1) cardId) :
    NoCollision km (enrolledOnly v cardId role) v cardId := by
  have hpair : ∀ pair : UInt32 × Bytes, enrolledOnly v cardId role pair.1 pair.2 ≠ none ∨
      (pair.1 = v ∨ pair.1 = v + 1) ∧ pair.2 = cardId →
      pair = (v, cardId) ∨ pair = (v + 1, cardId) := by
    rintro ⟨w, c⟩ (hsome | ⟨rfl | rfl, rfl⟩)
    · obtain ⟨found, hfound⟩ := Option.ne_none_iff_exists'.mp hsome
      obtain ⟨rfl, rfl, -⟩ := enrolledOnly_eq_some.mp hfound
      exact .inl rfl
    · exact .inl rfl
    · exact .inr rfl
  intro pair hmem pair' hmem' hsame
  rcases hpair pair hmem with rfl | rfl <;> rcases hpair pair' hmem' with rfl | rfl
  · rfl
  · exact absurd hsame hne
  · exact absurd hsame.symm hne
  · rfl

end

/-- A card enrolled under version one still has its role when its reader has moved to two. -/
theorem rotation_continuity_sqlite :
    letI : Sodium := .keyed
    let km : KeyManager := ⟨zeros 32⟩
    let db := SqliteAccessStore.upsertCardHmac (km.cardHmac 1 sampleCard) (bytesOf "user")
      (SqliteAccessStore.upsertReader 7 1 .empty)
    let rotated := (SqliteAccessStore.upsertReader 7 2 db).answers
    ∃ result, { Engine.permissive with store := some rotated }.resolveCardHmac .quiet rotated
      sampleCard 2 = .ok result ∧ result.2 = some (bytesOf "user") := by
  let _ : Sodium := .keyed
  intro km db rotated
  have hrotated : rotated = afterUpsertReader db.answers 7 (1 + 1) :=
    answers_upsertReader db (by decide) (by decide)
  have hfresh : Unenrolled km sampleCard (SqliteAccessStore.upsertReader 7 1 .empty) :=
    unenrolled_empty km sampleCard
  have hne : km.cardHmac 1 sampleCard ≠ km.cardHmac (1 + 1) sampleCard := by decide +kernel
  have hplain : cString (bytesOf "user") = bytesOf "user" := by decide +kernel
  obtain ⟨-, -, hresolves⟩ := rotation_continuity
    { Engine.permissive with store := some rotated } db.answers 7 1 rfl (by decide) (by decide)
    (by decide) (congrArg some hrotated)
  obtain ⟨hok, hrole⟩ := hresolves _ sampleCard (holds_upsert hfresh 1 (bytesOf "user"))
    (noCollision_enrolledOnly hne) .quiet
  rw [← hrotated] at hok hrole
  obtain ⟨result, hresult⟩ := hok Env.quiet_noFault (by decide +kernel)
  refine ⟨result, hresult, (hrole result hresult).trans ?_⟩
  rw [hplain]
  decide +kernel

end AccessSecurity.Admin
