import AccessSecurity.Crypto.KeyManager

/-!
# Separation of the derived keys

The four derivations have salts of different lengths, and HMAC pads its key with zeros, so
that salts of two purposes can be one key. Two purposes differ in the info string, and two
requests of one purpose in salts of one length: either way the last queries of two requests
differ, unless the HMAC collides (`derived_keys_differ`).
-/

namespace AccessSecurity.Crypto

open Foundation

inductive KeyRequest where
  | aeadKey (readerId keyVersion : UInt32)
  | nonceKey (readerId keyVersion : UInt32)
  | cardPepper (keyVersion : UInt32)
  | auditHmacKey
  deriving DecidableEq, Repr

namespace KeyRequest

def salt : KeyRequest → Bytes
  | aeadKey readerId keyVersion => KeyManager.readerSalt readerId keyVersion
  | nonceKey readerId keyVersion => KeyManager.readerSalt readerId keyVersion
  | cardPepper keyVersion => LittleEndian.ofUInt32 keyVersion
  | auditHmacKey => kAuditHmacSalt

def info : KeyRequest → Bytes
  | aeadKey _ _ => kAeadKeyInfo
  | nonceKey _ _ => kNonceKeyInfo
  | cardPepper _ => kCardPepperInfo
  | auditHmacKey => kAuditHmacInfo

theorem salt_ne_nil (r : KeyRequest) : r.salt ≠ [] := by
  have hlen : 0 < r.salt.length := by
    cases r with
    | auditHmacKey => decide +kernel
    | _ => simp [salt, KeyManager.readerSalt]
  exact List.ne_nil_of_length_pos hlen

theorem infos_nodup :
    [kAeadKeyInfo, kNonceKeyInfo, kCardPepperInfo, kAuditHmacInfo].Nodup := by
  decide +kernel

theorem readerSalt_inj {readerId readerId' keyVersion keyVersion' : UInt32}
    (h : KeyManager.readerSalt readerId keyVersion = KeyManager.readerSalt readerId' keyVersion') :
    readerId = readerId' ∧ keyVersion = keyVersion' := by
  obtain ⟨hreader, hversion⟩ := List.append_inj h (by simp)
  exact ⟨LittleEndian.ofUInt32_inj hreader, LittleEndian.ofUInt32_inj hversion⟩

/-- Requests with one info string are for one purpose, so their salts have one length and
tell them apart. -/
theorem salt_of_info {r r' : KeyRequest} (h : r.info = r'.info) :
    r.salt.length = r'.salt.length ∧ (r.salt = r'.salt → r = r') := by
  have hdistinct := infos_nodup
  simp only [List.nodup_cons, List.mem_cons, List.not_mem_nil, or_false, not_or] at hdistinct
  obtain ⟨⟨hnonce, hpepper, haudit⟩, ⟨hnoncePepper, hnonceAudit⟩, hpepperAudit, -⟩ := hdistinct
  cases r <;> cases r' <;> simp only [info] at h
  case aeadKey.aeadKey =>
    refine ⟨rfl, fun hsalt => ?_⟩
    obtain ⟨rfl, rfl⟩ := readerSalt_inj hsalt
    rfl
  case nonceKey.nonceKey =>
    refine ⟨rfl, fun hsalt => ?_⟩
    obtain ⟨rfl, rfl⟩ := readerSalt_inj hsalt
    rfl
  case cardPepper.cardPepper =>
    refine ⟨rfl, fun hsalt => ?_⟩
    obtain rfl := LittleEndian.ofUInt32_inj hsalt
    rfl
  case auditHmacKey.auditHmacKey => exact ⟨rfl, fun _ => rfl⟩
  all_goals grind

end KeyRequest

/-! ## Queries -/

/-- A call of the HMAC. -/
structure HmacQuery where
  key : Bytes
  message : Bytes
  deriving DecidableEq

/-- A key that is shorter than the block of the hash is padded with zeros. -/
def zeroPad (key : Bytes) : Bytes := key ++ List.replicate (64 - key.length) 0

theorem zeroPad_inj {key key' : Bytes} (hlen : key.length = key'.length)
    (h : zeroPad key = zeroPad key') : key = key' :=
  (List.append_inj h hlen).1

/-- What the HMAC makes of the arguments. -/
def HmacQuery.padded (q : HmacQuery) : Bytes × Bytes := (zeroPad q.key, q.message)

section

variable [Sodium]

def HmacQuery.answer (q : HmacQuery) : ByteArr 32 := hmacSha256 q.key q.message

/-- Queries that differ after the padding have different answers. -/
def NoPaddedCollision (queries : List HmacQuery) : Prop :=
  ∀ q ∈ queries, ∀ q' ∈ queries, q.padded ≠ q'.padded → q.answer ≠ q'.answer

namespace KeyManager

/-- The request, as a call of the member function for it. -/
def deriveKey (km : KeyManager) : KeyRequest → Except Exn (ByteArr 32)
  | .aeadKey readerId keyVersion => AeadKey.key <$> km.deriveAeadKey readerId keyVersion
  | .nonceKey readerId keyVersion => AeadKey.key <$> km.deriveNonceKey readerId keyVersion
  | .cardPepper keyVersion => km.deriveCardPepper keyVersion
  | .auditHmacKey => km.deriveAuditHmacKey

/-- The query that makes the pseudorandom key. -/
def extractQuery (km : KeyManager) (r : KeyRequest) : HmacQuery := ⟨r.salt, km.masterKey.toList⟩

/-- The query for the only block. -/
def expandQuery (km : KeyManager) (r : KeyRequest) : HmacQuery :=
  ⟨(km.extractQuery r).answer.toList, r.info ++ [1]⟩

def queries (km : KeyManager) (r : KeyRequest) : List HmacQuery :=
  [km.extractQuery r, km.expandQuery r]

/-- Every request but that for the pepper of version zero gives a key, the answer to its last
query. -/
theorem deriveKey_ok (km : KeyManager) {r : KeyRequest} (h : r ≠ .cardPepper 0) :
    km.deriveKey r = .ok (km.expandQuery r).answer := by
  have hone : Hkdf.oneBlock km.masterKey.toList r.salt r.info = (km.expandQuery r).answer := by
    have hextract : Hkdf.extract r.salt km.masterKey.toList = (km.extractQuery r).answer := by
      unfold Hkdf.extract
      exact if_neg (by simpa using r.salt_ne_nil)
    rw [Hkdf.oneBlock, hextract]
    rfl
  rw [← hone]
  cases r with
  | aeadKey readerId keyVersion =>
    rw [deriveKey, deriveAeadKey_ok]
    rfl
  | nonceKey readerId keyVersion =>
    rw [deriveKey, deriveNonceKey_ok]
    rfl
  | cardPepper keyVersion => exact deriveCardPepper_ok km (by simpa using h)
  | auditHmacKey => exact derive32_ok km _ _ _

theorem deriveKey_pepper_zero (km : KeyManager) :
    km.deriveKey (.cardPepper 0) = .error ⟨"KeyManager: keyVersion must be > 0"⟩ := by
  simp [deriveKey, deriveCardPepper, bind, Except.bind, throw, throwThe, MonadExceptOf.throw]

omit [Sodium] in
/-- The HMAC is asked nothing but these queries. -/
theorem deriveKey_congr (S S' : Sodium) (km : KeyManager) (r : KeyRequest)
    (h : ∀ q ∈ @queries S km r, @HmacQuery.answer S q = @HmacQuery.answer S' q) :
    @deriveKey S km r = @deriveKey S' km r := by
  by_cases hzero : r = .cardPepper 0
  · rw [hzero, @deriveKey_pepper_zero S, @deriveKey_pepper_zero S']
  · have hextract := h (@extractQuery km r) (by simp [queries])
    have hexpand : @expandQuery S km r = @expandQuery S' km r := by
      unfold expandQuery
      rw [hextract]
    rw [@deriveKey_ok S km r hzero, @deriveKey_ok S' km r hzero, ← hexpand]
    exact congrArg Except.ok (h _ (by simp [queries]))

/-- The last queries of two requests differ after the padding. -/
theorem padded_expandQuery_ne (km : KeyManager) {r r' : KeyRequest} (hne : r ≠ r')
    (hcollision : NoPaddedCollision (km.queries r ++ km.queries r')) :
    (km.expandQuery r).padded ≠ (km.expandQuery r').padded := by
  intro hsame
  obtain ⟨hkey, hmessage⟩ := Prod.mk.inj hsame
  have hinfo : r.info = r'.info := List.append_cancel_right hmessage
  obtain ⟨hlen, hsalt⟩ := KeyRequest.salt_of_info hinfo
  have hprk : (km.extractQuery r).answer = (km.extractQuery r').answer := by
    apply Vector.toList_inj.mp
    exact zeroPad_inj (by simp) hkey
  have hpadded : (km.extractQuery r).padded ≠ (km.extractQuery r').padded := by
    intro hextract
    exact hne (hsalt (zeroPad_inj hlen (Prod.mk.inj hextract).1))
  exact hcollision _ (by simp [queries]) _ (by simp [queries]) hpadded hprk

end KeyManager

/-- Two requests that give keys give different ones, unless two of their queries collide that
differ after the padding of the key. -/
theorem derived_keys_differ (km : KeyManager) {r r' : KeyRequest} (hne : r ≠ r')
    (hcollision : NoPaddedCollision (km.queries r ++ km.queries r')) :
    (∀ request, (∃ key, km.deriveKey request = .ok key) ↔ request ≠ .cardPepper 0) ∧
    ∀ key key', km.deriveKey r = .ok key → km.deriveKey r' = .ok key' → key ≠ key' := by
  have hfails : ∀ request key, km.deriveKey request = .ok key → request ≠ .cardPepper 0 := by
    rintro _ key hkey rfl
    rw [km.deriveKey_pepper_zero] at hkey
    cases hkey
  refine ⟨fun request => ?_, fun key key' hkey hkey' => ?_⟩
  · constructor
    · rintro ⟨key, hkey⟩
      exact hfails request key hkey
    · intro hrequest
      exact ⟨_, km.deriveKey_ok hrequest⟩
  · rw [km.deriveKey_ok (hfails r key hkey)] at hkey
    rw [km.deriveKey_ok (hfails r' key' hkey')] at hkey'
    obtain rfl := Except.ok.inj hkey
    obtain rfl := Except.ok.inj hkey'
    exact hcollision _ (by simp [KeyManager.queries]) _ (by simp [KeyManager.queries])
      (km.padded_expandQuery_ne hne hcollision)

end

/-- The salts of these two requests are one HMAC key, and the derived keys differ. -/
theorem derived_keys_differ_padded :
    letI : Sodium := .keyed
    let km : KeyManager := ⟨zeros 32⟩
    (km.extractQuery (.aeadKey 1 0)).padded = (km.extractQuery (.cardPepper 1)).padded ∧
      ∀ key key', km.deriveKey (.aeadKey 1 0) = .ok key → km.deriveKey (.cardPepper 1) = .ok key' →
        key ≠ key' := by
  let _ : Sodium := .keyed
  intro km
  have hcollision : NoPaddedCollision
      (km.queries (.aeadKey 1 0) ++ km.queries (.cardPepper 1)) := by
    unfold NoPaddedCollision
    decide +kernel
  exact ⟨by decide +kernel, (derived_keys_differ km (by decide) hcollision).2⟩

end AccessSecurity.Crypto
