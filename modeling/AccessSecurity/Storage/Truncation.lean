import AccessSecurity.Storage.AuditVerify

/-!
# Appending to a truncated log

The log that `append` writes is a hash chain over the events as they were given
(`appendAll_stores`); what the verifier checks is that chain over the events as they are
read back. Truncation alone leaves an anchor that no longer fits, but the next append
continues the chain from the last row that is left and moves the anchor there. Only a
text with a NUL byte is still noticed then (`truncation_noticed_iff`).
-/

namespace AccessSecurity.Storage

open Foundation Foundation.HashChain Crypto Decision

/-- Some text of the event has a NUL byte. -/
def HasNul (e : AuditEvent) : Prop := 0 ∈ e.reason ∨ 0 ∈ e.cardId ∨ 0 ∈ e.action

instance (e : AuditEvent) : Decidable (HasNul e) := by
  unfold HasNul
  infer_instance

/-! ## Events as they are read back -/

theorem asRead_eq_self {e : AuditEvent} : asRead e = e ↔ ¬ HasNul e := by
  cases e
  simp [asRead, HasNul, cString_eq_self]

/-- A text that was cut gives a shorter message. -/
theorem entryData_asRead {prev : Hash32} {e : AuditEvent}
    (h : entryData prev (asRead e) = entryData prev e) : asRead e = e := by
  have hcut : ∀ s : Bytes, cString s <+: s := fun s => List.takeWhile_prefix _
  have hlength := congrArg List.length h
  simp only [entryData, eventFields_eq, putBytesWithLen, putLe32, asRead, List.length_append,
    LittleEndian.length_ofUInt32, LittleEndian.length_ofUInt64, List.length_nil] at hlength
  have hreason := (hcut e.reason).length_le
  have hcard := (hcut e.cardId).length_le
  have haction := (hcut e.action).length_le
  have hreason' : cString e.reason = e.reason := (hcut _).eq_of_length (by grind)
  have hcard' : cString e.cardId = e.cardId := (hcut _).eq_of_length (by grind)
  have haction' : cString e.action = e.action := (hcut _).eq_of_length (by grind)
  unfold asRead
  rw [hreason', hcard', haction']

/-! ## What the table holds -/

def readBack (e : Entry Hash32 AuditEvent) : Entry Hash32 AuditEvent :=
  ⟨e.prev, asRead e.body, e.hash⟩

/-- The values in the rows are those of the chain, as they are read back. -/
def Stores (db : AuditDb) (es : List (Entry Hash32 AuditEvent)) : Prop :=
  db.auditLog.map extractedValues = (es.map readBack).map some

/-- The last `k` rows are deleted; the anchor stays as it is. -/
def AuditDb.truncate (db : AuditDb) (k : Nat) : AuditDb :=
  { db with auditLog := db.auditLog.take (db.auditLog.length - k) }

theorem Stores.length_eq {db : AuditDb} {es : List (Entry Hash32 AuditEvent)}
    (h : Stores db es) : db.auditLog.length = es.length := by
  simpa using congrArg List.length h

theorem Stores.truncate {db : AuditDb} {es : List (Entry Hash32 AuditEvent)} (h : Stores db es)
    (k : Nat) : Stores (db.truncate k) (es.take (es.length - k)) := by
  have hlen := h.length_eq
  unfold Stores AuditDb.truncate at *
  rw [List.map_take, List.map_take, List.map_take, h, hlen]

theorem Stores.getLastEntryHash {db : AuditDb} {es : List (Entry Hash32 AuditEvent)}
    (h : Stores db es) :
    SqliteAuditLog.getLastEntryHash db = .ok (endHash (zeros 32) es) := by
  have hlast := congrArg List.getLast? h
  rw [List.getLast?_map, List.getLast?_map, List.getLast?_map] at hlast
  unfold SqliteAuditLog.getLastEntryHash endHash
  cases hes : es.getLast? with
  | none =>
    obtain hnone : db.auditLog.getLast? = none := by simpa [hes] using hlast
    rw [hnone]
    rfl
  | some e =>
    obtain ⟨st, hst, hvalue⟩ : ∃ st, db.auditLog.getLast? = some st ∧
        extractedValues st = some (readBack e) := by simpa [hes] using hlast
    rw [hst]
    simp only [entryHash_of_extractedValues hvalue]
    rfl

section

variable [Sodium] {log : SqliteAuditLog} (hchain : log.chainEnabled = true)

include hchain in
/-- An append adds one link to the chain the table holds and moves the anchor to it. -/
theorem append_stores {db : AuditDb} {es : List (Entry Hash32 AuditEvent)} (h : Stores db es)
    (hrow : db.auditAnchor.isSome = true) (e : AuditEvent) :
    ∃ db', log.append e db = .ok db' ∧
      Stores db' (es ++ [link (computeEntryHash log.key) (endHash (zeros 32) es) e]) ∧
      db'.auditAnchor.isSome = true ∧
      db'.anchor = some (computeEntryHash log.key (endHash (zeros 32) es) e) := by
  obtain ⟨anchor, hanchor⟩ := Option.isSome_iff_exists.mp hrow
  let prev := endHash (zeros 32) es
  let entry := computeEntryHash log.key prev e
  refine ⟨SqliteAuditLog.updateAnchor entry e.tsUnixMs
    (SqliteAuditLog.insertAuditEntry e prev entry db), ?_, ?_, ?_, ?_⟩
  · rw [SqliteAuditLog.append, if_neg (by simp [hchain]), h.getLastEntryHash]
    rfl
  · simp only [Stores, SqliteAuditLog.updateAnchor, SqliteAuditLog.insertAuditEntry,
      List.map_append, List.map_cons, List.map_nil, extractedValues, extractRow_rowOf]
    rw [← h]
    rfl
  · simp [SqliteAuditLog.updateAnchor, SqliteAuditLog.insertAuditEntry, hanchor]
  · simp [SqliteAuditLog.updateAnchor, SqliteAuditLog.insertAuditEntry, AuditDb.anchor, hanchor,
      entry, prev]

include hchain in
theorem appendAll_stores {db : AuditDb} {es : List (Entry Hash32 AuditEvent)} (h : Stores db es)
    (hrow : db.auditAnchor.isSome = true) (fs : List AuditEvent) :
    ∃ db', log.appendAll fs db = .ok db' ∧
      Stores db' (es ++ chainOf (computeEntryHash log.key) (endHash (zeros 32) es) fs) ∧
      db'.auditAnchor.isSome = true ∧
      (fs ≠ [] → db'.anchor = some (endHash (zeros 32)
        (es ++ chainOf (computeEntryHash log.key) (endHash (zeros 32) es) fs))) := by
  induction fs using List.reverseRecOn with
  | nil => exact ⟨db, rfl, by simpa [chainOf] using h, hrow, fun hne => absurd rfl hne⟩
  | append_singleton fs f ih =>
    obtain ⟨mid, hmid, hstores, hmidrow, -⟩ := ih
    obtain ⟨db', hdb', hstores', hrow', hanchor⟩ := append_stores hchain hstores hmidrow f
    have hend : endHash (zeros 32) (es ++ chainOf (computeEntryHash log.key)
        (endHash (zeros 32) es) fs) = endHash (endHash (zeros 32) es)
        (chainOf (computeEntryHash log.key) (endHash (zeros 32) es) fs) := endHash_append _ _ _
    rw [hend] at hstores' hanchor
    refine ⟨db', ?_, ?_, hrow', fun _ => ?_⟩
    · rw [SqliteAuditLog.appendAll, List.foldlM_append]
      have hfold : fs.foldlM (fun db e => log.append e db) db = .ok mid := hmid
      simp [hfold, bind, Except.bind, hdb', pure, Except.pure]
    · rw [chainOf_append, ← List.append_assoc]
      exact hstores'
    · rw [chainOf_append, ← List.append_assoc, hanchor, chainOf, chainOf, endHash_snoc]
      rfl

/-! ## Verification of an appended log -/

/-- The messages hashed by successive appends after an entry with the hash `prev`. -/
def appendMessages (key : Hash32) : Hash32 → List AuditEvent → List Bytes
  | _, [] => []
  | prev, e :: es => entryData prev e :: appendMessages key (computeEntryHash key prev e) es

theorem appendMessages_eq (key prev : Hash32) (es : List AuditEvent) : appendMessages key prev es =
    (chainOf (computeEntryHash key) prev es).map fun e => entryData e.prev e.body := by
  induction es generalizing prev with
  | nil => rfl
  | cons e es ih =>
    rw [appendMessages, chainOf, List.map_cons, ih]
    rfl

/-- The messages hashed in a run: `es` are appended, the last `k` rows are deleted, `fs` are
appended, and the result is verified. -/
def runMessages (key : Hash32) (es fs : List AuditEvent) (k : Nat) (later : AuditDb) : List Bytes :=
  appendMessages key (zeros 32) es ++
    (appendMessages key (zeros 32) (es.take (es.length - k) ++ fs) ++
      hashedMessages key {} later.auditLog)

/-- A stored chain whose end is anchored is accepted when no hash changes by reading the
events back. -/
theorem verify_stored_iff {key : Hash32} {db : AuditDb} {es : List (Entry Hash32 AuditEvent)}
    (h : Stores db es) (hlinked : Linked (computeEntryHash key) (zeros 32) es)
    (hanchor : db.anchor = some (endHash (zeros 32) es)) :
    (verifyAuditChain key db).ok = true ↔
    ∀ e ∈ es, computeEntryHash key e.prev (asRead e.body) = computeEntryHash key e.prev e.body := by
  rw [← linked_map_body hlinked, verifyAuditChain_ok_iff]
  constructor
  · rintro ⟨ds, hmap, hds, -⟩
    obtain rfl := List.map_injective_iff.mpr (Option.some_injective _) (h.symm.trans hmap)
    exact hds
  · intro hread
    refine ⟨_, h, hread, ?_⟩
    rw [hanchor]
    exact congrArg some (endHash_map_body asRead _ _).symm

/-- Under an HMAC without collisions, it is accepted when no text has a NUL byte. -/
theorem verify_stored_iff_no_nul {key : Hash32} {db : AuditDb} {as : List AuditEvent}
    (h : Stores db (chainOf (computeEntryHash key) (zeros 32) as))
    (hanchor : db.anchor = some (endHash (zeros 32) (chainOf (computeEntryHash key) (zeros 32) as)))
    (hcollision : NoCollision key
      (appendMessages key (zeros 32) as ++ hashedMessages key {} db.auditLog)) :
    (verifyAuditChain key db).ok = true ↔ ∀ a ∈ as, ¬ HasNul a := by
  have hlinked : Linked (computeEntryHash key) (zeros 32)
      (chainOf (computeEntryHash key) (zeros 32) as) := linked_chainOf _ _
  rw [verify_stored_iff h hlinked hanchor]
  constructor
  · intro hread a ha
    obtain ⟨e, he, rfl⟩ : ∃ e ∈ chainOf (computeEntryHash key) (zeros 32) as, e.body = a := by
      rw [← List.mem_map, map_body_chainOf]
      exact ha
    have hlinked' : Linked (computeEntryHash key) (zeros 32)
        ((chainOf (computeEntryHash key) (zeros 32) as).map readBack) :=
      (linked_map_body hlinked).mpr hread
    rw [appendMessages_eq, hashedMessages_of_linked key h hlinked', List.map_map] at hcollision
    have hmessage := hcollision _ (List.mem_append_right _ (List.mem_map_of_mem he)) _
      (List.mem_append_left _ (List.mem_map_of_mem he)) (hread e he)
    exact asRead_eq_self.mp (entryData_asRead hmessage)
  · intro hno e he
    rw [asRead_eq_self.mpr (hno _ (body_mem_of_mem_chainOf he))]

include hchain in
/-- After a truncation and at least one further append, the database is refused exactly when
some event that is left or was appended has a NUL byte in a text. -/
theorem truncation_noticed_iff (es fs : List AuditEvent) (hfs : fs ≠ []) (k : Nat) :
    ∃ written later,
      log.appendAll es (SqliteAuditLog.initSchema {}) = .ok written ∧
      log.appendAll fs (written.truncate k) = .ok later ∧
      (NoCollision log.key (runMessages log.key es fs k later) →
        ((verifyAuditChain log.key later).ok = false ↔
          ∃ e ∈ es.take (es.length - k) ++ fs, HasNul e)) := by
  have hempty : Stores (SqliteAuditLog.initSchema {}) [] := rfl
  obtain ⟨written, hwritten, hstores, hrow, -⟩ := appendAll_stores hchain hempty rfl es
  obtain ⟨later, hlater, hstores', -, hanchor⟩ :=
    appendAll_stores hchain (hstores.truncate k) hrow fs
  refine ⟨written, later, hwritten, hlater, fun hcollision => ?_⟩
  have hchain_eq : (chainOf (computeEntryHash log.key) (zeros 32) es).take
      ((chainOf (computeEntryHash log.key) (zeros 32) es).length - k) =
      chainOf (computeEntryHash log.key) (zeros 32) (es.take (es.length - k)) := by
    rw [length_chainOf, take_chainOf]
  simp only [List.nil_append, endHash_nil] at hstores' hanchor
  rw [hchain_eq, ← chainOf_append] at hstores' hanchor
  have hcollision' : NoCollision log.key
      (appendMessages log.key (zeros 32) (es.take (es.length - k) ++ fs) ++
        hashedMessages log.key {} later.auditLog) := fun a ha b hb =>
    hcollision a (List.mem_append_right _ ha) b (List.mem_append_right _ hb)
  rw [← Bool.not_eq_true, verify_stored_iff_no_nul hstores' (hanchor hfs) hcollision']
  push Not
  rfl

include hchain in
/-- Truncation is noticed as long as nothing is appended. The chain is compared over the
bytes that are hashed, so that no bound on the texts is needed. -/
theorem truncation_detected (es : List AuditEvent) (k : Nat) (hk : 0 < k) (hle : k ≤ es.length) :
    ∃ written, log.appendAll es (SqliteAuditLog.initSchema {}) = .ok written ∧
      (NoCollision log.key (appendMessages log.key (zeros 32) es) →
        NoZero log.key (appendMessages log.key (zeros 32) es) →
        (verifyAuditChain log.key (written.truncate k)).ok = false) := by
  have hempty : Stores (SqliteAuditLog.initSchema {}) [] := rfl
  obtain ⟨written, hwritten, hstores, -, hanchor⟩ := appendAll_stores hchain hempty rfl es
  refine ⟨written, hwritten, fun hcollision hzero => ?_⟩
  let chain := chainOf (computeEntryHash log.key) (zeros 32) es
  let bytes : Entry Hash32 AuditEvent → Entry Hash32 Bytes :=
    fun e => ⟨e.prev, eventFields e.body, e.hash⟩
  let digest (prev : Hash32) (fields : Bytes) : Hash32 :=
    hmacSha256 log.key.toList (prev.toList ++ fields)
  have hlinked : Linked digest (zeros 32) (chain.map bytes) :=
    (linked_map_body (linked_chainOf _ _)).mpr fun _ _ => rfl
  have hne : es ≠ [] := by
    rintro rfl
    simp at hle
    omega
  rw [← Bool.not_eq_true, verifyAuditChain_ok_iff]
  rintro ⟨ds, hmap, -, hend⟩
  obtain rfl := List.map_injective_iff.mpr (Option.some_injective _)
    ((hstores.truncate k).symm.trans hmap)
  have hsame : endHash (zeros 32) ((chain.take (chain.length - k)).map bytes) =
      endHash (zeros 32) (chain.map bytes) := by
    have hlast := Option.some.inj ((hanchor hne).symm.trans hend)
    have hread := endHash_map_body asRead (zeros 32) (chain.take (chain.length - k))
    have hbytes : ∀ es : List (Entry Hash32 AuditEvent),
        endHash (zeros 32) (es.map bytes) = endHash (zeros 32) es := endHash_map_body eventFields _
    rw [hbytes, hbytes, ← hread]
    exact hlast.symm
  have hmem : ∀ e ∈ chain.map bytes, e.prev.toList ++ e.body ∈
      appendMessages log.key (zeros 32) es := by
    intro e he
    obtain ⟨a, ha, rfl⟩ := List.mem_map.mp he
    rw [appendMessages_eq]
    exact List.mem_map_of_mem ha
  have hunique : (chain.map bytes).take (chain.length - k) = chain.map bytes := by
    refine linked_unique (hlinked.take _) hlinked ?_ ?_ (by rw [← List.map_take, hsame])
    · intro e he d hd hdigest
      have hbytes := hcollision _ (hmem e (List.mem_of_mem_take he)) _ (hmem d hd) hdigest
      obtain ⟨hprev, hbody⟩ := List.append_inj hbytes (by simp)
      exact ⟨Vector.toList_inj.mp hprev, hbody⟩
    · rintro e (he | he)
      · exact hzero _ (hmem e (List.mem_of_mem_take he))
      · exact hzero _ (hmem e he)
  have hlength := congrArg List.length hunique
  simp [chain] at hlength
  omega

end

/-! ## A truncated log -/

/-- The log after the second entry was deleted and a third was appended. -/
def sampleLater : AuditDb :=
  letI : Sodium := .trailing
  (sampleLog.appendAll [allowedEvent 3] (sampleWritten.truncate 1)).toOption.getD {}

theorem sample_appends :
    letI : Sodium := .trailing
    sampleLog.appendAll [allowedEvent 1, allowedEvent 2] (SqliteAuditLog.initSchema {}) =
        .ok sampleWritten ∧
      sampleLog.appendAll [allowedEvent 3] (sampleWritten.truncate 1) = .ok sampleLater := by
  decide +kernel

theorem sample_noCollision :
    letI : Sodium := .trailing
    NoCollision sampleLog.key (runMessages sampleLog.key
      [allowedEvent 1, allowedEvent 2] [allowedEvent 3] 1 sampleLater) := by
  unfold NoCollision
  decide +kernel

/-- The deletion of the last entry is noticed; after a further append, it is not any more. -/
theorem truncation_forgotten :
    letI : Sodium := .trailing
    sampleLog.appendAll [allowedEvent 1, allowedEvent 2] (SqliteAuditLog.initSchema {}) =
        .ok sampleWritten ∧
      (verifyAuditChain sampleLog.key (sampleWritten.truncate 1)).ok = false ∧
      sampleLog.appendAll [allowedEvent 3] (sampleWritten.truncate 1) = .ok sampleLater ∧
      (verifyAuditChain sampleLog.key sampleLater).ok = true ∧
      NoCollision sampleLog.key (runMessages sampleLog.key
        [allowedEvent 1, allowedEvent 2] [allowedEvent 3] 1 sampleLater) ∧
      NoZero sampleLog.key (runMessages sampleLog.key
        [allowedEvent 1, allowedEvent 2] [allowedEvent 3] 1 sampleLater) := by
  refine ⟨sample_appends.1, ?_, sample_appends.2, ?_, sample_noCollision, ?_⟩
  · decide +kernel
  · decide +kernel
  · unfold NoZero
    decide +kernel

theorem truncation_noticed_iff_sample :
    letI : Sodium := .trailing
    (verifyAuditChain sampleLog.key sampleLater).ok = false ↔
      ∃ e ∈ [allowedEvent 1, allowedEvent 3], HasNul e := by
  let _ : Sodium := .trailing
  have hchain : sampleLog.chainEnabled = true := rfl
  obtain ⟨written, later, hwritten, hlater, hiff⟩ := truncation_noticed_iff hchain
    [allowedEvent 1, allowedEvent 2] [allowedEvent 3] (by simp) 1
  obtain rfl : sampleWritten = written := Except.ok.inj (sample_appends.1.symm.trans hwritten)
  obtain rfl : sampleLater = later := Except.ok.inj (sample_appends.2.symm.trans hlater)
  exact hiff sample_noCollision

end AccessSecurity.Storage
