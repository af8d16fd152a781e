import AccessSecurity.Storage.Truncation

/-!
# Truncation with a forged anchor

The anchor is a row of the same file as the log, and what it has to hold stands in the
last row that is kept. Someone who can delete rows can also put that value there, without
the key (`forged_accepted`); every other value is refused (`forged_rejected_iff`).
-/

namespace AccessSecurity.Storage

open Foundation Foundation.HashChain Crypto Decision

/-- The first `k` rows, with another hash in the anchor. -/
def AuditDb.forge (db : AuditDb) (k : Nat) (anchor : Hash32) : AuditDb :=
  { db with
    auditLog := db.auditLog.take k
    auditAnchor := db.auditAnchor.map fun row => { row with lastHash := some anchor.toList } }

/-- Some row stores this hash. -/
def AuditDb.Mentions (db : AuditDb) (hash : Hash32) : Prop :=
  ∃ row ∈ db.auditLog, hashBlob row.prevHash = some hash ∨ hashBlob row.entryHash = some hash

instance (db : AuditDb) (hash : Hash32) : Decidable (db.Mentions hash) := by
  unfold AuditDb.Mentions
  infer_instance

theorem Stores.forge {db : AuditDb} {es : List (Entry Hash32 AuditEvent)} (h : Stores db es)
    (k : Nat) (anchor : Hash32) : Stores (db.forge k anchor) (es.take k) := by
  unfold Stores AuditDb.forge at *
  rw [List.map_take, List.map_take, List.map_take, h]

theorem anchor_forge {db : AuditDb} (hrow : db.auditAnchor.isSome = true) (k : Nat)
    (anchor : Hash32) : (db.forge k anchor).anchor = some anchor := by
  obtain ⟨row, hrow⟩ := Option.isSome_iff_exists.mp hrow
  simp [AuditDb.forge, AuditDb.anchor, hrow]

section

variable [Sodium]

/-- A stored log is refused whenever its anchor is not the hash of its last row. -/
theorem verify_stored_rejected {key : Hash32} {db : AuditDb} {es : List (Entry Hash32 AuditEvent)}
    (h : Stores db es) (hanchor : db.anchor ≠ some (endHash (zeros 32) es)) :
    (verifyAuditChain key db).ok = false := by
  rw [← Bool.not_eq_true, verifyAuditChain_ok_iff]
  rintro ⟨ds, hmap, -, hend⟩
  obtain rfl := List.map_injective_iff.mpr (Option.some_injective _) (h.symm.trans hmap)
  apply hanchor
  rw [hend]
  exact congrArg some (endHash_map_body asRead _ _)

/-- The first `k` rows with a chosen anchor are refused when the anchor is not the hash that
stands in the last row kept (all zeros when none is); under an HMAC without collisions
otherwise only for a NUL byte in a text that is kept. -/
theorem forged_rejected_iff {log : SqliteAuditLog} (hchain : log.chainEnabled = true)
    (es : List AuditEvent) (k : Nat) (anchor : Hash32) :
    ∃ written, log.appendAll es (SqliteAuditLog.initSchema {}) = .ok written ∧
      (SqliteAuditLog.getLastEntryHash (written.forge k anchor) ≠ .ok anchor →
        (verifyAuditChain log.key (written.forge k anchor)).ok = false) ∧
      (NoCollision log.key (appendMessages log.key (zeros 32) (es.take k) ++
          hashedMessages log.key {} (written.forge k anchor).auditLog) →
        ((verifyAuditChain log.key (written.forge k anchor)).ok = false ↔
          SqliteAuditLog.getLastEntryHash (written.forge k anchor) ≠ .ok anchor ∨
            ∃ e ∈ es.take k, HasNul e)) := by
  have hempty : Stores (SqliteAuditLog.initSchema {}) [] := rfl
  obtain ⟨written, hwritten, hstores, hrow, -⟩ := appendAll_stores hchain hempty rfl es
  simp only [List.nil_append, endHash_nil] at hstores
  have hforged := hstores.forge k anchor
  rw [take_chainOf] at hforged
  have hanchor := anchor_forge hrow k anchor
  have hlast := hforged.getLastEntryHash
  have hreject : SqliteAuditLog.getLastEntryHash (written.forge k anchor) ≠ .ok anchor →
      (verifyAuditChain log.key (written.forge k anchor)).ok = false := by
    intro hne
    apply verify_stored_rejected hforged
    rintro hend
    obtain rfl := Option.some.inj (hanchor.symm.trans hend)
    exact hne hlast
  refine ⟨written, hwritten, hreject, fun hcollision => ?_⟩
  by_cases hne : SqliteAuditLog.getLastEntryHash (written.forge k anchor) = .ok anchor
  · obtain rfl := Except.ok.inj (hlast.symm.trans hne)
    rw [← Bool.not_eq_true, verify_stored_iff_no_nul hforged hanchor hcollision]
    simp [hne]
  · exact ⟨fun _ => .inl hne, fun _ => hreject hne⟩

end

/-- The entry hash of the first row of the sample log. -/
def sampleForged : Hash32 :=
  ((sampleWritten.auditLog.head?.bind fun row => hashBlob row.entryHash).getD (zeros 32))

theorem forged_rejected_iff_sample :
    letI : Sodium := .trailing
    (verifyAuditChain sampleLog.key (sampleWritten.forge 1 (zeros 32))).ok = false := by
  let _ : Sodium := .trailing
  have hchain : sampleLog.chainEnabled = true := rfl
  obtain ⟨written, hwritten, hreject, -⟩ :=
    forged_rejected_iff hchain [allowedEvent 1, allowedEvent 2] 1 (zeros 32)
  obtain rfl : sampleWritten = written := Except.ok.inj (sample_appends.1.symm.trans hwritten)
  exact hreject (by decide +kernel)

/-- The second entry is deleted, and the first entry's hash, which its row shows, is put in
the anchor; or all rows are deleted and the anchor is filled with zeros. -/
theorem forged_accepted :
    letI : Sodium := .trailing
    sampleLog.appendAll [allowedEvent 1, allowedEvent 2] (SqliteAuditLog.initSchema {}) =
        .ok sampleWritten ∧
      (sampleWritten.forge 1 sampleForged).Mentions sampleForged ∧
      (verifyAuditChain sampleLog.key (sampleWritten.forge 1 sampleForged)).ok = true ∧
      (verifyAuditChain sampleLog.key (sampleWritten.forge 0 (zeros 32))).ok = true := by
  refine ⟨sample_appends.1, ?_, ?_, ?_⟩
  · decide +kernel
  · decide +kernel
  · decide +kernel

end AccessSecurity.Storage
