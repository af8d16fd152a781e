import AccessSecurity.Storage.Untampered

/-!
# A log that verifies

A log that verifies is the chain of the events that can be read from it, with the anchor at its
end (`verifies_iff_sound`). So the verifier accepts exactly what `SqliteAuditLog` writes
(`verifies_iff_written`).
-/

namespace AccessSecurity.Storage

open Foundation Foundation.HashChain Crypto Decision

/-- The events that can be read from the log. -/
def loggedEvents (db : AuditDb) : List AuditEvent :=
  db.auditLog.filterMap fun st => (extractedValues st).map Entry.body

theorem loggedEvents_eq {db : AuditDb} {es : List (Entry Hash32 AuditEvent)}
    (h : db.auditLog.map extractedValues = es.map some) : loggedEvents db = es.map Entry.body := by
  have hmap := congrArg (List.filterMap (Option.map Entry.body)) h
  simpa [loggedEvents, List.filterMap_map, Function.comp_def] using hmap

/-- A text that is read from a column ends before its first NUL byte. -/
theorem noNul_of_extractedValues {st : LogRow} {e : Entry Hash32 AuditEvent}
    (h : extractedValues st = some e) : ¬ HasNul e.body := by
  obtain ⟨row, hrow, rfl⟩ := Option.map_eq_some_iff.mp h
  simp only [extractRow, Option.bind_eq_bind, Option.bind_eq_some_iff, Option.pure_def,
    Option.some.injEq] at hrow
  obtain ⟨_, -, _, -, rfl⟩ := hrow
  rintro (hreason | hcard | haction)
  · exact zero_notMem_cString _ hreason
  · exact zero_notMem_cString _ hcard
  · exact zero_notMem_cString _ haction

/-- Entries without NUL bytes are stored as they are. -/
theorem map_readBack {es : List (Entry Hash32 AuditEvent)} (h : ∀ e ∈ es, ¬ HasNul e.body) :
    es.map readBack = es := by
  refine (List.map_congr_left fun e he => ?_).trans (List.map_id es)
  rw [readBack, asRead_eq_self.mpr (h e he)]
  rfl

section

variable [Sodium] {key : Hash32} {db : AuditDb} {as : List AuditEvent}

theorem Sound.loggedEvents_eq (h : Sound key db as) : loggedEvents db = as := by
  have hstores := h.stores
  rw [Stores, map_readBack fun e he => h.noNul _ (body_mem_of_mem_chainOf he)] at hstores
  rw [Storage.loggedEvents_eq hstores, map_body_chainOf]

theorem verifies_iff_sound :
    (verifyAuditChain key db).ok = true ↔ Sound key db (loggedEvents db) := by
  refine ⟨fun h => ?_, Sound.verifies⟩
  obtain ⟨es, hrows, hlinked, hanchor⟩ := (verifyAuditChain_ok_iff key).mp h
  have hnul : ∀ e ∈ es, ¬ HasNul e.body := by
    intro e he
    have hmem : some e ∈ db.auditLog.map extractedValues := by
      rw [hrows]
      exact List.mem_map_of_mem he
    obtain ⟨st, -, hst⟩ := List.mem_map.mp hmem
    exact noNul_of_extractedValues hst
  rw [Storage.loggedEvents_eq hrows]
  refine ⟨?_, ?_, ?_⟩
  · rw [← hlinked.eq_chainOf, Stores, hrows, map_readBack hnul]
  · rw [← hlinked.eq_chainOf]
    exact hanchor
  · intro a ha
    obtain ⟨e, he, rfl⟩ := List.mem_map.mp ha
    exact hnul e he

/-- Two logs that are the chain of the same events differ in nothing that is verified. -/
theorem Sound.agree {db' : AuditDb} (h : Sound key db as) (h' : Sound key db' as) :
    db.auditLog.map extractedValues = db'.auditLog.map extractedValues ∧ db.anchor = db'.anchor :=
  ⟨h.stores.trans h'.stores.symm, h.anchor.trans h'.anchor.symm⟩

/-- The verifier accepts a log exactly when some events, appended to a new log one by one, give
the same values in the rows and the same anchor. -/
theorem verifies_iff_written (key : Hash32) (db : AuditDb) :
    (verifyAuditChain key db).ok = true ↔ ∃ es db', (∀ e ∈ es, ¬ HasNul e) ∧
      SqliteAuditLog.appendAll ⟨key, true⟩ es (SqliteAuditLog.initSchema {}) = .ok db' ∧
      db.auditLog.map extractedValues = db'.auditLog.map extractedValues ∧
      db.anchor = db'.anchor := by
  constructor
  · intro h
    have hsound := verifies_iff_sound.mp h
    obtain ⟨db', happend, hwritten⟩ := (sound_initSchema_empty key).appendAll hsound.noNul
    exact ⟨_, db', hsound.noNul, happend, hsound.agree hwritten⟩
  · rintro ⟨es, db', hnul, happend, hrows, hanchor⟩
    obtain ⟨written, happend', hwritten⟩ := (sound_initSchema_empty key).appendAll hnul
    obtain rfl := Except.ok.inj (happend.symm.trans happend')
    have hsound : Sound key db es :=
      ⟨hrows.trans hwritten.stores, hanchor.trans hwritten.anchor, hnul⟩
    exact hsound.verifies

end

end AccessSecurity.Storage
