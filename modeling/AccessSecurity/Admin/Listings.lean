import AccessSecurity.Admin.AuditListing
import AccessSecurity.Admin.Entitlement
import AccessSecurity.Storage.Listings

/-!
# Listings for the administrator

The services that list readers, roles of doors, cards and the audit log. What they show is what
the history of operations says, sorted and without duplicates (`reader_listing_exact`,
`role_listing_exact`); the pages of a listing of cards make up the whole
(`card_pages_exact`), and the pages of the audit log leave no entry out, although entries are
appended while they are read (`audit_pages_complete`).
-/

namespace AccessSecurity.Admin

open Foundation Crypto Decision Storage

/-! ## Readers -/

/-- A row of the answer. -/
structure ReaderJson where
  readerId : UInt32
  currentKeyVersion : UInt32
  doors : List UInt32
  deriving DecidableEq, Repr

/-- `byReader[d.reader_id].push_back(d.door_id)` -/
def pushDoor (byReader : UInt32 → List UInt32) (d : ReaderDoorRow) : UInt32 → List UInt32 :=
  Function.update byReader d.readerId (byReader d.readerId ++ [d.doorId])

def ReaderJson.of (byReader : UInt32 → List UInt32) (r : ReaderRow) : ReaderJson where
  readerId := r.readerId
  currentKeyVersion := r.currentKeyVersion
  doors := byReader r.readerId

def Service.listReaders (db : AccessDb) : List ReaderJson :=
  let readers := SqliteAccessStore.listReaders db
  let doors := SqliteAccessStore.listReaderDoors 0 db
  let byReader := doors.foldl pushDoor fun _ => []
  readers.map (.of byReader)

/-- The loop that groups the doors keeps their order. -/
theorem byReader_eq (doors : List ReaderDoorRow) (start : UInt32 → List UInt32) (reader : UInt32) :
    doors.foldl pushDoor start reader =
      start reader ++ (doors.filter (·.readerId = reader)).map (·.doorId) := by
  induction doors generalizing start with
  | nil => simp
  | cons d doors ih =>
    rw [List.foldl_cons, ih]
    unfold pushDoor
    by_cases hd : d.readerId = reader
    · subst hd
      simp
    · rw [Function.update_of_ne (Ne.symm hd), List.filter_cons_of_neg (by simpa using hd)]

/-- The doors of one reader. -/
theorem lists_doorsOf {db : AccessDb} (h : Written db) (reader : UInt32) :
    Lists idOrder (fun door => (bindInt reader, bindInt door) ∈ db.readerDoors)
      (((SqliteAccessStore.listReaderDoors 0 db).filter (·.readerId = reader)).map (·.doorId)) := by
  have hrows := (SqliteAccessStore.lists_listReaderDoors h).filter (·.readerId = reader)
  refine (hrows.map_of_lt ?_).congr ?_
  · intro a ha b hb hlt
    have hreader : ∀ {row}, row ∈ (SqliteAccessStore.listReaderDoors 0 db).filter
        (·.readerId = reader) → row.readerId = reader := fun hrow =>
      of_decide_eq_true (List.mem_filter.mp hrow).2
    rw [hreader ha, hreader hb, Prod.Lex.toLex_lt_toLex] at hlt
    rcases hlt with hlt | ⟨-, hlt⟩
    · exact absurd hlt (lt_irrefl _)
    · exact hlt
  · intro door
    constructor
    · rintro ⟨⟨r, d⟩, ⟨hmem, hreader⟩, rfl⟩
      obtain rfl := of_decide_eq_true hreader
      exact hmem
    · exact fun hmem => ⟨⟨reader, door⟩, ⟨hmem, by simp⟩, rfl⟩

def Service.listDoorRoles (db : AccessDb) : List DoorRoleRow := SqliteAccessStore.listDoorRoles 0 db

/-- The listing of roles shows the roles that were allowed on a door and not revoked since. -/
theorem role_listing_exact (ops : List StoreOp) :
    Lists (fun row => toLex (idOrder row.doorId, textOrder row.role))
      (fun row => AllowedSince ops row.doorId row.role)
      (Service.listDoorRoles (run StoreOp.step .empty ops)) :=
  (SqliteAccessStore.lists_listDoorRoles (written_run ops)).congr fun row => by
    rw [AllowedSince, ← isAllowed_run_iff, SqliteAccessStore.isAllowed, decide_eq_true_eq]

/-! ## Cards -/

theorem toNatClampNeg_toInt64 {n : UInt64} (h : n.toNat < 2 ^ 63) :
    n.toInt64.toNatClampNeg = n.toNat := by
  have hint := (toInt_toInt64_eq_iff n).mpr h
  rw [Int64.toNatClampNeg, hint, Int.toNat_natCast]

theorem limitOffset64_eq {α : Type} {limit offset : UInt64} (hlimit : limit.toNat < 2 ^ 63)
    (hoffset : offset.toNat < 2 ^ 63) (rows : List α) :
    SqliteAccessStore.limitOffset64 limit offset rows = pageOf limit.toNat offset.toNat rows := by
  have hpositive : ¬ limit.toInt64 < 0 := by
    rw [Int64.lt_iff_toInt_lt, (toInt_toInt64_eq_iff limit).mpr hlimit]
    simp
  simp only [SqliteAccessStore.limitOffset64, if_neg hpositive, toNatClampNeg_toInt64 hlimit,
    toNatClampNeg_toInt64 hoffset, pageOf]

def Service.listCards (limit offset : UInt64) (db : AccessDb) : List CardRow :=
  SqliteAccessStore.listCards limit offset db

/-- The first pages of cards, one after the other, show each card that is enrolled and its role,
sorted and once, when there are enough of them. -/
theorem card_pages_exact (ops : List StoreOp) {n : UInt64} {k : Nat}
    (hrange : k * n.toNat < 2 ^ 63)
    (henough : (run StoreOp.step .empty ops).cards.entries.length ≤ k * n.toNat) :
    Lists (fun row => textOrder row.cardHmac) (fun row => Enrolled ops row.cardHmac row.role)
      ((List.range k).map fun i => Service.listCards n (.ofNat (i * n.toNat))
        (run StoreOp.step .empty ops)).flatten := by
  have hwritten := written_run ops
  have hpages : ((List.range k).map fun i => Service.listCards n (.ofNat (i * n.toNat))
      (run StoreOp.step .empty ops)).flatten =
        (sortList (fun row => textOrder row.1)
          (run StoreOp.step .empty ops).cards.entries).map fun row =>
            { cardHmac := cString row.1
              role := cString row.2 : CardRow } := by
    have hpage : ∀ i ∈ List.range k, Service.listCards n (.ofNat (i * n.toNat))
        (run StoreOp.step .empty ops) = (pageOf n.toNat (i * n.toNat) (sortList
          (fun row => textOrder row.1) (run StoreOp.step .empty ops).cards.entries)).map
            fun row =>
              { cardHmac := cString row.1
                role := cString row.2 : CardRow } := by
      intro i hi
      have hnext : (i + 1) * n.toNat ≤ k * n.toNat :=
        Nat.mul_le_mul_right _ (List.mem_range.mp hi)
      rw [Nat.succ_mul] at hnext
      have hoffset : (UInt64.ofNat (i * n.toNat)).toNat = i * n.toNat := by
        rw [UInt64.toNat_ofNat']
        omega
      rw [Service.listCards, SqliteAccessStore.listCards,
        limitOffset64_eq (by omega) (by omega), hoffset]
    rw [List.map_congr_left hpage, ← Function.comp_def (List.map _), ← List.map_map,
      ← List.map_flatten, flatten_pages, List.take_of_length_le]
    rwa [sortList, List.length_mergeSort]
  rw [hpages]
  refine (SqliteAccessStore.lists_cards hwritten).congr fun row => ?_
  rw [enrolled_iff]
  change _ ↔ ((run StoreOp.step .empty ops).cards.lookup row.cardHmac).map cString = some row.role
  cases hlookup : (run StoreOp.step .empty ops).cards.lookup row.cardHmac with
  | none => simp
  | some text =>
    obtain ⟨_, role, heq⟩ := hwritten.cards _ (AList.mem_lookup_iff.mp hlookup)
    obtain ⟨-, hrole⟩ := Sigma.mk.inj heq
    obtain rfl := eq_of_heq hrole
    rw [Option.map_some, cString_cString]

/-- Three cards. -/
def cardOps : List StoreOp :=
  [.upsertCardHmac (bytesOf "c2") (bytesOf "guard"),
    .upsertCardHmac (bytesOf "a7") (bytesOf "clerk"),
    .upsertCardHmac (bytesOf "b0") (bytesOf "guard")]

/-- They fit on two pages of two rows. -/
theorem card_pages_exact_two :
    Lists (fun row => textOrder row.cardHmac) (fun row => Enrolled cardOps row.cardHmac row.role)
      ((List.range 2).map fun i => Service.listCards 2 (.ofNat (i * (2 : UInt64).toNat))
        (run StoreOp.step .empty cardOps)).flatten :=
  card_pages_exact cardOps (by decide) (by decide +kernel)

/-! ## The audit log -/

/-- What happens while an administrator reads the log: an entry is appended, or the next page is
fetched. -/
inductive AuditStep where
  | append (e : AuditEvent)
  | fetch
  deriving DecidableEq, Repr

/-- The log, and the pages that have been shown. -/
structure Paging where
  db : AuditDb
  pages : List (List AuditJson) := []

/-- An entry that cannot be appended leaves the log as it is. -/
def Paging.step [Sodium] (log : SqliteAuditLog) (limit : Int32) (s : Paging) : AuditStep → Paging
  | .append e => { s with db := (log.append e s.db).toOption.getD s.db }
  | .fetch =>
    match listAuditLog {} s.db limit (.ofNat (s.pages.length * limit.toNatClampNeg)) with
    | .ok rows => { s with pages := s.pages ++ [rows] }
    | .error _ => s

theorem limitOffset_ofNat {α : Type} {limit : Int32} (hlimit : 0 < limit) {m : Nat}
    (hm : m < 2 ^ 31) (rows : List α) :
    limitOffset limit (.ofNat m) rows = pageOf limit.toNatClampNeg m rows := by
  have hpositive : ¬ limit < 0 := by
    rw [Int32.lt_iff_toInt_lt] at hlimit ⊢
    omega
  have hoffset : (Int32.ofNat m).toNatClampNeg = m := by
    rw [Int32.toNatClampNeg, Int32.toInt_ofNat_of_lt hm, Int.toNat_natCast]
  simp only [limitOffset, if_neg hpositive, hoffset, pageOf]

/-- The logs from which the pages were taken, each a continuation of those before. -/
structure Fetched (limit : Nat) (start : List LogRow) (logs : List (List LogRow)) (s : Paging) :
    Prop where
  begins : ∀ l ∈ logs, start <+: l
  grows : logs.Pairwise (· <+: ·)
  current : ∀ l ∈ logs, l <+: s.db.auditLog
  length_eq : s.pages.length = logs.length
  pages_eq : ∀ j l, logs[j]? = some l →
    s.pages[j]? = some ((pageOf limit (j * limit) l.reverse).map parseAuditRow)

section

variable [Sodium] {log : SqliteAuditLog} {limit : Int32}

theorem log_step (s : Paging) (step : AuditStep) :
    s.db.auditLog <+: (s.step log limit step).db.auditLog := by
  cases step with
  | append e =>
    simp only [Paging.step]
    cases happend : log.append e s.db with
    | error e => exact List.prefix_rfl
    | ok db =>
      obtain ⟨id, prevHash, entryHash, hrow⟩ := append_rows happend
      exact ⟨_, hrow.symm⟩
  | fetch =>
    simp only [Paging.step]
    split
    · exact List.prefix_rfl
    · exact List.prefix_rfl

theorem Fetched.step {start : List LogRow} {logs : List (List LogRow)} {s : Paging}
    (h : Fetched limit.toNatClampNeg start logs s) (hlimit : 0 < limit)
    (hstart : start <+: s.db.auditLog)
    (hrange : s.pages.length * limit.toNatClampNeg < 2 ^ 31) (step : AuditStep) :
    ∃ logs', Fetched limit.toNatClampNeg start logs' (s.step log limit step) := by
  cases step with
  | append e =>
    have hlog : s.db.auditLog <+: (s.step log limit (.append e)).db.auditLog := log_step s _
    exact ⟨logs, { h with current := fun l hl => (h.current l hl).trans hlog }⟩
  | fetch =>
    have hpage : s.step log limit .fetch = { s with
        pages := s.pages ++ [(pageOf limit.toNatClampNeg (s.pages.length * limit.toNatClampNeg)
          s.db.auditLog.reverse).map parseAuditRow] } := by
      simp only [Paging.step, listAuditLog, limitOffset_ofNat hlimit hrange]
      rfl
    rw [hpage]
    refine ⟨logs ++ [s.db.auditLog], ?_, ?_, ?_, ?_, ?_⟩
    · simpa [or_imp, forall_and] using ⟨h.begins, hstart⟩
    · exact List.pairwise_append.mpr ⟨h.grows, List.pairwise_singleton _ _, by
        simpa using h.current⟩
    · simpa [or_imp, forall_and] using h.current
    · simp [h.length_eq]
    · intro j l hl
      rcases Nat.lt_or_ge j logs.length with hlt | hge
      · rw [List.getElem?_append_left hlt] at hl
        rw [List.getElem?_append_left (h.length_eq ▸ hlt)]
        exact h.pages_eq j l hl
      · rw [List.getElem?_append_right hge] at hl
        have hlast := (List.getElem?_eq_some_iff.mp hl).1
        rw [List.length_singleton] at hlast
        obtain rfl : j = logs.length := by omega
        rw [Nat.sub_self] at hl
        obtain rfl := Option.some.inj hl
        rw [List.getElem?_append_right h.length_eq.le, h.length_eq, Nat.sub_self]
        rfl

theorem fetched_run (hlimit : 0 < limit) (db : AuditDb) (steps : List AuditStep)
    (hrange : (run (Paging.step log limit) { db } steps).pages.length * limit.toNatClampNeg <
      2 ^ 31) :
    ∃ logs, Fetched limit.toNatClampNeg db.auditLog logs
      (run (Paging.step log limit) { db } steps) := by
  suffices hboth : db.auditLog <+: (run (Paging.step log limit) { db } steps).db.auditLog ∧
      ∃ logs, Fetched limit.toNatClampNeg db.auditLog logs
        (run (Paging.step log limit) { db } steps) from hboth.2
  induction steps using List.reverseRecOn with
  | nil => exact ⟨List.prefix_rfl, [], nofun, .nil, nofun, rfl, nofun⟩
  | append_singleton steps step ih =>
    rw [run_snoc] at hrange ⊢
    have hfewer : (run (Paging.step log limit) { db } steps).pages.length *
        limit.toNatClampNeg < 2 ^ 31 := by
      refine (Nat.mul_le_mul_right _ ?_).trans_lt hrange
      cases step with
      | append e => exact le_rfl
      | fetch =>
        simp only [Paging.step]
        split
        · simp
        · exact le_rfl
    obtain ⟨hstart, logs, hfetched⟩ := ih hfewer
    exact ⟨hstart.trans (log_step _ step), hfetched.step hlimit hstart hfewer step⟩

/-- An administrator asks for one page of the log after the other, while entries are appended.
Once a page is empty, every entry that was in the log at the beginning has been shown. -/
theorem audit_pages_complete (log : SqliteAuditLog) {limit : Int32} (hlimit : 0 < limit)
    (db : AuditDb) (steps : List AuditStep) {pages : List (List AuditJson)}
    (hpages : (run (Paging.step log limit) { db } steps).pages = pages ++ [[]])
    (hrange : (pages.length + 1) * limit.toNatClampNeg < 2 ^ 31) :
    ∀ row ∈ db.auditLog, ∃ page ∈ pages, parseAuditRow row ∈ page := by
  obtain ⟨logs, hfetched⟩ := fetched_run hlimit db steps (by rwa [hpages, List.length_append])
  have hlength : logs.length = pages.length + 1 := by
    rw [← hfetched.length_eq, hpages, List.length_append, List.length_singleton]
  obtain ⟨current, hcurrent⟩ :
    ∃ l, l = (run (Paging.step log limit) { db } steps).db.auditLog := ⟨_, rfl⟩
  have hgrow : ∀ j, logs.getD j current <+: logs.getD (j + 1) current := by
    intro j
    have hlater : ∀ l ∈ logs, l <+: current := hcurrent ▸ hfetched.current
    rcases Nat.lt_or_ge (j + 1) logs.length with hlt | hge
    · rw [List.getD_eq_getElem _ _ hlt, List.getD_eq_getElem _ _ (by omega)]
      exact List.pairwise_iff_getElem.mp hfetched.grows j (j + 1) _ _ (by omega)
    · rw [List.getD_eq_default _ _ hge]
      rcases Nat.lt_or_ge j logs.length with hlt | hge
      · rw [List.getD_eq_getElem _ _ hlt]
        exact hlater _ (List.getElem_mem hlt)
      · rw [List.getD_eq_default _ _ hge]
  have hpage : ∀ j < logs.length, (pages ++ [[]])[j]? = some ((pageOf limit.toNatClampNeg
      (j * limit.toNatClampNeg) (logs.getD j current).reverse).map parseAuditRow) := by
    intro j hj
    rw [← hpages, List.getD_eq_getElem _ _ hj]
    exact hfetched.pages_eq j _ (List.getElem?_eq_getElem hj)
  have hempty : pageOf limit.toNatClampNeg (pages.length * limit.toNatClampNeg)
      (logs.getD pages.length current).reverse = [] := by
    have hlast := hpage pages.length (by omega)
    rw [List.getElem?_append_right le_rfl, Nat.sub_self] at hlast
    exact List.map_eq_nil_iff.mp (Option.some.inj hlast).symm
  have hpositive : 0 < limit.toNatClampNeg := by
    rw [Int32.lt_iff_toInt_lt] at hlimit
    rw [Int32.toNatClampNeg]
    simp only [Int32.toInt_zero] at hlimit
    omega
  intro row hrow
  have hfirst : row ∈ logs.getD 0 current := by
    have hlt : 0 < logs.length := by omega
    rw [List.getD_eq_getElem _ _ hlt]
    exact (hfetched.begins _ (List.getElem_mem hlt)).subset hrow
  obtain ⟨j, hj, hshown⟩ := skips_nothing hgrow hempty hpositive hfirst
  have hmem := hpage j (by omega)
  rw [List.getElem?_append_left hj] at hmem
  exact ⟨_, List.mem_of_getElem? hmem, List.mem_map_of_mem hshown⟩

end

/-- Two entries are read one by one. A third one is appended after the first page, so that the
second page shows the same row again, and the fourth is empty. -/
theorem audit_pages_complete_appended :
    letI : Sodium := .trailing
    let steps := [AuditStep.fetch, .append (allowedEvent 3), .fetch, .fetch, .fetch]
    let pages := (run (Paging.step sampleLog 1) { db := sampleWritten } steps).pages
    ∀ row ∈ sampleWritten.auditLog, ∃ page ∈ pages.take 3, parseAuditRow row ∈ page := by
  let _ : Sodium := .trailing
  exact audit_pages_complete sampleLog (by decide : (0 : Int32) < 1) sampleWritten
    [.fetch, .append (allowedEvent 3), .fetch, .fetch, .fetch] (by decide +kernel)
    (by decide +kernel)

end AccessSecurity.Admin
