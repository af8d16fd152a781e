import AccessSecurity.Foundation.Since
import AccessSecurity.Storage.AccessStore

/-!
# Card and role tables

What is granted and which role a card has, as functions of the history of the operations
(`LeftGranted`, `LatestRole`). Two writers bind their texts up to the first NUL, while the
readers and the deleting functions bind them whole, so a text with a NUL is stored under
another one. `acts_as_map_iff` says in which histories this makes no difference.
-/

namespace AccessSecurity.Storage

open Foundation SqliteAccessStore

/-! ## Histories -/

/-- The role was allowed on the door and has not been revoked since. -/
def LeftGranted (ops : List StoreOp) (door : UInt32) (role : Bytes) : Prop :=
  Since (fun _ op => op = .allowRole door role) (· = .revokeRole door role) ops

/-- The operation gives the card a role or deletes the card. -/
def SetsCard (card : Bytes) (op : StoreOp) : Prop :=
  op = .deleteCardHmac card ∨ ∃ role, op = .upsertCardHmac card role

/-- The last operation on the card gave it this role. -/
def LatestRole (ops : List StoreOp) (card role : Bytes) : Prop :=
  Since (fun _ op => op = .upsertCardHmac card role) (SetsCard card) ops

/-- The store answers by the last operations on the door's role and on the card. -/
structure ActsAsMap (ops : List StoreOp) : Prop where
  allowed : ∀ door role,
    isAllowed door role (run StoreOp.step .empty ops) = true ↔ LeftGranted ops door role
  roles : ∀ card role,
    roleForCardHmac card (run StoreOp.step .empty ops) = some role ↔ LatestRole ops card role

/-! ## What the tables hold -/

/-- The operation stores something under the key, or deletes the key. -/
def Overwrites (key : Bytes) (op : StoreOp) : Prop :=
  op = .deleteCardHmac key ∨ ∃ card role, op = .upsertCardHmac card role ∧ cString card = key

theorem step_allowDoorForReader (db : AccessDb) (reader door : UInt32) :
    (StoreOp.step db (.allowDoorForReader reader door)).doorRoles = db.doorRoles ∧
      (StoreOp.step db (.allowDoorForReader reader door)).cards = db.cards := by
  simp only [StoreOp.step, StoreOp.exec, allowDoorForReader]
  split_ifs
  · exact ⟨rfl, rfl⟩
  · exact ⟨rfl, rfl⟩

theorem mem_doorRoles_step (db : AccessDb) (op : StoreOp) (door : UInt32) (text : Bytes) :
    (bindInt door, text) ∈ (op.step db).doorRoles ↔
      (∃ role, op = .allowRole door role ∧ cString role = text) ∨
        ((bindInt door, text) ∈ db.doorRoles ∧ op ≠ .revokeRole door text) := by
  cases op with
  | allowRole d role =>
    simp [StoreOp.step, StoreOp.exec, allowRole]
    grind
  | revokeRole d role =>
    simp [StoreOp.step, StoreOp.exec, revokeRole]
    grind
  | allowDoorForReader r d => simp [(step_allowDoorForReader db r d).1]
  | _ => simp [StoreOp.step, StoreOp.exec, upsertCardHmac, deleteCardHmac, upsertReader,
      deleteReader, revokeDoorForReader]

theorem lookup_cards_step (db : AccessDb) (op : StoreOp) (key text : Bytes) :
    (op.step db).cards.lookup key = some text ↔
      (∃ card role, op = .upsertCardHmac card role ∧ cString card = key ∧ cString role = text) ∨
        (db.cards.lookup key = some text ∧ ¬ Overwrites key op) := by
  unfold Overwrites
  cases op with
  | upsertCardHmac card role =>
    simp only [StoreOp.step, StoreOp.exec, upsertCardHmac]
    by_cases hkey : key = cString card
    · subst hkey
      rw [AList.lookup_insert]
      simp
    · rw [AList.lookup_insert_ne hkey]
      simp
      grind
  | deleteCardHmac card =>
    simp only [StoreOp.step, StoreOp.exec, deleteCardHmac]
    by_cases hkey : key = card
    · subst hkey
      simp
    · rw [AList.lookup_erase_ne hkey]
      simp
      grind
  | allowDoorForReader r d => simp [(step_allowDoorForReader db r d).2]
  | _ => simp [StoreOp.step, StoreOp.exec, allowRole, revokeRole, upsertReader,
      deleteReader, revokeDoorForReader]

theorem mem_doorRoles_run (ops : List StoreOp) (door : UInt32) (text : Bytes) :
    (bindInt door, text) ∈ (run StoreOp.step .empty ops).doorRoles ↔
      ∃ role, Since (fun _ op => op = .allowRole door role ∧ cString role = text)
        (· = .revokeRole door text) ops := by
  rw [← since_exists]
  exact run_since_iff (P := fun db : AccessDb => (bindInt door, text) ∈ db.doorRoles)
    (by simp [AccessDb.empty]) ops fun _ op _ => mem_doorRoles_step _ op door text

theorem lookup_cards_run (ops : List StoreOp) (key text : Bytes) :
    (run StoreOp.step .empty ops).cards.lookup key = some text ↔
      ∃ card role, Since (fun _ op => op = .upsertCardHmac card role ∧ cString card = key ∧
        cString role = text) (Overwrites key) ops := by
  simp only [← since_exists]
  exact run_since_iff (P := fun db : AccessDb => db.cards.lookup key = some text)
    (by simp [AccessDb.empty]) ops fun _ op _ => lookup_cards_step _ op key text

/-! ## Grants -/

/-- A role with a NUL makes no difference: it is not left granted itself, and where the part
before the NUL was stored in its place, that part is left granted as well. -/
structure GrantsHarmless (ops : List StoreOp) : Prop where
  not_left : ∀ door role, 0 ∈ role → ¬ LeftGranted ops door role
  part_left : ∀ door role, 0 ∈ role →
    Since (fun _ op => op = .allowRole door role) (· = .revokeRole door (cString role)) ops →
      LeftGranted ops door (cString role)

theorem isAllowed_run_iff (ops : List StoreOp) (door : UInt32) (role : Bytes) :
    isAllowed door role (run StoreOp.step .empty ops) = true ↔
      ∃ granted, cString granted = role ∧ Since (fun _ op => op = .allowRole door granted)
        (· = .revokeRole door role) ops := by
  rw [isAllowed, decide_eq_true_eq, mem_doorRoles_run]
  refine exists_congr fun granted => ?_
  constructor
  · intro h
    obtain ⟨-, op, -, -, ⟨-, heq⟩, -⟩ := id h
    exact ⟨heq, since_mono (fun _ _ hop => hop.1) (fun _ hop => hop) h⟩
  · rintro ⟨heq, h⟩
    exact since_mono (fun _ _ hop => ⟨hop, heq⟩) (fun _ hop => hop) h

theorem grants_iff (ops : List StoreOp) :
    (∀ door role, isAllowed door role (run StoreOp.step .empty ops) = true ↔
      LeftGranted ops door role) ↔ GrantsHarmless ops := by
  simp only [isAllowed_run_iff]
  constructor
  · intro h
    refine ⟨fun door role hnul hleft => ?_, fun door role _ hsince => ?_⟩
    · obtain ⟨granted, rfl, -⟩ := (h door role).mpr hleft
      exact zero_notMem_cString granted hnul
    · exact (h door (cString role)).mp ⟨role, rfl, hsince⟩
  · rintro h door role
    constructor
    · rintro ⟨granted, rfl, hsince⟩
      by_cases hnul : 0 ∈ granted
      · exact h.part_left door granted hnul hsince
      · rwa [cString_eq_self.mpr hnul] at hsince ⊢
    · intro hleft
      have hplain : 0 ∉ role := fun hnul => h.not_left door role hnul hleft
      exact ⟨role, cString_eq_self.mpr hplain, hleft⟩

/-! ## Cards -/

/-- A card or a role with a NUL makes no difference. -/
structure CardsHarmless (ops : List StoreOp) : Prop where
  not_latest : ∀ card role, 0 ∈ card ∨ 0 ∈ role → ¬ LatestRole ops card role
  part_latest : ∀ card role, 0 ∈ card →
    Since (fun _ op => op = .upsertCardHmac card role) (Overwrites (cString card)) ops →
      LatestRole ops (cString card) (cString role)

theorem LatestRole.unique {ops : List StoreOp} {card role role' : Bytes}
    (h : LatestRole ops card role) (h' : LatestRole ops card role') : role = role' := by
  obtain ⟨-, op, rfl, hop⟩ := since_meet (fun _ _ hop => .inr ⟨role, hop⟩)
    (fun _ _ hop => .inr ⟨role', hop⟩) h h'
  simpa using hop

theorem roleForCardHmac_run_iff (ops : List StoreOp) (card role : Bytes) :
    roleForCardHmac card (run StoreOp.step .empty ops) = some role ↔
      ∃ card' role', cString card' = card ∧ cString role' = role ∧
        Since (fun _ op => op = .upsertCardHmac card' role') (Overwrites card) ops := by
  simp only [roleForCardHmac, Option.map_eq_some_iff, lookup_cards_run]
  constructor
  · rintro ⟨text, ⟨card', role', hsince⟩, rfl⟩
    obtain ⟨-, op, -, -, ⟨-, rfl, rfl⟩, -⟩ := id hsince
    refine ⟨card', role', rfl, (cString_cString role').symm, ?_⟩
    exact since_mono (fun _ _ hop => hop.1) (fun _ hop => hop) hsince
  · rintro ⟨card', role', rfl, rfl, hsince⟩
    refine ⟨cString role', ⟨card', role', ?_⟩, cString_cString role'⟩
    exact since_mono (fun _ _ hop => ⟨hop, rfl, rfl⟩) (fun _ hop => hop) hsince

theorem found_run_iff (ops : List StoreOp) (key : Bytes) :
    (∃ text, (run StoreOp.step .empty ops).cards.lookup key = some text) ↔
      Since (fun _ op => ∃ card role, op = .upsertCardHmac card role ∧ cString card = key)
        (· = .deleteCardHmac key) ops := by
  refine run_since_iff (P := fun db : AccessDb => ∃ text, db.cards.lookup key = some text)
    (by simp [AccessDb.empty]) ops fun _ op _ => ?_
  simp only [lookup_cards_step, Overwrites]
  constructor
  · rintro ⟨text, ⟨card, role, hop, hkey, -⟩ | ⟨hfound, hop⟩⟩
    · exact .inl ⟨card, role, hop, hkey⟩
    · exact .inr ⟨⟨text, hfound⟩, fun hdelete => hop (.inl hdelete)⟩
  · rintro (⟨card, role, hop, hkey⟩ | ⟨⟨text, hfound⟩, hop⟩)
    · exact ⟨cString role, .inl ⟨card, role, hop, hkey, rfl⟩⟩
    · by_cases hupsert : ∃ card role, op = .upsertCardHmac card role ∧ cString card = key
      · obtain ⟨card, role, hop, hkey⟩ := hupsert
        exact ⟨cString role, .inl ⟨card, role, hop, hkey, rfl⟩⟩
      · exact ⟨text, .inr ⟨hfound, fun hover => hover.elim hop hupsert⟩⟩

/-- A card that was given a role and not deleted is found with some role. -/
theorem LatestRole.found {ops : List StoreOp} {card role : Bytes} (h : LatestRole ops card role)
    (hplain : 0 ∉ card) :
    ∃ found, roleForCardHmac card (run StoreOp.step .empty ops) = some found := by
  obtain ⟨text, hfound⟩ := (found_run_iff ops card).mpr <|
    since_mono (fun _ _ hop => ⟨card, role, hop, cString_eq_self.mpr hplain⟩)
      (fun _ hop => .inl hop) h
  exact ⟨cString text, by rw [roleForCardHmac, hfound, Option.map_some]⟩

theorem cards_iff (ops : List StoreOp) :
    (∀ card role, roleForCardHmac card (run StoreOp.step .empty ops) = some role ↔
      LatestRole ops card role) ↔ CardsHarmless ops := by
  constructor
  · intro h
    refine ⟨fun card role hnul hlatest => ?_, fun card role _ hsince => ?_⟩
    · obtain ⟨card', role', rfl, rfl, -⟩ :=
        (roleForCardHmac_run_iff ops card role).mp ((h card role).mpr hlatest)
      rcases hnul with hnul | hnul
      · exact zero_notMem_cString _ hnul
      · exact zero_notMem_cString _ hnul
    · exact (h _ _).mp ((roleForCardHmac_run_iff ops _ _).mpr ⟨card, role, rfl, rfl, hsince⟩)
  · intro h
    have hlatest : ∀ card role, roleForCardHmac card (run StoreOp.step .empty ops) = some role →
        LatestRole ops card role := by
      intro card role hfound
      obtain ⟨card', role', rfl, rfl, hsince⟩ := (roleForCardHmac_run_iff ops card role).mp hfound
      by_cases hnul : 0 ∈ card'
      · exact h.part_latest card' role' hnul hsince
      · have hcard := cString_eq_self.mpr hnul
        rw [hcard] at hsince ⊢
        have hrole : LatestRole ops card' role' := by
          refine since_mono (fun _ _ hop => hop) (fun op hop => ?_) hsince
          exact hop.imp id fun ⟨role, hop⟩ => ⟨card', role, hop, hcard⟩
        have hplain : 0 ∉ role' := fun hzero => h.not_latest card' role' (.inr hzero) hrole
        rwa [cString_eq_self.mpr hplain]
    refine fun card role => ⟨hlatest card role, fun hrole => ?_⟩
    have hplain : 0 ∉ card := fun hnul => h.not_latest card role (.inl hnul) hrole
    obtain ⟨found, hfound⟩ := hrole.found hplain
    rwa [hrole.unique (hlatest card found hfound)]

/-! ## Exactness -/

/-- While the tables act as maps, what is done to one role does not change the answer for
another one. -/
theorem ActsAsMap.other_role {ops : List StoreOp} {op : StoreOp} (h : ActsAsMap ops)
    (h' : ActsAsMap (ops ++ [op])) {door : UInt32} {role : Bytes}
    (hop : op = .allowRole door role ∨ op = .revokeRole door role) {door' : UInt32}
    {role' : Bytes} (hne : role' ≠ role) :
    isAllowed door' role' (run StoreOp.step .empty (ops ++ [op])) =
      isAllowed door' role' (run StoreOp.step .empty ops) := by
  rw [Bool.eq_iff_iff, h.allowed, h'.allowed, LeftGranted, since_snoc]
  rcases hop with rfl | rfl
  · simp [LeftGranted, hne.symm]
  · simp [LeftGranted, hne.symm]

/-- The tables act as maps exactly in the histories in which texts with a NUL make no
difference. Then what is done to one role does not matter for another one. -/
theorem acts_as_map_iff (ops : List StoreOp) :
    (ActsAsMap ops ↔ GrantsHarmless ops ∧ CardsHarmless ops) ∧
    (ActsAsMap ops → ∀ op door role, op = .allowRole door role ∨ op = .revokeRole door role →
      ActsAsMap (ops ++ [op]) → ∀ door' role', role' ≠ role →
        isAllowed door' role' (run StoreOp.step .empty (ops ++ [op])) =
          isAllowed door' role' (run StoreOp.step .empty ops)) := by
  refine ⟨?_, fun h op door role hop h' door' role' hne => h.other_role h' hop hne⟩
  rw [← grants_iff, ← cards_iff]
  exact ⟨fun h => ⟨h.allowed, h.roles⟩, fun h => ⟨h.1, h.2⟩⟩

/-- The role `user\0x`, as a JSON string with an escaped NUL gives it. -/
def nulRole : Bytes := bytesOf "user" ++ 0 :: bytesOf "x"

/-- Allowing the role on a door has no effect on it, grants another role, and cannot be taken
back under the same name. -/
theorem nul_grants_other_role :
    ¬ ActsAsMap [.allowRole 1 nulRole] ∧
      isAllowed 1 nulRole (run StoreOp.step .empty [.allowRole 1 nulRole]) = false ∧
      isAllowed 1 (bytesOf "user") (run StoreOp.step .empty [.allowRole 1 nulRole]) = true ∧
      isAllowed 1 (bytesOf "user") (run StoreOp.step .empty
        [.allowRole 1 nulRole, .revokeRole 1 nulRole]) = true := by
  have hrefused : isAllowed 1 nulRole (run StoreOp.step .empty [.allowRole 1 nulRole]) = false := by
    decide +kernel
  refine ⟨fun h => ?_, hrefused, by decide +kernel, by decide +kernel⟩
  have hleft : LeftGranted [.allowRole 1 nulRole] 1 nulRole := ⟨[], _, [], rfl, rfl, by simp⟩
  rw [(h.allowed 1 nulRole).mpr hleft] at hrefused
  cases hrefused

end AccessSecurity.Storage
