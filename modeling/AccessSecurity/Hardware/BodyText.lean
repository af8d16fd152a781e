import AccessSecurity.Admin.Entitlement
import AccessSecurity.Hardware.Firmware

/-!
# Bodies of requests

A parser for the bodies that the devices write. It reads back what was written
(`parse_bodyText`), so that no two requests have the same body (`bodyText_inj`) and the signature
of one is not the signature of another by accident.
-/

namespace AccessSecurity.Hardware

open Foundation Decision Admin

/-- What the JSON library makes of a body; the members come in the order of their keys. -/
def bodyJson (uid : Bytes) (readerId doorId : UInt32) (hwSeq : UInt64) : Json :=
  .object [(bytesOf "door_id", .number (Decimal.print doorId.toNat)),
    (bytesOf "hw_seq", .number (Decimal.print hwSeq.toNat)),
    (bytesOf "reader_id", .number (Decimal.print readerId.toNat)),
    (bytesOf "uid", .string uid)]

instance (text : Bytes) : Decidable (AllHex text) := List.decidableBAll IsHexDigit text

namespace BodyText

def isDigit (c : UInt8) : Bool := 48 ≤ c && c ≤ 57

def parse (text : Bytes) : Option Json := do
  let text ← RequestText.expect (bytesOf "\x7b\"uid\":\"") text
  let (uid, text) ← RequestText.unescape false text
  let text ← RequestText.expect (bytesOf ",\"reader_id\":") text
  let readerId := text.takeWhile isDigit
  let text ← RequestText.expect (bytesOf ",\"door_id\":") (text.dropWhile isDigit)
  let doorId := text.takeWhile isDigit
  let text ← RequestText.expect (bytesOf ",\"hw_seq\":") (text.dropWhile isDigit)
  let hwSeq := text.takeWhile isDigit
  if text.dropWhile isDigit = bytesOf "\x7d" ∧ AllHex uid then
    some (.object [(bytesOf "door_id", .number doorId), (bytesOf "hw_seq", .number hwSeq),
      (bytesOf "reader_id", .number readerId), (bytesOf "uid", .string uid)])
  else none

/-- The digits of a number end where the next part of the text starts. -/
theorem digits_then {part : Bytes} (hpart : ∃ c tail, part = c :: tail ∧ isDigit c = false)
    (n : Nat) (rest : Bytes) :
    (Decimal.print n ++ (part ++ rest)).takeWhile isDigit = Decimal.print n ∧
      (Decimal.print n ++ (part ++ rest)).dropWhile isDigit = part ++ rest := by
  obtain ⟨c, tail, rfl, hc⟩ := hpart
  have hdigits : ∀ b ∈ Decimal.print n, isDigit b = true := by
    intro b hb
    simpa [isDigit] using Decimal.isDigit_print n b hb
  rw [List.takeWhile_append_of_pos hdigits, List.dropWhile_append_of_pos hdigits]
  simp [hc]

theorem escape_of_allHex {uid : Bytes} (h : AllHex uid) : RequestText.escape uid = uid := by
  induction uid with
  | nil => rfl
  | cons b uid ih =>
    have hb : ¬ (b = 34 ∨ b = 92) := by
      have hhex := h b (.head _)
      unfold IsHexDigit at hhex
      grind
    rw [RequestText.escape, if_neg hb, ih fun c hc => h c (.tail _ hc)]

/-- The text as the parser goes through it. -/
theorem bodyText_eq {uid : Bytes} (h : AllHex uid) (readerId doorId : UInt32) (hwSeq : UInt64) :
    bodyText uid readerId doorId hwSeq = bytesOf "\x7b\"uid\":\"" ++ (RequestText.escape uid ++
      34 :: (bytesOf ",\"reader_id\":" ++ (Decimal.print readerId.toNat ++
        (bytesOf ",\"door_id\":" ++ (Decimal.print doorId.toNat ++
          (bytesOf ",\"hw_seq\":" ++ (Decimal.print hwSeq.toNat ++ bytesOf "\x7d"))))))) := by
  have hquote : bytesOf "\",\"reader_id\":" = 34 :: bytesOf ",\"reader_id\":" := rfl
  rw [escape_of_allHex h, bodyText, hquote]
  simp only [List.append_assoc, List.cons_append]

theorem parse_bodyText {uid : Bytes} (h : AllHex uid) (readerId doorId : UInt32)
    (hwSeq : UInt64) : parse (bodyText uid readerId doorId hwSeq) =
      some (bodyJson uid readerId doorId hwSeq) := by
  have hdoor := @digits_then (bytesOf ",\"door_id\":") ⟨44, _, rfl, rfl⟩ readerId.toNat
  have hseq := @digits_then (bytesOf ",\"hw_seq\":") ⟨44, _, rfl, rfl⟩ doorId.toNat
  have hend := @digits_then (bytesOf "\x7d") ⟨125, _, rfl, rfl⟩ hwSeq.toNat []
  rw [List.append_nil] at hend
  rw [bodyText_eq h, parse]
  simp only [RequestText.expect_append, RequestText.unescape_escape, Option.bind_eq_bind,
    Option.bind_some, (hdoor _).1, (hdoor _).2, (hseq _).1, (hseq _).2, hend.1, hend.2]
  exact if_pos ⟨trivial, h⟩

/-- No two requests have the same body. -/
theorem bodyText_inj {uid uid' : Bytes} (h : AllHex uid) (h' : AllHex uid')
    {readerId readerId' doorId doorId' : UInt32} {hwSeq hwSeq' : UInt64}
    (heq : bodyText uid readerId doorId hwSeq = bodyText uid' readerId' doorId' hwSeq') :
    uid = uid' ∧ readerId = readerId' ∧ doorId = doorId' ∧ hwSeq = hwSeq' := by
  have hjson := parse_bodyText h readerId doorId hwSeq
  rw [heq, parse_bodyText h'] at hjson
  simp only [bodyJson, Option.some.injEq, Json.object.injEq, List.cons.injEq, Prod.mk.injEq,
    Json.number.injEq, Json.string.injEq, true_and, and_true] at hjson
  obtain ⟨hdoor, hseq, hreader, huid⟩ := hjson
  exact ⟨huid.symm, (UInt32.toNat_inj.mp (Decimal.print_inj hreader)).symm,
    (UInt32.toNat_inj.mp (Decimal.print_inj hdoor)).symm,
    (UInt64.toNat_inj.mp (Decimal.print_inj hseq)).symm⟩

/-! ## Valid strings -/

theorem bytesOf_singleton {c : UInt8} (h : c.toNat ≤ 127) :
    bytesOf (String.singleton (Char.ofNat c.toNat)) = [c] := by
  have hvalid : c.toNat.isValidChar := .inl (by omega)
  have hval : (Char.ofNat c.toNat).toNat = c.toNat := by
    rw [Char.ofNat, dif_pos hvalid]
    exact UInt32.toNat_ofNatLT
  have hsize : (Char.ofNat c.toNat).utf8Size = 1 := by
    rw [Char.utf8Size_eq_one_iff, UInt32.le_iff_toNat_le, Char.toNat_val, hval]
    exact h
  rw [bytesOf, String.toUTF8_eq_toByteArray, String.toByteArray_singleton,
    List.utf8Encode_singleton, String.utf8EncodeChar_eq_singleton hsize]
  have hbyte : (Char.ofNat c.toNat).val.toUInt8 = c := by
    rw [← UInt8.toNat_inj, UInt32.toNat_toUInt8, Char.toNat_val, hval]
    omega
  rw [hbyte]
  rfl

theorem validUtf8_of_allHex {text : Bytes} (h : AllHex text) : ValidUtf8 text := by
  induction text with
  | nil => exact ⟨"", rfl⟩
  | cons c text ih =>
    obtain ⟨s, rfl⟩ := ih fun b hb => h b (.tail _ hb)
    have hsmall : c.toNat ≤ 127 := by
      have hhex := h c (.head _)
      unfold IsHexDigit at hhex
      simp only [UInt8.le_iff_toNat_le, UInt8.reduceToNat] at hhex
      omega
    refine ⟨String.singleton (Char.ofNat c.toNat) ++ s, ?_⟩
    have happend : ∀ a b : String, bytesOf (a ++ b) = bytesOf a ++ bytesOf b := by
      simp [bytesOf, String.toByteArray_append]
    rw [happend, bytesOf_singleton hsmall]
    rfl

/-- The parser for the bodies of devices. -/
def reader : BodyReader where
  read := parse
  valid := by
    intro text j h key s hstring
    simp only [parse, Option.bind_eq_bind, Option.bind_eq_some_iff] at h
    obtain ⟨_, -, ⟨uid, _⟩, -, _, -, _, -, _, -, h⟩ := h
    split_ifs at h with hend
    obtain rfl := Option.some.inj h
    simp only [Json.member, List.lookup_cons, List.lookup_nil] at hstring
    split at hstring
    · cases hstring
    split at hstring
    · cases hstring
    split at hstring
    · cases hstring
    split at hstring
    · obtain rfl := Option.some.inj hstring
      exact validUtf8_of_allHex hend.2
    · cases hstring
  foreign := by
    intro cardId action
    have hne : ¬ bytesOf "\x7b\"uid\":\"" <+: RequestText.dump cardId action := by
      rintro ⟨rest, hrest⟩
      have hhead := congrArg (List.take 3) hrest
      rw [RequestText.dump, List.take_append_of_le_length (by decide),
        List.take_append_of_le_length (by decide)] at hhead
      exact absurd hhead (by decide)
    rw [parse, RequestText.expect, if_neg hne]
    rfl

end BodyText

end AccessSecurity.Hardware
