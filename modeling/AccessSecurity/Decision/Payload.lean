import AccessSecurity.Basic

/-!
# Payload

`payload.cpp` over an arbitrary JSON library. A request names a card and an action,
both non-empty strings.
-/

namespace AccessSecurity.Decision

/-- A JSON value. Numbers are kept as the library's text; an object has its keys in the
library's order. -/
inductive Json where
  | null
  | boolean (value : Bool)
  | number (token : Bytes)
  | string (value : Bytes)
  | array (items : List Json)
  | object (members : List (Bytes × Json))

/-- `json.contains(key) && json[key].is_string()`, with the string. -/
def Json.stringAt (members : List (Bytes × Json)) (key : String) : Option Bytes :=
  match members.lookup (bytesOf key) with
  | some (.string value) => some value
  | _ => none

/-- The JSON library: parsing throws on malformed text, dumping on strings that are not
valid UTF-8. -/
class JsonLib where
  parse : Bytes → Except Exn Json
  dump : Json → Except Exn Bytes

structure AccessRequest where
  cardId : Bytes
  action : Bytes
  deriving DecidableEq, Repr

def parseAccessRequestJson [JsonLib] (jsonText : Bytes) : Except Exn AccessRequest :=
  match JsonLib.parse jsonText with
  | .error e => throw ⟨"payload: invalid json: " ++ e.what⟩
  | .ok (.object members) =>
    match Json.stringAt members "card_id" with
    | none => throw ⟨"payload: missing/invalid card_id"⟩
    | some cardId =>
      match Json.stringAt members "action" with
      | none => throw ⟨"payload: missing/invalid action"⟩
      | some action =>
        if cardId.isEmpty then throw ⟨"payload: card_id empty"⟩
        else if action.isEmpty then throw ⟨"payload: action empty"⟩
        else return { cardId, action }
  | .ok _ => throw ⟨"payload: json must be object"⟩

/-- The payloads that are requests: objects with two non-empty strings. -/
theorem parseAccessRequestJson_ok_iff [JsonLib] {jsonText : Bytes} {request : AccessRequest} :
    parseAccessRequestJson jsonText = .ok request ↔
    ∃ members, JsonLib.parse jsonText = .ok (.object members) ∧
      Json.stringAt members "card_id" = some request.cardId ∧
      Json.stringAt members "action" = some request.action ∧
      request.cardId ≠ [] ∧ request.action ≠ [] := by
  have hthrow : ∀ e : Exn, (throw e : Except Exn AccessRequest) = .error e := fun _ => rfl
  have hpure : ∀ a : AccessRequest, (pure a : Except Exn AccessRequest) = .ok a := fun _ => rfl
  unfold parseAccessRequestJson
  cases hparse : JsonLib.parse jsonText with
  | error e => simp [hthrow]
  | ok json =>
    cases json with
    | object members =>
      cases hcard : Json.stringAt members "card_id" with
      | none => simp [hthrow, hcard]
      | some cardId =>
        cases haction : Json.stringAt members "action" with
        | none => simp [hthrow, hcard, haction]
        | some action =>
          obtain ⟨cardId', action'⟩ := request
          cases cardId <;> cases action <;> simp [hthrow, hpure, hcard, haction] <;> grind
    | _ => simp [hthrow]

/-! ## A library for requests -/

/-- The object a sender writes. -/
def requestJson (cardId action : Bytes) : Json :=
  .object [(bytesOf "action", .string action), (bytesOf "card_id", .string cardId)]

namespace RequestText

/-- The escapes of a string without control characters. -/
def escape : Bytes → Bytes
  | [] => []
  | b :: bs => if b = 34 ∨ b = 92 then 92 :: b :: escape bs else b :: escape bs

/-- A string up to its closing quote, and the text after it; `escaped` after a backslash. -/
def unescape : (escaped : Bool) → Bytes → Option (Bytes × Bytes)
  | _, [] => none
  | true, b :: bs => (unescape false bs).map fun (s, rest) => (b :: s, rest)
  | false, b :: bs =>
    if b = 34 then some ([], bs)
    else if b = 92 then unescape true bs
    else (unescape false bs).map fun (s, rest) => (b :: s, rest)

theorem unescape_escape (s rest : Bytes) :
    unescape false (escape s ++ 34 :: rest) = some (s, rest) := by
  induction s with
  | nil => simp [escape, unescape]
  | cons b bs ih =>
    by_cases hb : b = 34 ∨ b = 92
    · simp [escape, hb, unescape, ih]
    · simp [escape, unescape, ih, not_or.mp hb]

def expect (part text : Bytes) : Option Bytes :=
  if part <+: text then some (text.drop part.length) else none

@[simp] theorem expect_append (part text : Bytes) : expect part (part ++ text) = some text := by
  simp [expect]

def dump (cardId action : Bytes) : Bytes :=
  bytesOf "\x7b\"action\":\"" ++ (escape action ++ 34 :: (bytesOf ",\"card_id\":\"" ++
    (escape cardId ++ 34 :: bytesOf "\x7d")))

def parse (text : Bytes) : Option Json := do
  let text ← expect (bytesOf "\x7b\"action\":\"") text
  let (action, text) ← unescape false text
  let text ← expect (bytesOf ",\"card_id\":\"") text
  let (cardId, text) ← unescape false text
  if text = bytesOf "\x7d" then some (requestJson cardId action) else none

theorem parse_dump (cardId action : Bytes) :
    parse (dump cardId action) = some (requestJson cardId action) := by
  simp [parse, dump, unescape_escape]

end RequestText

/-- The part of a JSON library that requests need. -/
@[reducible] def JsonLib.requests : JsonLib where
  parse text := (RequestText.parse text).elim (throw ⟨"parse error"⟩) pure
  dump
    | .object [(_, .string action), (_, .string cardId)] => pure (RequestText.dump cardId action)
    | _ => throw ⟨"not a request"⟩

end AccessSecurity.Decision
