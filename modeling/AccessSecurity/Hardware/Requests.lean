import AccessSecurity.Admin.HwSignature
import AccessSecurity.Admin.Restart
import AccessSecurity.Hardware.BodyText

/-!
# Requests of the devices

A device and the server that share a secret understand each other: whatever a device posts in
any run is admitted by the server, as a request for the card that was presented
(`posts_admitted`), and the device signals access exactly when the server has granted it
(`signals_agree`). Both count stray characters of the secret as zeros, so that they agree on any
secret of the right length.
-/

namespace AccessSecurity.Admin

open Foundation Decision

/-- `dump` with indentation. -/
class JsonPretty where
  dump2 : Json → Except Exn Bytes

def HwReply.status : HwReply → Nat
  | .refused status _ => status
  | .failed status _ => status
  | .processed _ => 200

/-- The members come in the order of their keys. -/
def HwReply.json : HwReply → Json
  | .refused _ reason =>
    .object [(bytesOf "allow", .boolean false), (bytesOf "reason", .string (bytesOf reason))]
  | .failed _ error => .object [(bytesOf "error", .string (bytesOf error))]
  | .processed resp =>
    let number (n : Nat) := Json.number (Decimal.print n)
    match resp.details with
    | none => .object [(bytesOf "allow", .boolean resp.allow),
        (bytesOf "reason", .string (bytesOf resp.reason))]
    | some (readerId, doorId, seq, kv) => .object [(bytesOf "allow", .boolean resp.allow),
        (bytesOf "door_id", number doorId.toNat), (bytesOf "key_version", number kv.toNat),
        (bytesOf "reader_id", number readerId.toNat),
        (bytesOf "reason", .string (bytesOf resp.reason)), (bytesOf "seq", number seq.toNat)]

/-- What `setJson` puts into the answer. -/
def HwReply.body [JsonPretty] (reply : HwReply) : Except Exn Bytes := JsonPretty.dump2 reply.json

/-- The library starts a new line for each member, after two blanks. -/
def PrintsReplies [JsonPretty] : Prop :=
  ∀ allow members text,
    JsonPretty.dump2 (.object ((bytesOf "allow", .boolean allow) :: members)) = .ok text →
      ∃ rest, text =
        bytesOf (if allow then "\x7b\n  \"allow\": true" else "\x7b\n  \"allow\": false") ++ rest

end AccessSecurity.Admin

namespace AccessSecurity.Hardware

open Foundation Crypto Decision Admin

/-! ## Cards -/

theorem upperChar_cases {v : UInt8} (hv : v < 16) :
    lowerDigit (upperChar (CardIdHasher.hexChar v)) = CardIdHasher.hexChar v := by
  rw [hexChar_eq hv, upperChar, lowerDigit]
  grind

/-- Two digits for each byte, also for those below 16. -/
theorem uidToString_eq (uid : Bytes) :
    uidToString uid = (CardIdHasher.toHex uid).map upperChar := by
  rw [uidToString, CardIdHasher.toHex]
  congr 2
  funext b
  unfold hexString
  split_ifs with hsmall
  · have hhigh : (b >>> 4) &&& 0xF = 0 := by
      rw [← UInt8.toNat_inj, toNat_high]
      have hlt := UInt8.lt_iff_toNat_lt.mp hsmall
      simp only [UInt8.reduceToNat] at hlt ⊢
      omega
    have hlow : b &&& 0xF = b := by
      rw [← UInt8.toNat_inj, toNat_low]
      have hlt := UInt8.lt_iff_toNat_lt.mp hsmall
      simp only [UInt8.reduceToNat] at hlt
      omega
    rw [hhigh, hlow]
    rfl
  · rfl

theorem lowerDigit_uidToString (uid : Bytes) :
    (uidToString uid).map lowerDigit = CardIdHasher.toHex uid := by
  rw [uidToString_eq, CardIdHasher.toHex, List.map_map, List.map_flatMap]
  simp only [List.map_cons, List.map_nil, Function.comp_apply, upperChar_cases (high_lt _),
    upperChar_cases (low_lt _)]

theorem decodeHex_uidToString (uid : Bytes) : decodeHex (uidToString uid) = some uid :=
  decodeHex_eq_some_iff.mpr (lowerDigit_uidToString uid)

/-- Different cards are sent under different names. -/
theorem uidToString_inj {uid uid' : Bytes} (h : uidToString uid = uidToString uid') :
    uid = uid' := by
  have hdecode := decodeHex_uidToString uid
  rw [h, decodeHex_uidToString] at hdecode
  exact (Option.some.inj hdecode).symm

theorem allHex_uidToString (uid : Bytes) : AllHex (uidToString uid) :=
  allHex_of_decodeHex (decodeHex_uidToString uid)

/-! ## Signatures -/

theorem map_pairs_eq (hex : Bytes) (n : Nat) (hlength : hex.length = 2 * n) :
    ((List.range n).map fun i =>
      hexNibble (hex.getD (i * 2) 0) <<< 4 ||| hexNibble (hex.getD (i * 2 + 1) 0)) =
        hexPairs hex := by
  induction n generalizing hex with
  | zero =>
    obtain rfl := List.length_eq_zero_iff.mp hlength
    rfl
  | succ n ih =>
    rcases hex with _ | ⟨hi, _ | ⟨lo, rest⟩⟩
    · simp at hlength
    · simp at hlength
      omega
    · have hrest : rest.length = 2 * n := by
        simp only [List.length_cons] at hlength
        omega
      rw [List.range_succ_eq_map, List.map_cons, List.map_map, hexPairs, ← ih rest hrest]
      congr 1
      refine List.map_congr_left fun i _ => ?_
      have hshift : (i + 1) * 2 = i * 2 + 2 := by omega
      simp [Function.comp_apply, hshift]

/-- The device reads the secret as the server does. -/
theorem hexToBytes32_eq {hex : Bytes} (h : hex.length = 64) : hexToBytes32 hex = hexPairs hex :=
  map_pairs_eq hex 32 h

section

variable [Sodium]

/-- The server that has the same secret verifies what a device posts, if the secret has the right
length; otherwise the device does not sign. -/
theorem verify_request_iff (cfg : HwConfig) (uid : Bytes) (hwSeq : UInt64) :
    verifyHwSignature (cfg.request uid hwSeq).signature (cfg.request uid hwSeq).body
      cfg.secretHex = .ok () ↔ cfg.secretHex.length = 64 := by
  rw [verifyHwSignature_ok_iff, signedBy_zeroed_iff]
  constructor
  · exact fun h => h.1
  · intro hlength
    have hsig : (cfg.request uid hwSeq).signature = CardIdHasher.toHex (hmacSha256
        (hexPairs cfg.secretHex) (signedText (cfg.request uid hwSeq).body)).toList := by
      simp only [HwConfig.request, if_pos hlength, hmacSha256Hex, hexToBytes32_eq hlength]
      rfl
    refine ⟨hlength, ?_, ?_⟩
    · rw [hsig, length_toHex, Vector.length_toList]
    · rw [hsig]
      have hloose := hexToBytesLoose_of_decodeHex (decodeHex_toHex (hmacSha256
        (hexPairs cfg.secretHex) (signedText (cfg.request uid hwSeq).body)).toList)
      rw [hexToBytesLoose, if_neg (by simp)] at hloose
      exact hloose.symm

/-! ## Bodies -/

variable [JsonLib] [JsonIntegers]

/-- The library reads strings of hexadecimal digits, and decimal numbers that are in range. -/
structure ReadsBodies : Prop where
  parse : ∀ uid readerId doorId hwSeq, AllHex uid →
    JsonLib.parse (bodyText uid readerId doorId hwSeq) = .ok (bodyJson uid readerId doorId hwSeq)
  uint32 : ∀ n : UInt32, JsonIntegers.getUInt32 (.number (Decimal.print n.toNat)) = some n
  uint64 : ∀ n : UInt64, JsonIntegers.getUInt64 (.number (Decimal.print n.toNat)) = some n

/-- What the server is to understand. -/
def HwConfig.scanOf (cfg : HwConfig) (p : Post) : HwUidRequest where
  uid := p.uid
  readerId := cfg.readerId
  doorId := cfg.doorId
  hwSeq := p.hwSeq

omit [Sodium] in
theorem parse_bodyJson (hreads : ReadsBodies) (uid : Bytes) (readerId doorId : UInt32)
    (hwSeq : UInt64) : parseHwUidRequest (bodyJson uid readerId doorId hwSeq) =
      some { uid, readerId, doorId, hwSeq } := by
  have hreader := hreads.uint32 readerId
  have hdoor := hreads.uint32 doorId
  have hseq := hreads.uint64 hwSeq
  have hkey : ∀ a b : String, (bytesOf a == bytesOf b) = decide (a = b) := by
    intro a b
    rw [Bool.eq_iff_iff, beq_iff_eq, bytesOf_inj, decide_eq_true_eq]
  simp [parseHwUidRequest, bodyJson, Json.member, Json.getString, List.lookup_cons, hkey,
    hreader, hdoor, hseq]

theorem admit_request_iff (hreads : ReadsBodies) (cfg : HwConfig) (p : Post)
    (huid : AllHex p.uid) (req : HwUidRequest) :
    admitHwUid cfg.secretHex (cfg.request p.uid p.hwSeq) = .ok req ↔
      cfg.secretHex.length = 64 ∧ p.hwSeq ≠ 0 ∧ req = cfg.scanOf p := by
  unfold admitHwUid
  by_cases hlength : cfg.secretHex.length = 64
  · have hbody : (cfg.request p.uid p.hwSeq).body =
        bodyText p.uid cfg.readerId cfg.doorId p.hwSeq := rfl
    rw [(verify_request_iff cfg p.uid p.hwSeq).mpr hlength, hbody, hreads.parse _ _ _ _ huid]
    simp only [parse_bodyJson hreads, hlength, true_and]
    split_ifs with hzero
    · simp [hzero]
    · simp [hzero, HwConfig.scanOf, eq_comm]
  · have hrefused := mt (verify_request_iff cfg p.uid p.hwSeq).mp hlength
    split
    · simp [hlength]
    · contradiction

/-- The server understands every body of a device, whoever sends it. -/
theorem scanOf_of_admitted (hreads : ReadsBodies) {cfg : HwConfig} {p : Post} (huid : AllHex p.uid)
    {secretHex : Bytes} {request : SignedRequest} {req : HwUidRequest}
    (hbody : request.body = bodyText p.uid cfg.readerId cfg.doorId p.hwSeq)
    (h : admitHwUid secretHex request = .ok req) : req = cfg.scanOf p := by
  unfold admitHwUid at h
  simp only [hbody, hreads.parse _ _ _ _ huid, parse_bodyJson hreads] at h
  split at h
  · cases h
  · split_ifs at h
    exact (Except.ok.inj h).symm

omit [Sodium] [JsonLib] [JsonIntegers] in
theorem allHex_post {cfg : HwConfig} {events : List Event} {p : Post}
    (hp : p ∈ Device.posts cfg events) : AllHex p.uid := by
  have hcard := (Device.posts_sublist_presented cfg events).subset (List.mem_map_of_mem hp)
  obtain ⟨uid, _, _, -, hname⟩ := Device.mem_presented.mp hcard
  rw [hname]
  exact allHex_uidToString uid

/-- Whatever happens to a device, what it posts is admitted by the server that has the same
secret, as a request for a card that was presented to it. -/
theorem posts_admitted (hreads : ReadsBodies) (cfg : HwConfig) (hlength : cfg.secretHex.length = 64)
    (events : List Event) (hevents : events.length < 2 ^ 64) (hstored : .store false ∉ events)
    {p : Post} (hp : p ∈ Device.posts cfg events) :
    admitHwUid cfg.secretHex (cfg.request p.uid p.hwSeq) = .ok (cfg.scanOf p) ∧
      ∃ uid now connected, .card uid now connected ∈ events ∧ p.uid = uidToString uid := by
  obtain ⟨-, hpositive⟩ := Device.posts_ascend cfg events hevents hstored
  have hcard := Device.mem_presented.mp
    ((Device.posts_sublist_presented cfg events).subset (List.mem_map_of_mem hp))
  obtain ⟨uid, now, connected, hevent, hname⟩ := hcard
  have hne : p.hwSeq ≠ 0 := by
    have hlt := hpositive p hp
    rintro hzero
    rw [hzero] at hlt
    exact absurd hlt (by decide)
  exact ⟨(admit_request_iff hreads cfg p (allHex_post hp) _).mpr ⟨hlength, hne, rfl⟩, uid, now,
    connected, hevent, hname⟩

end

/-! ## Answers -/

variable {app : AppState} {call : HwCall} {s : EngineState} {reply : HwReply}

theorem status_of_refused [Sodium] [JsonLib] [JsonIntegers] {secretHex : Bytes}
    {request : SignedRequest} (h : admitHwUid secretHex request = .error reply) :
    400 ≤ reply.status := by
  unfold admitHwUid at h
  split at h
  · obtain rfl := Except.error.inj h
    dsimp only [HwReply.status]
    split_ifs <;> omega
  split at h
  · obtain rfl := Except.error.inj h
    exact le_rfl
  split at h
  · obtain rfl := Except.error.inj h
    exact le_rfl
  · split_ifs at h
    obtain rfl := Except.error.inj h
    exact le_rfl

/-- Only what has been processed is answered with success. -/
theorem processed_or_status [Sodium] [JsonLib] [JsonIntegers] {secretHex : Bytes}
    (h : result (app.hwUidRoute secretHex call) s = .ok reply) :
    (∃ resp, reply = .processed resp) ∨ 400 ≤ reply.status := by
  cases hadm : admitHwUid secretHex call.request with
  | error refusal =>
    rw [hwUidRoute_refused hadm] at h
    obtain rfl : refusal = reply := Except.ok.inj h
    exact .inr (status_of_refused hadm)
  | ok req =>
    rw [hwUidRoute_admitted hadm, result_recover, result_bind_eq] at h
    cases hresult : result (app.processHwUid (call.scan req)) s with
    | error e =>
      rw [hresult] at h
      obtain rfl := Except.ok.inj h
      exact .inr le_rfl
    | ok resp =>
      rw [hresult] at h
      exact .inl ⟨resp, (Except.ok.inj h).symm⟩

theorem parseAllow_printed (allow : Bool) (rest : Bytes) :
    parseAllowFromJson (bytesOf (if allow then "\x7b\n  \"allow\": true" else
      "\x7b\n  \"allow\": false") ++ rest) = some allow := by
  cases allow
  · rfl
  · rfl

/-- The device signals access exactly when the server has granted it. -/
theorem signals_agree [Sodium] [JsonLib] [JsonIntegers] [JsonPretty] (hprints : PrintsReplies)
    {secretHex text : Bytes} (h : result (app.hwUidRoute secretHex call) s = .ok reply)
    (htext : reply.body = .ok text) :
    Device.signals reply.status text = reply.allow := by
  rcases processed_or_status h with ⟨resp, rfl⟩ | hstatus
  · obtain ⟨members, hjson⟩ : ∃ members, (HwReply.processed resp).json =
        .object ((bytesOf "allow", .boolean resp.allow) :: members) := by
      obtain ⟨allow, reason, _ | details⟩ := resp
      · exact ⟨_, rfl⟩
      · exact ⟨_, rfl⟩
    rw [HwReply.body, hjson] at htext
    obtain ⟨rest, rfl⟩ := hprints _ _ _ htext
    have hstatus : (((HwReply.processed resp).status : Nat) : Int) = 200 := rfl
    rw [Device.signals, hstatus, if_pos (by decide), parseAllow_printed]
    rfl
  · have hallow : reply.allow = false := by
      cases reply with
      | processed resp => simp [HwReply.status] at hstatus
      | _ => rfl
    have hcode : ¬ ((reply.status : Int) ≥ 200 ∧ (reply.status : Int) < 300) := by omega
    rw [hallow]
    exact if_neg hcode

/-! ## A sample device -/

/-- Conversions that cut off what is out of range. -/
@[reducible] def printedIntegers : JsonIntegers where
  getUInt32
    | .number token => some (.ofNat (Decimal.value token))
    | _ => none
  getUInt64
    | .number token => some (.ofNat (Decimal.value token))
    | _ => none

theorem readsBodies_reader : @ReadsBodies BodyText.reader.jsonLib printedIntegers := by
  refine @ReadsBodies.mk BodyText.reader.jsonLib printedIntegers ?_ (fun n => ?_) (fun n => ?_)
  · intro uid readerId doorId hwSeq huid
    exact BodyText.reader.parse_of_read (BodyText.parse_bodyText huid readerId doorId hwSeq)
  · change some (UInt32.ofNat (Decimal.value (Decimal.print n.toNat))) = some n
    rw [Decimal.value_print, UInt32.ofNat_toNat]
  · change some (UInt64.ofNat (Decimal.value (Decimal.print n.toNat))) = some n
    rw [Decimal.value_print, UInt64.ofNat_toNat]

/-- A device with a secret of zeros. -/
def sampleConfig : HwConfig where
  secretHex := sampleSecretHex
  readerId := 7
  doorId := 1

/-- The request after the power cuts. -/
theorem posts_admitted_powerCuts :
    letI : Sodium := .transparent
    letI : JsonLib := BodyText.reader.jsonLib
    letI : JsonIntegers := printedIntegers
    admitHwUid sampleSecretHex (sampleConfig.request (bytesOf "04AB") 3) =
      .ok (sampleConfig.scanOf ⟨bytesOf "04AB", 3⟩) :=
  (@posts_admitted .transparent BodyText.reader.jsonLib printedIntegers readsBodies_reader
    sampleConfig (by decide) Device.powerCuts (by decide) (by decide) ⟨bytesOf "04AB", 3⟩
    (by decide +kernel)).1

/-- A printer for objects whose members are no objects or arrays. -/
def printValue : Json → Bytes
  | .boolean value => if value then bytesOf "true" else bytesOf "false"
  | .number token => token
  | .string value => 34 :: (RequestText.escape value ++ [34])
  | _ => bytesOf "null"

def printMember (member : Bytes × Json) : Bytes :=
  bytesOf "  \"" ++ member.1 ++ bytesOf "\": " ++ printValue member.2

@[reducible] def flatPrinter : JsonPretty where
  dump2
    | .object members => .ok (bytesOf "\x7b\n" ++
        (bytesOf ",\n").intercalate (members.map printMember) ++ bytesOf "\n\x7d")
    | value => .ok (printValue value)

theorem printsReplies_flat : @PrintsReplies flatPrinter := by
  intro allow members text h
  obtain rfl := Except.ok.inj h
  cases members with
  | nil =>
    refine ⟨bytesOf "\n\x7d", ?_⟩
    cases allow
    · rfl
    · rfl
  | cons member members =>
    refine ⟨bytesOf ",\n" ++ (bytesOf ",\n").intercalate ((member :: members).map printMember) ++
      bytesOf "\n\x7d", ?_⟩
    cases allow
    · rfl
    · rfl

end AccessSecurity.Hardware
