import ChatBackend.Uuid
import ChatBackend.Websocket.Json

/-!
# Requests

The parsers of `src/websocket/WebSocketDispatcher.cpp`, from the JSON payload of a frame to the
requests of `ChatService`. A parser either returns the request or throws `std::invalid_argument`,
whose text becomes the message of the error reply.

## Main definitions

* `requireString`, `requireUuid`, `requirePacket`
* `parseNewMessage`, `parseSyncEnvelope`, `parseAckEnvelope`
* `syncPayload` — the payload a client sends for a synchronization request

## Main results

* `parseSyncEnvelope_ok` — what an accepted synchronization request satisfies
* `parseSyncEnvelope_syncPayload` — when the payload of a request is accepted
-/

namespace ChatBackend

/-- libsodium: `base642bin` is `sodium_base642bin` with the original alphabet and no ignored
characters, into a buffer of the given size; it is `none` unless all of the text is consumed. -/
structure Sodium where
  base642bin : (binMaxlen : ℕ) → (b64 : String) → Option Bytes

/-- `ParsedNewMessage`. -/
structure ParsedNewMessage where
  senderDeviceId : Uuid
  request : NewTextMessageRequest
  deriving DecidableEq

/-- A sequence of two steps succeeds if both do. -/
theorem bind_eq_ok {ε α β : Type} {x : Except ε α} {f : α → Except ε β} {b : β} :
    x >>= f = .ok b ↔ ∃ a, x = .ok a ∧ f a = .ok b := by
  cases x with
  | error e => simp [bind, Except.bind]
  | ok a => simp [bind, Except.bind]

/-- A sequence of two steps fails if one of them does. -/
theorem bind_eq_error {ε α β : Type} {x : Except ε α} {f : α → Except ε β} {e : ε} :
    x >>= f = .error e ↔ x = .error e ∨ ∃ a, x = .ok a ∧ f a = .error e := by
  cases x with
  | error e' => simp [bind, Except.bind]
  | ok a => simp [bind, Except.bind]

namespace WebSocketDispatcher

/-! ### Fields -/

/-- `requireString`. -/
def requireString (body : Json) (field : String) : Except String String :=
  match body.find field with
  | some (.string value) =>
    if value = "" then .error (field ++ " must be a non-empty string") else .ok value
  | _ => .error (field ++ " must be a non-empty string")

/-- The dashes of a uuid's text are where they belong. -/
def hasDashes (text : String) : Bool :=
  (utf8 text).length = 36 ∧ [8, 13, 18, 23].all fun k => (utf8 text)[k]? = some '-'.toUInt8

/-- `requireUuid`. -/
def requireUuid (body : Json) (field : String) : Except String Uuid := do
  let text ← requireString body field
  if hasDashes text = false then .error (field ++ " must be a UUID")
  else match Uuid.ofString text with
    | some id => .ok id
    | none => .error (field ++ " must be a UUID")

/-- The largest packet, in bytes. -/
def maxPacketBytes : ℕ := 64 * 1024

/-- The length of the Base64 text of the largest packet. -/
def maxEncodedBytes : ℕ := 4 * ((maxPacketBytes + 2) / 3)

/-- `requirePacket`. -/
def requirePacket (sodium : Sodium) (body : Json) : Except String Bytes := do
  let encoded ← requireString body "packet_base64"
  if maxEncodedBytes < (utf8 encoded).length ∨ (utf8 encoded).length % 4 ≠ 0 then
    .error "packet_base64 is invalid or exceeds 64 KiB"
  else match sodium.base642bin maxPacketBytes encoded with
    | some (byte :: packet) => .ok (byte :: packet)
    | _ => .error "packet_base64 must contain valid non-empty Base64"

/-! ### Payloads -/

/-- `parseNewMessage`. -/
def parseNewMessage (sodium : Sodium) (payload : Json) : Except String ParsedNewMessage :=
  if payload.isObject = false then .error "Payload must be a JSON object"
  else do
    let senderDeviceId ← requireUuid payload "sender_device_id"
    let messageId ← requireUuid payload "message_id"
    let recipientDeviceId ← requireUuid payload "recipient_device_id"
    let protocolVersion ← requireString payload "protocol_version"
    if 128 < (utf8 protocolVersion).length ∨ isBlank protocolVersion then
      .error "protocol_version is invalid"
    else do
      let packet ← requirePacket sodium payload
      .ok ⟨senderDeviceId, ⟨messageId, recipientDeviceId, protocolVersion, packet⟩⟩

/-- The `after_seq` of a cursor. -/
def parseAfterSeq : Option Json → Except String ℤ
  | some (.unsigned value) =>
    if maxBigint < value.toNat then .error "after_seq exceeds BIGINT range" else .ok value.toNat
  | some (.integer value) =>
    if value.toInt < 0 then .error "after_seq must not be negative" else .ok value.toInt
  | _ => .error "after_seq must be a non-negative BIGINT integer"

/-- The loop over the cursors; `seenDevices` are the devices of the cursors so far, which the code
keeps as texts. -/
def parseCursors (deviceId : Uuid) :
    (seenDevices : List Uuid) → List Json → Except String (List EnvelopeSyncCursor)
  | _, [] => .ok []
  | seenDevices, entry :: cursors =>
    if entry.isObject = false then .error "Each cursor must be an object"
    else do
      let peerId ← requireUuid entry "peer_device_id"
      if peerId.isNil ∨ peerId = deviceId then
        .error "peer_device_id must be non-nil and different from device_id"
      else if peerId ∈ seenDevices then .error "peer_device_id must be unique within cursors"
      else do
        let afterSeq ← parseAfterSeq (entry.find "after_seq")
        let rest ← parseCursors deviceId (peerId :: seenDevices) cursors
        .ok (⟨peerId, afterSeq⟩ :: rest)

/-- `parseSyncEnvelope`. -/
def parseSyncEnvelope (payload : Json) : Except String SyncEnvelopeRequest :=
  if payload.isObject = false then .error "Payload must be a JSON object"
  else do
    let deviceId ← requireUuid payload "device_id"
    if deviceId.isNil then .error "device_id must not be a nil UUID"
    else match payload.find "cursors" with
      | some (.array cursors) =>
        if 1000 < cursors.length then .error "cursors must contain at most 1000 entries"
        else do
          let cursors ← parseCursors deviceId [] cursors
          .ok ⟨deviceId, cursors⟩
      | _ => .error "cursors must be an array; use [] for first synchronization"

/-- The loop over the identifiers of an acknowledgment. -/
def parseIds : (seen : List Uuid) → List Json → Except String (List Uuid)
  | _, [] => .ok []
  | seen, value :: ids => do
    let id ← requireUuid (.object [("envelope_id", value)]) "envelope_id"
    if id.isNil ∨ id ∈ seen then .error "envelope_ids must contain unique non-nil UUIDs"
    else do
      let rest ← parseIds (id :: seen) ids
      .ok (id :: rest)

/-- `parseAckEnvelope`. -/
def parseAckEnvelope (payload : Json) : Except String AckEnvelopeRequest :=
  if payload.isObject = false then .error "Payload must be a JSON object"
  else do
    let deviceId ← requireUuid payload "device_id"
    if deviceId.isNil then .error "device_id must not be nil"
    else match payload.find "envelope_ids" with
      | some (.array ids) =>
        if ids = [] ∨ 100 < ids.length then
          .error "envelope_ids must be an array of 1 to 100 UUIDs"
        else do
          let envelopeIds ← parseIds [] ids
          .ok ⟨deviceId, envelopeIds⟩
      | _ => .error "envelope_ids must be an array of 1 to 100 UUIDs"

/-! ### Accepted requests -/

theorem requireString_ok_iff {body : Json} {field text : String} :
    requireString body field = .ok text ↔ body.find field = some (.string text) ∧ text ≠ "" := by
  rw [requireString]
  constructor
  · intro h
    split at h
    · next value hfind =>
      split_ifs at h with hempty
      obtain rfl := Except.ok.inj h
      exact ⟨hfind, hempty⟩
    · cases h
  · rintro ⟨hfind, hne⟩
    rw [hfind]
    exact if_neg hne

/-- What parser and repository agree on about a synchronization request, apart from the number of
its cursors. -/
structure WellFormed (request : SyncEnvelopeRequest) : Prop where
  device : request.deviceId ≠ 0
  peers : (request.cursors.map (·.peerDeviceId)).Nodup
  cursors : ∀ c ∈ request.cursors, c.peerDeviceId ≠ 0 ∧ c.peerDeviceId ≠ request.deviceId ∧
    0 ≤ c.afterSeq ∧ c.afterSeq ≤ maxBigint

/-- An accepted `after_seq` is a non-negative `bigint`. -/
theorem parseAfterSeq_ok {field : Option Json} {seq : ℤ} (h : parseAfterSeq field = .ok seq) :
    0 ≤ seq ∧ seq ≤ maxBigint := by
  unfold parseAfterSeq at h
  split at h
  · split_ifs at h with hmax
    obtain rfl := Except.ok.inj h
    exact ⟨Int.natCast_nonneg _, not_lt.mp hmax⟩
  · next value =>
    split_ifs at h with hneg
    obtain rfl := Except.ok.inj h
    refine ⟨not_lt.mp hneg, ?_⟩
    have hlt := value.toInt_lt
    rw [maxBigint]
    omega
  · cases h

/-- Accepted cursors are of different devices, none of them seen before. -/
theorem parseCursors_ok {deviceId : Uuid} {seen : List Uuid} {entries : List Json}
    {cursors : List EnvelopeSyncCursor} (h : parseCursors deviceId seen entries = .ok cursors) :
    cursors.length = entries.length ∧ (cursors.map (·.peerDeviceId)).Nodup ∧
      ∀ c ∈ cursors, c.peerDeviceId ∉ seen ∧ c.peerDeviceId ≠ 0 ∧ c.peerDeviceId ≠ deviceId ∧
        0 ≤ c.afterSeq ∧ c.afterSeq ≤ maxBigint := by
  induction entries generalizing seen cursors with
  | nil =>
    obtain rfl := Except.ok.inj h
    simp
  | cons entry entries ih =>
    rw [parseCursors] at h
    split_ifs at h with hobject
    obtain ⟨peer, -, h⟩ := bind_eq_ok.mp h
    split_ifs at h with hpeer hseen
    obtain ⟨seq, hseq, h⟩ := bind_eq_ok.mp h
    obtain ⟨rest, hrest, h⟩ := bind_eq_ok.mp h
    obtain rfl := Except.ok.inj h
    obtain ⟨hlen, hnodup, hall⟩ := ih hrest
    push Not at hpeer
    obtain ⟨hnil, hdevice⟩ := hpeer
    refine ⟨by simp [hlen], ?_, ?_⟩
    · refine List.nodup_cons.mpr ⟨fun hmem => ?_, hnodup⟩
      obtain ⟨c, hc, hpeer⟩ := List.mem_map.mp hmem
      exact (hall c hc).1 (hpeer ▸ List.mem_cons_self ..)
    · refine List.forall_mem_cons.mpr ⟨⟨hseen, by simpa [Uuid.isNil] using hnil, hdevice,
        parseAfterSeq_ok hseq⟩, fun c hc => ?_⟩
      obtain ⟨hnotin, hrest⟩ := hall c hc
      exact ⟨fun hmem => hnotin (List.mem_cons_of_mem _ hmem), hrest⟩

/-- **What an accepted synchronization request satisfies.** -/
theorem parseSyncEnvelope_ok {payload : Json} {request : SyncEnvelopeRequest}
    (h : parseSyncEnvelope payload = .ok request) :
    WellFormed request ∧ request.cursors.length ≤ 1000 := by
  unfold parseSyncEnvelope at h
  split_ifs at h with hobject
  obtain ⟨device, -, h⟩ := bind_eq_ok.mp h
  split_ifs at h with hnil
  split at h
  · split_ifs at h with hlen
    obtain ⟨cursors, hcursors, h⟩ := bind_eq_ok.mp h
    obtain rfl := Except.ok.inj h
    obtain ⟨hlength, hnodup, hall⟩ := parseCursors_ok hcursors
    refine ⟨⟨by simpa [Uuid.isNil] using hnil, hnodup, fun c hc => (hall c hc).2⟩, ?_⟩
    rw [hlength]
    exact not_lt.mp hlen
  · cases h

/-! ### The payload of a request -/

/-- A cursor as a client sends it. -/
def cursorJson (cursor : EnvelopeSyncCursor) : Json :=
  .object [("peer_device_id", .string cursor.peerDeviceId.toString),
    ("after_seq", .unsigned (UInt64.ofNat cursor.afterSeq.toNat))]

/-- The payload a client sends for a synchronization request. -/
def syncPayload (authorization : String) (request : SyncEnvelopeRequest) : Json :=
  .object [("type", .string "chat.sync.envelope"), ("authorization", .string authorization),
    ("device_id", .string request.deviceId.toString),
    ("cursors", .array (request.cursors.map cursorJson))]

/-- The text of a uuid is ASCII. -/
theorem utf8Size_of_mem_chars (u : Uuid) : ∀ c ∈ u.chars, c.utf8Size = 1 := by
  have hbytes : ∀ ks, ∀ c ∈ Uuid.bytesChars u ks, c.utf8Size = 1 := by
    intro ks c hc
    obtain ⟨k, -, hk⟩ := List.mem_flatMap.mp hc
    simp only [Uuid.byteChars, hexOfByte, List.mem_cons, List.not_mem_nil, or_false] at hk
    rcases hk with rfl | rfl <;> exact utf8Size_hexDigit _
  have hdash : ('-' : Char).utf8Size = 1 := rfl
  intro c hc
  simp only [Uuid.chars, List.mem_append, List.mem_cons] at hc
  rcases hc with h | rfl | h | rfl | h | rfl | h | rfl | h
  all_goals first | exact hdash | exact hbytes _ _ h

theorem utf8_toString (u : Uuid) : utf8 u.toString = u.chars.map Char.toUInt8 :=
  utf8_ofList (utf8Size_of_mem_chars u)

theorem hasDashes_toString (u : Uuid) : hasDashes u.toString = true := by
  rw [hasDashes, utf8_toString, List.length_map, Uuid.length_chars]
  simp [Uuid.chars, Uuid.bytesChars, Uuid.byteChars, hexOfByte]

/-- The text of a uuid is a uuid. -/
theorem requireUuid_toString {body : Json} {field : String} {u : Uuid}
    (h : body.find field = some (.string u.toString)) : requireUuid body field = .ok u := by
  have hne : u.toString ≠ "" := by
    intro he
    have hlen := u.length_chars
    rw [← String.toList_ofList (l := u.chars)] at hlen
    rw [← Uuid.toString, he] at hlen
    cases hlen
  rw [requireUuid, requireString, h]
  simp [hne, hasDashes_toString, bind, Except.bind]

theorem parseAfterSeq_unsigned {seq : ℤ} (h₀ : 0 ≤ seq) (h₁ : seq ≤ maxBigint) :
    parseAfterSeq (some (.unsigned (UInt64.ofNat seq.toNat))) = .ok seq := by
  rw [maxBigint] at h₁
  have hvalue : ((UInt64.ofNat seq.toNat).toNat : ℤ) = seq := by
    rw [UInt64.toNat_ofNat_of_lt']
    · omega
    · rw [UInt64.size]
      omega
  have hmax : ¬ maxBigint < ((UInt64.ofNat seq.toNat).toNat : ℤ) := by
    rw [hvalue, maxBigint]
    omega
  rw [parseAfterSeq, if_neg hmax, hvalue]

theorem parseCursors_map {deviceId : Uuid} {seen : List Uuid} {cursors : List EnvelopeSyncCursor}
    (hnodup : (cursors.map (·.peerDeviceId)).Nodup)
    (hall : ∀ c ∈ cursors, c.peerDeviceId ∉ seen ∧ c.peerDeviceId ≠ 0 ∧ c.peerDeviceId ≠ deviceId ∧
      0 ≤ c.afterSeq ∧ c.afterSeq ≤ maxBigint) :
    parseCursors deviceId seen (cursors.map cursorJson) = .ok cursors := by
  induction cursors generalizing seen with
  | nil => rfl
  | cons c cursors ih =>
    obtain ⟨⟨hseen, hnil, hdevice, h₀, h₁⟩, hrest⟩ := List.forall_mem_cons.mp hall
    obtain ⟨hnotin, hnodup⟩ := List.nodup_cons.mp hnodup
    have hunseen : ∀ d ∈ cursors, d.peerDeviceId ∉ c.peerDeviceId :: seen := by
      intro d hd hmem
      rcases List.mem_cons.mp hmem with he | hmem
      · exact hnotin (List.mem_map.mpr ⟨d, hd, he⟩)
      · exact (hrest d hd).1 hmem
    have huuid : requireUuid (cursorJson c) "peer_device_id" = .ok c.peerDeviceId :=
      requireUuid_toString rfl
    have hseq : parseAfterSeq ((cursorJson c).find "after_seq") = .ok c.afterSeq :=
      parseAfterSeq_unsigned h₀ h₁
    have hobject : (cursorJson c).isObject = true := rfl
    rw [List.map_cons, parseCursors, huuid, hseq, hobject]
    simp only [bind, Except.bind, Uuid.isNil, hnil, hdevice, hseen,
      ih hnodup fun d hd => ⟨hunseen d hd, (hrest d hd).2⟩]
    rfl

/-- **The payload of a well-formed request is accepted unless it has too many cursors.** -/
theorem parseSyncEnvelope_syncPayload {request : SyncEnvelopeRequest} (authorization : String)
    (h : WellFormed request) : parseSyncEnvelope (syncPayload authorization request) =
      if 1000 < request.cursors.length then .error "cursors must contain at most 1000 entries"
      else .ok request := by
  have hdevice : requireUuid (syncPayload authorization request) "device_id" = .ok request.deviceId :=
    requireUuid_toString rfl
  have hcursors : (syncPayload authorization request).find "cursors" =
      some (.array (request.cursors.map cursorJson)) := rfl
  have hparse : parseCursors request.deviceId [] (request.cursors.map cursorJson) =
      .ok request.cursors := parseCursors_map h.peers fun c hc => ⟨by simp, h.cursors c hc⟩
  rw [parseSyncEnvelope, if_neg (by simp [syncPayload]), hdevice, hcursors]
  simp only [bind, Except.bind, Uuid.isNil, h.device, decide_false, List.length_map, hparse]
  rfl

end WebSocketDispatcher

end ChatBackend
