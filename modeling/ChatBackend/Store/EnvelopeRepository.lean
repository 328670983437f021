import ChatBackend.Store.Authorization
import Mathlib.Data.List.Sort

/-!
# EnvelopeRepository

`src/repository/EnvelopeRepository.cpp`: storing an envelope under a number of its device pair,
reading a page of the envelopes addressed to a device, and acknowledging them. Each operation is
the program of the SQL statements it issues.

## Main definitions

* `saveNewMessage`, `syncEnvelopeRecord`, `ackEnvelopes`
* `pageOf` — the page of one snapshot
* `Db.permits` — who may send to whom
-/

namespace ChatBackend

open ReadCommitted

/-! ### What the statements look at -/

/-- `user` may send from device `sender` to device `recipient`: both devices and both accounts are
active, the sending device is the user's own, and the recipient's owner is the same user or a friend
in both directions. -/
def Db.permits (db : Db) (user sender recipient : Uuid) : Prop :=
  sender ≠ recipient ∧ db.activeOwner sender = some user ∧
    ∃ owner, db.activeOwner recipient = some owner ∧
      (owner = user ∨ db.friendRelation user owner ∧ db.friendRelation owner user)

/-- The envelopes with one retry key. -/
def Db.envelopesFor (db : Db) (sender recipient messageId : Uuid) : List Envelope :=
  (db.messageEnvelopes.map EnvelopeRow.toEnvelope).filter fun e =>
    e.senderDeviceId = sender ∧ e.recipientDeviceId = recipient ∧ e.messageId = messageId

/-- `COALESCE(MAX(seq), 0)` over a device pair. -/
def Db.maxSeq (db : Db) (pair : Uuid × Uuid) : ℤ :=
  ((db.pairEnvelopes pair).map Envelope.seq).max?.getD 0

/-- The constraint an inserted envelope violates. -/
def EnvelopeRow.violates (row : EnvelopeRow) (db : Db) : Option Error :=
  if row.seq ≤ 0 then some (queryError "23514" "envelope_seq_positive")
  else if db.messageEnvelopes.any fun r => r.envelopeId = row.envelopeId then
    some (queryError "23505" "message_envelopes_pkey")
  else if db.messageEnvelopes.any fun r => r.senderDeviceId = row.senderDeviceId ∧
      r.recipientDeviceId = row.recipientDeviceId ∧ r.messageId = row.messageId then
    some (queryError "23505" "envelope_retry_unique")
  else if db.messageEnvelopes.any fun r => pairOf r.senderDeviceId r.recipientDeviceId =
      pairOf row.senderDeviceId row.recipientDeviceId ∧ r.seq = row.seq then
    some (queryError "23505" "envelope_pair_seq_unique")
  else none

/-- The unique keys of an envelope. -/
def EnvelopeRow.keys (row : EnvelopeRow) : List Key :=
  [.envelope row.envelopeId, .retry row.senderDeviceId row.recipientDeviceId row.messageId,
    .pairSeq (pairOf row.senderDeviceId row.recipientDeviceId) row.seq]

namespace EnvelopeRepository

/-! ### `saveNewMessage` -/

/-- The row `(device_id, user_id)` of a device in the authorization query of `saveNewMessage`: the
device and its owner are active, and the sender is the acting user's own. -/
def deviceRow (userId sender : Uuid) (db : Db) (device : Uuid) : Option (Uuid × Uuid) :=
  ((db.activeOwner device).filter fun owner => device ≠ sender ∨ owner = userId).map (device, ·)

/-- The devices the authorization query asks for, `IN ($2, $3)` in order. -/
def pairDevices (sender recipient : Uuid) : List Uuid :=
  if sender = recipient then [sender] else [min sender recipient, max sender recipient]

/-- The authorization query of `saveNewMessage`, `FOR SHARE OF ud, u`. -/
def selectDevices (userId sender recipient : Uuid) : Tx (List (Uuid × Uuid)) :=
  selectLocked (fun row => ownerLocks row.1 row.2)
    (fun db => (pairDevices sender recipient).filterMap (deviceRow userId sender db))
    fun db row => (deviceRow userId sender db row.1).filter (· = row)

/-- The two directions of a friendship, in order. -/
def directions (a b : Uuid) : List (Uuid × Uuid) := [(min a b, max a b), (max a b, min a b)]

/-- The rows of `friend_relation` between two users, `FOR SHARE OF fr`. -/
def selectFriendships (userId recipientUserId : Uuid) : Tx (List (Uuid × Uuid)) :=
  selectLocked (fun row => [(.friendRelation row.1 row.2, .share)])
    (fun db => (directions userId recipientUserId).filter fun row => db.friendRelation row.1 row.2)
    fun db row => if db.friendRelation row.1 row.2 then some row else none

/-- The authorization of `saveNewMessage`; devices of one account need no friendship. -/
def permitted (userId sender recipient : Uuid) : Tx Bool :=
  (selectDevices userId sender recipient).bind fun devices =>
    if devices.length ≠ 2 then .ret false
    else match (devices.filter fun row => row.1 = recipient).getLast? with
      | none => .ret false
      | some (_, recipientUserId) =>
        if recipientUserId = userId then .ret true
        else (selectFriendships userId recipientUserId).bind fun friendships =>
          .ret (friendships.length = 2)

/-- `INSERT INTO app.message_envelopes … SELECT …, COALESCE(MAX(seq), 0) + 1 …
RETURNING envelope_id, seq`. The envelope id is the column's default, `gen_random_uuid()`. -/
def insertEnvelope (sender recipient messageId : Uuid) (protocolVersion packetHex : String) :
    Tx (Uuid × ℤ) :=
  .read fun db => match decodeHex packetHex with
    | none => .throw (queryError "22023")
    | some packet =>
      let seq := db.maxSeq (pairOf sender recipient) + 1
      if maxBigint < seq then .throw (queryError "22003")
      else .draw fun envelopeId =>
        let row : EnvelopeRow :=
          ⟨⟨envelopeId, messageId, sender, recipient, protocolVersion, packet, seq⟩, none⟩
        (insertRow row.keys row.violates (.insertEnvelope row)).bind fun _ => .ret (envelopeId, seq)

/-- `EnvelopeRepository::saveNewMessage`. Of the parameters, only `protocol_version` can contain a
NUL character; the others are uuids and hexadecimal digits. -/
def saveNewMessage (P : Platform) (userId sender : Uuid) (request : NewTextMessageRequest) :
    Tx NewMessageResult :=
  let recipient := request.recipientDeviceId
  let packetHex := encodeHex request.packet
  let envelope (envelopeId : Uuid) (seq : ℤ) : Envelope :=
    ⟨envelopeId, request.messageId, sender, recipient, request.protocolVersion, request.packet, seq⟩
  (Prog.acquire (pairKey P sender recipient) .exclusive).bind fun _ =>
  (permitted userId sender recipient).bind fun allowed =>
    if allowed = false then .ret ⟨.permissionDenied, none⟩
    else .read fun db => match db.envelopesFor sender recipient request.messageId with
      | existing :: _ =>
        -- the stored value is compared with the request as it is in memory
        if existing.protocolVersion ≠ request.protocolVersion ∨ encodeHex existing.packet ≠ packetHex
        then .ret ⟨.conflict, none⟩
        else (ofExcept (parseSeq existing.seq)).bind fun seq =>
          .ret ⟨.duplicateRequest, some (envelope existing.envelopeId seq)⟩
      | [] =>
        (insertEnvelope sender recipient request.messageId (cString request.protocolVersion)
          packetHex).bind fun inserted =>
        (ofExcept (parseSeq inserted.2)).bind fun seq =>
          .ret ⟨.success, some (envelope inserted.1 seq)⟩

/-! ### `syncEnvelopeRecord` -/

/-- The first check of `syncEnvelopeRecord`: every cursor is of another device, not negative, and
the only one of its device. -/
def validCursors (deviceId : Uuid) : List Uuid → List EnvelopeSyncCursor → Bool
  | _, [] => true
  | seen, cursor :: rest =>
    !(cursor.peerDeviceId.isNil || cursor.peerDeviceId = deviceId || cursor.afterSeq < 0 ||
      cursor.peerDeviceId ∈ seen) && validCursors deviceId (cursor.peerDeviceId :: seen) rest

/-- `COALESCE(cursor.after_seq, 0)`: the cursor of a peer. -/
def cursorOf (cursors : List EnvelopeSyncCursor) (peer : Uuid) : ℤ :=
  ((cursors.find? fun cursor => cursor.peerDeviceId = peer).map (·.afterSeq)).getD 0

/-- `ORDER BY env.sender_device_id, env.seq, env.envelope_id`. -/
def pageOrder (a b : Envelope) : Prop :=
  a.senderDeviceId < b.senderDeviceId ∨ a.senderDeviceId = b.senderDeviceId ∧
    (a.seq < b.seq ∨ a.seq = b.seq ∧ a.envelopeId ≤ b.envelopeId)

instance : DecidableRel pageOrder := fun _ _ => inferInstanceAs (Decidable (_ ∨ _ ∧ (_ ∨ _ ∧ _)))

/-- The pending envelopes of a device in one snapshot: those above the cursor of their sender. -/
def pending (db : Db) (request : SyncEnvelopeRequest) : List Envelope :=
  ((db.messageEnvelopes.map EnvelopeRow.toEnvelope).filter fun e =>
    e.recipientDeviceId = request.deviceId ∧
      cursorOf request.cursors e.senderDeviceId < e.seq).insertionSort pageOrder

/-- The largest number of envelopes in a page. -/
def pageSize : ℕ := 100

/-- The largest size of a page, estimated in bytes of the reply. -/
def pageWireBudget : ℕ := 512 * 1024

/-- The size of one envelope in the reply: its Base64 packet and a flat rate for the rest. -/
def estimatedRecordBytes (packet : Bytes) : ℕ := 4 * ((packet.length + 2) / 3) + 2048

/-- Subtraction of `std::size_t`. -/
def sizeSub (a b : ℕ) : ℕ := (2 ^ 64 + a - b) % 2 ^ 64

/-- The loop over the rows: `page` is what has been taken, `estimatedWireBytes` its size. -/
def fillPage : (rows page : List Envelope) → (estimatedWireBytes : ℕ) → Except Error EnvelopePage
  | [], page, _ => .ok ⟨page, false⟩
  | row :: rows, page, estimatedWireBytes =>
    if page.length = pageSize then .ok ⟨page, true⟩
    else do
      let packet ← decodePacketHex (encodeHex row.packet)
      if sizeSub pageWireBudget estimatedWireBytes < estimatedRecordBytes packet then
        return ⟨page, true⟩
      let seq ← parseSeq row.seq
      fillPage rows (page ++ [{ row with packet := packet, seq := seq }])
        (estimatedWireBytes + estimatedRecordBytes packet)

/-- The page of one snapshot. -/
def pageOf (db : Db) (request : SyncEnvelopeRequest) : Except Error EnvelopePage :=
  fillPage ((pending db request).take (pageSize + 1)) [] 0

/-- `EnvelopeRepository::syncEnvelopeRecord`. -/
def syncEnvelopeRecord (userId : Uuid) (request : SyncEnvelopeRequest) :
    Tx (Option EnvelopePage) :=
  if userId.isNil ∨ request.deviceId.isNil ∨ 1000 < request.cursors.length then
    .throw (.invalidArgument "Invalid synchronization request")
  else if validCursors request.deviceId [] request.cursors = false then
    .throw (.invalidArgument "Invalid or duplicate synchronization cursor")
  else (selectActiveDevice userId request.deviceId).bind fun active =>
    if active = false then .ret none
    else .read fun db => (ofExcept (pageOf db request)).bind fun page => .ret (some page)

/-! ### `ackEnvelopes` -/

/-- The check of the identifiers of an acknowledgment. -/
def validIds : List Uuid → List Uuid → Bool
  | _, [] => true
  | seen, id :: rest => !(id.isNil || id ∈ seen) && validIds (id :: seen) rest

/-- `UPDATE app.message_envelopes SET received_at = COALESCE(received_at, CURRENT_TIMESTAMP)
WHERE recipient_device_id = $1 AND envelope_id = ANY($2) RETURNING envelope_id`: the rows changed,
with the time each is given. -/
def updateReceived (deviceId : Uuid) (ids : List Uuid) (now : Time) : Tx (List (Uuid × Time)) :=
  updateWhere (fun id => [(.envelope id, .exclusive)])
    (fun db => (db.messageEnvelopes.filter fun row =>
      row.recipientDeviceId = deviceId ∧ row.envelopeId ∈ ids).map (·.envelopeId))
    (fun db id => ((db.envelopeRow id).find? fun row =>
      row.recipientDeviceId = deviceId ∧ id ∈ ids).map fun row => (id, row.receivedAt.getD now))
    fun row => .setReceivedAt row.1 row.2

/-- `EnvelopeRepository::ackEnvelopes`. -/
def ackEnvelopes (userId : Uuid) (request : AckEnvelopeRequest) : Tx (Option (List Uuid)) :=
  if userId.isNil ∨ request.deviceId.isNil ∨ request.envelopeIds.isEmpty ∨
      100 < request.envelopeIds.length then
    .throw (.invalidArgument "Invalid acknowledgment request")
  else if validIds [] request.envelopeIds = false then
    .throw (.invalidArgument "Invalid or duplicate envelope identifier")
  else beginTransaction.bind fun now => (selectActiveDevice userId request.deviceId).bind fun active =>
    if active = false then .ret none
    else (updateReceived request.deviceId request.envelopeIds now).bind fun rows =>
      .ret (some (rows.map Prod.fst))

end EnvelopeRepository

end ChatBackend
