import ChatBackend.ReadCommitted.Logic
import ChatBackend.Uuid
import Mathlib.Order.Fin.Basic

/-!
# The tables

The part of the schema `app` that the repositories read and write, the single-row writes that
change it, and the locks PostgreSQL makes their writer hold until it commits or rolls back.

A row that an `INSERT` adds is locked by its entry in the primary key, and its other unique keys by
theirs; `UPDATE` and `DELETE` lock the row itself. Two locks are there because of the code and not
because of PostgreSQL: an envelope is written under the advisory lock of its device pair, and a
refresh token under a shared lock on its device, which the trigger
`refresh_tokens_validate_device` takes. Every program in this development is proved to hold the
locks its writes need.

## What is deliberately absent

Columns that no modelled statement reads are left out, and so are the foreign keys, whose
referenced rows are never deleted.

## Main definitions

* `Db` — the committed state
* `Write`, `Db.write` — the single-row writes and their effect
* `Key`, `Write.needs` — the locks
* `schema` — all of it together, as a `ReadCommitted.Schema`
-/

namespace ChatBackend

open ReadCommitted

/-- What the platform supplies: PostgreSQL's text hash and its reading of a `bigint`, and the
BLAKE2b digest of `RefreshTokenService::RefreshTokenHash`. -/
structure Platform where
  hashtextextended : String → ℤ
  bigintIn : String → Option ℤ
  refreshTokenHash : String → String

/-! ### Rows -/

/-- `app.users`. -/
structure UserRow where
  isActive : Bool
  username : String
  displayName : String
  deriving DecidableEq

/-- `app.user_devices`. -/
structure DeviceRow where
  userId : Uuid
  deviceName : String
  status : DeviceStatus
  identityPublicKey : Bytes
  protocolSuite : String
  authorizedAt : Option Time
  revokedAt : Option Time
  deriving DecidableEq

/-- `app.message_envelopes`. -/
structure EnvelopeRow extends Envelope where
  receivedAt : Option Time
  deriving DecidableEq

/-- The column `state` of `app.device_one_time_prekeys`. -/
inductive PrekeyState where
  | available
  | claimed
  deriving DecidableEq

/-- `app.device_one_time_prekeys`. -/
structure PrekeyRow where
  deviceId : Uuid
  prekeyId : ℤ
  publicKey : Bytes
  state : PrekeyState
  createdAt : Time
  claimedAt : Option Time
  deriving DecidableEq

/-- `app.device_key_bundles`. -/
structure BundleRow where
  deviceId : Uuid
  keyVersion : ℤ
  signedPrekeyId : ℤ
  signedPrekeyPublic : Bytes
  signedPrekeySignature : Bytes
  isCurrent : Bool
  expiresAt : Option Time
  deriving DecidableEq

/-- `app.login_tickets`, without its key `ticket_hash`. -/
structure TicketRow where
  userId : Uuid
  createdAt : Time
  expiresAt : Time
  consumedAt : Option Time
  deriving DecidableEq

/-- `app.refresh_tokens`. -/
structure TokenRow where
  id : Uuid
  userId : Uuid
  deviceId : Uuid
  tokenHash : String
  expiresAt : Time
  revokedAt : Option Time
  createdAt : Time
  deriving DecidableEq

/-- The column `status` of `app.friend_request`. -/
inductive FriendRequestStatus where
  | pending
  | accepted
  | rejected
  | cancelled
  deriving DecidableEq

/-- `app.friend_request`, without its key `id`. -/
structure FriendRequestRow where
  requesterId : Uuid
  recipientId : Uuid
  status : FriendRequestStatus
  message : Option String
  createdAt : Time
  processedAt : Option Time
  deriving DecidableEq

/-- The committed state. Tables that are only ever read by primary key are partial functions; the
others are lists of rows, oldest first. -/
structure Db where
  /-- The server's clock. -/
  clock : Time
  users : Uuid → Option UserRow
  userDevices : Uuid → Option DeviceRow
  /-- Is there a row with this `user_id` and this `friend_id`? -/
  friendRelation : Uuid → Uuid → Bool
  friendRequests : Uuid → Option FriendRequestRow
  messageEnvelopes : List EnvelopeRow
  deviceOneTimePrekeys : List PrekeyRow
  deviceKeyBundles : List BundleRow
  loginTickets : String → Option TicketRow
  refreshTokens : List TokenRow

/-! ### Writes -/

/-- The changes of one row. The last three are an operator's: `users.is_active` is how accounts are
disabled, and nothing in the repository does it, nor does anything end a friendship or set the
expiry of a key bundle. -/
inductive Write where
  | insertEnvelope (row : EnvelopeRow)
  | setReceivedAt (envelopeId : Uuid) (at' : Time)
  | insertDevice (deviceId : Uuid) (row : DeviceRow)
  | revokeDevice (deviceId : Uuid) (at' : Time)
  | insertBundle (row : BundleRow)
  | insertPrekey (row : PrekeyRow)
  | claimPrekey (deviceId : Uuid) (prekeyId : ℤ) (at' : Time)
  | insertTicket (ticketHash : String) (row : TicketRow)
  | consumeTicket (ticketHash : String) (at' : Time)
  | insertToken (row : TokenRow)
  | revokeToken (id : Uuid) (at' : Time)
  | deleteToken (id : Uuid)
  | insertRequest (id : Uuid) (row : FriendRequestRow)
  | processRequest (id : Uuid) (status : FriendRequestStatus) (at' : Time)
  | befriend (userId friendId : Uuid)
  | setActive (userId : Uuid) (isActive : Bool)
  | unfriend (userId friendId : Uuid)
  | expireBundle (deviceId : Uuid) (keyVersion : ℤ) (at' : Time)
  deriving DecidableEq

/-- The effect of a write. Inserting a row whose primary key exists changes nothing. -/
def Db.write (db : Db) : Write → Db
  | .insertEnvelope row => { db with messageEnvelopes := db.messageEnvelopes ++ [row] }
  | .setReceivedAt id at' =>
    { db with messageEnvelopes := db.messageEnvelopes.map fun row =>
        if row.envelopeId = id then { row with receivedAt := some at' } else row }
  | .insertDevice id row =>
    { db with userDevices := Function.update db.userDevices id ((db.userDevices id).or (some row)) }
  | .revokeDevice id at' =>
    { db with userDevices := Function.update db.userDevices id <| (db.userDevices id).map fun row =>
        { row with status := .revoked, revokedAt := some at' } }
  | .insertBundle row => { db with deviceKeyBundles := db.deviceKeyBundles ++ [row] }
  | .insertPrekey row => { db with deviceOneTimePrekeys := db.deviceOneTimePrekeys ++ [row] }
  | .claimPrekey deviceId prekeyId at' =>
    { db with deviceOneTimePrekeys := db.deviceOneTimePrekeys.map fun row =>
        if row.deviceId = deviceId ∧ row.prekeyId = prekeyId then
          { row with state := .claimed, claimedAt := some at' } else row }
  | .insertTicket hash row =>
    { db with
      loginTickets := Function.update db.loginTickets hash ((db.loginTickets hash).or (some row)) }
  | .consumeTicket hash at' =>
    { db with loginTickets := Function.update db.loginTickets hash <|
        (db.loginTickets hash).map fun row => { row with consumedAt := some at' } }
  | .insertToken row => { db with refreshTokens := db.refreshTokens ++ [row] }
  | .revokeToken id at' =>
    { db with refreshTokens := db.refreshTokens.map fun row =>
        if row.id = id then { row with revokedAt := some at' } else row }
  | .deleteToken id => { db with refreshTokens := db.refreshTokens.filter fun row => row.id ≠ id }
  | .insertRequest id row =>
    { db with
      friendRequests := Function.update db.friendRequests id ((db.friendRequests id).or (some row)) }
  | .processRequest id status at' =>
    { db with friendRequests := Function.update db.friendRequests id <|
        (db.friendRequests id).map fun row =>
          { row with status := status, processedAt := some at' } }
  | .befriend a b =>
    { db with friendRelation := Function.update db.friendRelation a <|
        Function.update (db.friendRelation a) b true }
  | .setActive id isActive =>
    { db with users := Function.update db.users id <| (db.users id).map fun row =>
        { row with isActive := isActive } }
  | .unfriend a b =>
    { db with friendRelation := Function.update db.friendRelation a <|
        Function.update (db.friendRelation a) b false }
  | .expireBundle deviceId keyVersion at' =>
    { db with deviceKeyBundles := db.deviceKeyBundles.map fun row =>
        if row.deviceId = deviceId ∧ row.keyVersion = keyVersion then
          { row with expiresAt := some at' } else row }

/-! ### Locks -/

/-- `LEAST(a, b)` and `GREATEST(a, b)`: the unordered pair of two devices. -/
def pairOf (a b : Uuid) : Uuid × Uuid := (min a b, max a b)

theorem pairOf_comm (a b : Uuid) : pairOf a b = pairOf b a := by
  rw [pairOf, pairOf, min_comm, max_comm]

/-- What can be locked: an advisory key, a row by its primary key, or a value of another unique
key. -/
inductive Key where
  | advisory (key : ℤ)
  | user (id : Uuid)
  | device (id : Uuid)
  | friendRelation (userId friendId : Uuid)
  | friendRequest (id : Uuid)
  | envelope (id : Uuid)
  | retry (sender recipient messageId : Uuid)
  | pairSeq (pair : Uuid × Uuid) (seq : ℤ)
  | prekey (deviceId : Uuid) (prekeyId : ℤ)
  | bundle (deviceId : Uuid) (keyVersion : ℤ)
  | ticket (hash : String)
  | token (id : Uuid)
  | tokenHash (hash : String)
  deriving DecidableEq

/-- The advisory lock of a device pair. -/
def pairKey (P : Platform) (a b : Uuid) : Key :=
  .advisory <| P.hashtextextended <|
    "envelope-pair-v1:" ++ (min a b).toString ++ ":" ++ (max a b).toString

theorem pairKey_eq_of_pairOf {P : Platform} {a b c d : Uuid} (h : pairOf a b = pairOf c d) :
    pairKey P a b = pairKey P c d := by
  obtain ⟨h₁, h₂⟩ := Prod.ext_iff.mp h
  simp only [pairOf] at h₁ h₂
  rw [pairKey, pairKey, h₁, h₂]

/-- The locks a writer holds. -/
def Write.needs (P : Platform) : Write → List (Key × Mode)
  | .insertEnvelope row =>
    [(pairKey P row.senderDeviceId row.recipientDeviceId, .exclusive),
      (.envelope row.envelopeId, .exclusive),
      (.retry row.senderDeviceId row.recipientDeviceId row.messageId, .exclusive),
      (.pairSeq (pairOf row.senderDeviceId row.recipientDeviceId) row.seq, .exclusive)]
  | .setReceivedAt id _ => [(.envelope id, .exclusive)]
  | .insertDevice id _ => [(.device id, .exclusive)]
  | .revokeDevice id _ => [(.device id, .exclusive)]
  | .insertBundle row => [(.bundle row.deviceId row.keyVersion, .exclusive)]
  | .insertPrekey row => [(.prekey row.deviceId row.prekeyId, .exclusive)]
  | .claimPrekey deviceId prekeyId _ => [(.prekey deviceId prekeyId, .exclusive)]
  | .insertTicket hash _ => [(.ticket hash, .exclusive)]
  | .consumeTicket hash _ => [(.ticket hash, .exclusive)]
  | .insertToken row =>
    [(.device row.deviceId, .share), (.token row.id, .exclusive), (.tokenHash row.tokenHash, .exclusive)]
  | .revokeToken id _ => [(.token id, .exclusive)]
  | .deleteToken id => [(.token id, .exclusive)]
  | .insertRequest id _ => [(.friendRequest id, .exclusive)]
  | .processRequest id _ _ => [(.friendRequest id, .exclusive)]
  | .befriend a b => [(.friendRelation a b, .exclusive)]
  | .setActive id _ => [(.user id, .exclusive)]
  | .unfriend a b => [(.friendRelation a b, .exclusive)]
  | .expireBundle deviceId keyVersion _ => [(.bundle deviceId keyVersion, .exclusive)]

/-- The tables with their writes and locks. Outside every transaction only time passes. -/
def schema (P : Platform) : Schema Db Write Key where
  apply w db := db.write w
  needs := Write.needs P
  drift db db' := ∃ now, db.clock ≤ now ∧ db' = { db with clock := now }

@[simp] theorem schema_apply (P : Platform) (w : Write) (db : Db) :
    (schema P).apply w db = db.write w := rfl

@[simp] theorem schema_needs (P : Platform) : (schema P).needs = Write.needs P := rfl

end ChatBackend
