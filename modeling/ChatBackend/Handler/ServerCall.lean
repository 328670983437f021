import ChatBackend.Auth.AccessTokenService
import ChatBackend.Http.HttpParse
import ChatBackend.Service.Credentials
import ChatBackend.Store.KeyBundles

/-!
# What the HTTP side calls

Handling a request is a program whose calls are those to the repositories, to the token services, to
the hashing library, to the WebSocket pool and to the connection. A call of a repository that is a
transaction of the store says so, with what its answer is there.

## Main definitions

* `ServerCall`, `Server` — the calls, and programs of them
* `ServerCall.transaction` — the transaction behind a call
* `ServerCall.actor` — the user for whom it is made
* `ServerCall.isWrite`, `ServerCall.Changed` — does it change the store, and has it done so
-/

namespace ChatBackend

/-- The calls that leave the code of the handlers and of the services. -/
inductive ServerCall where
  /-- The request that the session has read. -/
  | receive
  | verify (accessToken : Bytes)
  | generateAccessToken (userId : String)
  | generateRefreshToken
  /-- The random bytes of a login ticket, in hexadecimal. -/
  | generateTicket
  | validate (refreshToken : String)
  /-- `crypto_pwhash_str`. -/
  | str (password : Bytes)
  /-- `crypto_pwhash_str_verify`. -/
  | strVerify (passwordHash : String) (password : Bytes)
  | findLoginRecordByEmail (email : String)
  | findLoginRecordByUserId (userId : Uuid)
  | findByEmail (email : Bytes)
  | createNewUserByEmail (email passwordHash displayName username : String)
  | findUserByUsername (username : String)
  | createNewFriendship (myId friendId : Uuid) (message : String)
  | fetchUnprocessedRequest (myId : Uuid)
  | fetchFriends (myId : Uuid)
  | processFriendshipRequest (myId requestId : Uuid) (action : FriendRequestAction)
  | verifyFriendShip (myId friendId : Uuid)
  | revokeUserDevice (myId deviceId : Uuid)
  | issue (userId : Uuid) (ticketHash : String)
  | complete (ticketHash refreshHash : String) (deviceId : Option Uuid)
      (registration : Option DeviceRegistrationInput)
  | findDeviceByDeviceId (userId deviceId : Uuid)
  | createNewOnetimeKey (userId deviceId : Uuid) (prekeyRecord : List (ℤ × String))
  | getOneTimeKey (myId friendId deviceId : Uuid)
  | getUserDevicesByUserId (myId friendId : Uuid)
  | getDeviceKeyBundle (friendId myId deviceId : Uuid)
  | pushToUser (userId : Uuid) (message : Json)
  | closeSession (userId deviceId : Uuid)
  /-- `sendAll` of the connection, with the bytes of this response. -/
  | sendAll (response : HttpResponse)

namespace ServerCall

/-- What they answer. -/
abbrev Answer : ServerCall → Type
  | receive => HttpRequest
  | verify _ => Except AccessTokenError Uuid
  | generateAccessToken _ => String
  | generateRefreshToken => String
  | generateTicket => String
  | validate _ => Except RefreshTokenRepository.RefreshTokenStatus String
  | str _ => Option String
  | strVerify _ _ => Bool
  | findLoginRecordByEmail _ => Option PasswordLoginRecord
  | findLoginRecordByUserId _ => Option String
  | findByEmail _ => Option User
  | createNewUserByEmail _ _ _ _ => Option User
  | findUserByUsername _ => Option User
  | createNewFriendship _ _ _ => FriendshipRequestRecord
  | fetchUnprocessedRequest _ => Option (List FriendshipRequestRecord)
  | fetchFriends _ => List User
  | processFriendshipRequest _ _ _ => FriendRequestProcessResult
  | verifyFriendShip _ _ => Bool
  | revokeUserDevice _ _ => RevokeDeviceResult
  | issue _ _ => Bool
  | complete _ _ _ _ => LoginTicketResult
  | findDeviceByDeviceId _ _ => Option Device
  | createNewOnetimeKey _ _ _ => Bool
  | getOneTimeKey _ _ _ => PrekeyClaimResult
  | getUserDevicesByUserId _ _ => List Device
  | getDeviceKeyBundle _ _ _ => Option DeviceKeyBundle
  | pushToUser _ _ => Unit
  | closeSession _ _ => Bool
  | sendAll _ => Unit

/-- The transaction behind a call, and its reply. A friend request without a requester is stored and
then an exception. -/
def transaction : (op : ServerCall) → Option (Call × (op.Answer → Reply))
  | createNewFriendship myId friendId message =>
    some (.createNewFriendship myId friendId message, fun record => .requested (some record))
  | processFriendshipRequest myId requestId action =>
    some (.processFriendshipRequest myId requestId action, .processed)
  | verifyFriendShip myId friendId => some (.verifyFriendShip myId friendId, .verified)
  | revokeUserDevice myId deviceId => some (.revokeUserDevice myId deviceId, .revocation)
  | issue userId ticketHash => some (.issue userId ticketHash, .issued)
  | complete ticketHash refreshHash deviceId registration =>
    some (.complete ticketHash refreshHash deviceId registration, .login)
  | createNewOnetimeKey userId deviceId prekeyRecord =>
    some (.createNewOnetimeKey userId deviceId prekeyRecord, .uploaded)
  | getOneTimeKey myId friendId deviceId => some (.getOneTimeKey myId friendId deviceId, .claim)
  | _ => none

/-- The user for whom a call is made, where there must be one. -/
def actor : ServerCall → Option Uuid
  | findLoginRecordByUserId myId | fetchUnprocessedRequest myId | fetchFriends myId => some myId
  | createNewFriendship myId _ _ | processFriendshipRequest myId _ _ | verifyFriendShip myId _
  | revokeUserDevice myId _ | createNewOnetimeKey myId _ _ | getOneTimeKey myId _ _
  | getUserDevicesByUserId myId _ | getDeviceKeyBundle _ myId _ | closeSession myId _ => some myId
  | _ => none

/-- Can the call change the store? -/
def isWrite : ServerCall → Bool
  | createNewUserByEmail _ _ _ _ | createNewFriendship _ _ _ | processFriendshipRequest _ _ _
  | revokeUserDevice _ _ | issue _ _ | complete _ _ _ _ | createNewOnetimeKey _ _ _
  | getOneTimeKey _ _ _ => true
  | _ => false

/-- Has it changed the store, by its answer? -/
def changed : (op : ServerCall) → op.Answer → Bool
  | createNewUserByEmail _ _ _ _, user => user.isSome
  | createNewFriendship _ _ _, _ => true
  | processFriendshipRequest _ _ _, result => result = .success
  | revokeUserDevice _ _, result => result = .success
  | issue _ _, issued => issued
  | complete _ _ _ _, result => result.status = .success ∧ result.identity.isSome
  | createNewOnetimeKey _ _ _, uploaded => uploaded
  | getOneTimeKey _ _ _, result => result.status = .success ∧ result.prekey.isSome
  | _, _ => false

/-- Is what it was to do done, now or before? -/
def settled : (op : ServerCall) → op.Answer → Bool
  | processFriendshipRequest _ _ _, result => result = .success ∨ result = .alreadyProcessed
  | revokeUserDevice _ _, result => result = .success ∨ result = .alreadyRevoked
  | op, ans => op.changed ans

end ServerCall

/-- Programs of the server. -/
abbrev Server (α : Type) := Effects.Prog ServerCall.Answer Error α

/-- A call with its answer. -/
abbrev ServerEvent := Effects.Event ServerCall.Answer Error

namespace Server

/-- One call. -/
def perform (op : ServerCall) : Server op.Answer := Effects.Prog.perform op

end Server

end ChatBackend
