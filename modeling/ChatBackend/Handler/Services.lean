import ChatBackend.Handler.ServerCall

/-!
# The services behind the handlers

`src/service/LoginTicketService.cpp`, `LoginService.cpp`, `RegisterService.cpp`, `UserService.cpp` and
`KeyService.cpp`, as programs: which calls they make, in which order, and what becomes of the answers.

## Main definitions

* `Server.LoginTicketService.issue`, `verifyDevice`, `registerDevice`
* `Server.LoginService.loginByEmail`, `Server.RegisterService.registerUserByEmail`
* `Server.UserService.revokeUserDevice`, `requestFriendship`, `processFriendshipRequest`
* `Server.KeyService.fetchUserDevices`, `uploadOneTimePrekeys`, `getOneTimePrekey`
-/

namespace ChatBackend

/-- `CompletedLogin`. -/
structure CompletedLogin where
  result : LoginTicketResult
  accessToken : String
  refreshToken : String

namespace Server

/-! ### Login tickets -/

namespace LoginTicketService

/-- `issue`. -/
def issue (P : Platform) (userId : Uuid) : Server (Option String) :=
  (perform .generateTicket).bind fun ticket =>
  (perform (.issue userId (LoginTicketService.hashTicket P ticket))).bind fun issued =>
    .ret (if issued then some ticket else none)

/-- The rest of `complete`, after the transaction. -/
def completed (refreshToken : String) (result : LoginTicketResult) : Server CompletedLogin :=
  if result.status ≠ .success then .ret ⟨result, "", ""⟩
  else match result.identity with
  | none => .throw (.logicError "Missing login identity")
  | some identity => (perform (.generateAccessToken identity.userId.toString)).bind fun accessToken =>
    .ret ⟨result, accessToken, refreshToken⟩

/-- `complete`. -/
def complete (P : Platform) (ticket : String) (deviceId : Option Uuid)
    (registration : Option DeviceRegistrationInput) : Server CompletedLogin :=
  if LoginTicketService.validTicket ticket = false then .ret ⟨⟨.invalidTicket, none⟩, "", ""⟩
  else (perform .generateRefreshToken).bind fun refreshToken =>
    (perform (.complete (LoginTicketService.hashTicket P ticket) (P.refreshTokenHash refreshToken)
      deviceId registration)).bind (completed refreshToken)

/-- `verifyDevice`. -/
def verifyDevice (P : Platform) (ticket : String) (device : Uuid) : Server CompletedLogin :=
  if device.isNil then .ret ⟨⟨.deviceNotFound, none⟩, "", ""⟩
  else complete P ticket (some device) none

/-- `registerDevice`. -/
def registerDevice (P : Platform) (ticket : String) (input : DeviceRegistrationInput) :
    Server CompletedLogin := complete P ticket none (some input)

end LoginTicketService

/-! ### Logging in and registering -/

/-- `LoginService::loginByEmail`. -/
def LoginService.loginByEmail (P : Platform) (email password : String) :
    Server LoginServiceResult :=
  (perform (.findLoginRecordByEmail email)).bind fun
  | none => .ret ⟨.noUserFound, none⟩
  | some record => (perform (.strVerify record.passwordHash (utf8 password))).bind fun verified =>
    if verified = false then .ret ⟨.invalidCredentials, none⟩
    else if record.isActive = false then .ret ⟨.notActiveUser, none⟩
    else (LoginTicketService.issue P record.id).bind fun
    | none => .ret ⟨.notActiveUser, none⟩
    | some ticket => .ret ⟨.success, some ticket⟩

namespace RegisterService

/-- The `try` of `RegisterUserByEmail`. -/
def create (email password displayName username : String) : Server (Except RegisterError User) :=
  (perform (.str (utf8 password))).bind fun
  | none => .throw (.runtimeError "Password hashing failed")
  | some hash => (perform (.createNewUserByEmail email hash displayName username)).bind fun
    | none => .ret (.error .registerFailed)
    | some user => .ret (.ok user)

/-- What it catches. -/
def refused : Error → Server (Except RegisterError User)
  | .database error =>
    match RegisterService.registerError error with
    | some reason => .ret (.error reason)
    | none => .throw (.database error)
  | error => .throw error

/-- `RegisterUserByEmail`. -/
def registerUserByEmail (email password displayName username : String) :
    Server (Except RegisterError User) :=
  if RegisterService.checkEmail email = false then .ret (.error .invalidEmail)
  else if RegisterService.checkPassword password = false then .ret (.error .invalidPassword)
  else if RegisterService.checkDisplayName displayName = false then .ret (.error .invalidDisplayName)
  else if RegisterService.checkUsername username = false then .ret (.error .invalidUsername)
  else (create email password displayName username).tryCatch refused

end RegisterService

/-! ### Users -/

namespace UserService

/-- What `requestFriendship` catches. -/
def alreadyRequested : Error → Server (Option FriendshipRequestRecord)
  | .database error =>
    if error.kind = .query ∧ error.code = "23505" ∧
      error.constraint = some "friend_request_pending_pair_unique" then .ret none
    else .throw (.database error)
  | error => .throw error

/-- `requestFriendship`. -/
def requestFriendship (myId friendId : Uuid) (message : String) :
    Server (Option FriendshipRequestRecord) :=
  ((perform (.createNewFriendship myId friendId message)).bind fun record =>
    .ret (some record)).tryCatch alreadyRequested

/-- The action that the text of a request names. -/
def action (process : String) : Option FriendRequestAction :=
  if process = "accepted" then some .accept
  else if process = "rejected" then some .reject
  else if process = "cancelled" then some .cancel
  else none

/-- `processFriendshipRequest`. -/
def processFriendshipRequest (myId requestId : Uuid) (process : String) :
    Server FriendRequestProcessResult :=
  match action process with
  | none => .ret .invalidAction
  | some action => perform (.processFriendshipRequest myId requestId action)

/-- `revokeUserDevice`. -/
def revokeUserDevice (myId deviceId : Uuid) (password : String) :
    Server (Except UserServiceErrorCode Bool) :=
  (perform (.findLoginRecordByUserId myId)).bind fun
  | none => .ret (.error .userNotFound)
  | some passwordHash => (perform (.strVerify passwordHash (utf8 password))).bind fun verified =>
    if verified = false then .ret (.error .invalidPassword)
    else (perform (.revokeUserDevice myId deviceId)).bind fun result =>
      .ret (UserService.revocation result)

end UserService

/-! ### Keys -/

namespace KeyService

/-- `my_id == friend_id || VerifyFriendShip(my_id, friend_id)`. -/
def isSelfOrFriend (myId friendId : Uuid) : Server Bool :=
  if myId = friendId then .ret true else perform (.verifyFriendShip myId friendId)

/-- Is there such a device, and is it active? -/
def isActiveDevice (userId deviceId : Uuid) : Server Bool :=
  (perform (.findDeviceByDeviceId userId deviceId)).bind fun device =>
    .ret (device.any fun device => device.status = .active)

/-- `fetchUserDevices`. -/
def fetchUserDevices (myId friendId : Uuid) : Server (Option (List Device)) :=
  (isSelfOrFriend myId friendId).bind fun allowed =>
    if allowed = false then .ret none
    else (perform (.getUserDevicesByUserId myId friendId)).bind fun devices => .ret (some devices)

/-- What `uploadOneTimePrekeys` asks of a batch. -/
def validBatch (prekeys : List (ℤ × String)) : Bool :=
  prekeys ≠ [] && prekeys.length ≤ 10 && prekeys.all fun key => 0 ≤ key.1 && isHexOfSize key.2 32

/-- `uploadOneTimePrekeys`. -/
def uploadOneTimePrekeys (userId deviceId : Uuid) (prekeys : List (ℤ × String)) : Server Bool :=
  if prekeys = [] ∨ 10 < prekeys.length then
    .throw (.invalidArgument "Expected 1 to 10 one-time prekeys")
  else if validBatch prekeys = false then .throw (.invalidArgument "Invalid one-time prekey")
  else (isActiveDevice userId deviceId).bind fun active =>
    if active = false then .ret false
    else perform (.createNewOnetimeKey userId deviceId prekeys)

/-- `getOneTimePrekey`. -/
def getOneTimePrekey (myId friendId deviceId : Uuid) : Server PrekeyClaimResult :=
  (isSelfOrFriend myId friendId).bind fun allowed =>
    if allowed = false then .ret ⟨.notFriends, none⟩
    else (isActiveDevice friendId deviceId).bind fun active =>
      if active = false then .ret ⟨.deviceUnavailable, none⟩
      else perform (.getOneTimeKey myId friendId deviceId)

end KeyService

end Server

end ChatBackend
