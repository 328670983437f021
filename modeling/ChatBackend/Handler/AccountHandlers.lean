import ChatBackend.BigEndian
import ChatBackend.Handler.KeyHandlers

/-!
# UserHandler and RefreshTokenHandler

`src/handler/UserHandler.cpp` and `RefreshTokenHandler.cpp`, the handlers as programs: accounts,
logins, the revocation of a device, and friendships.

## Main definitions

* `UserHandler.readVerification`, `readFriendRequest`, `readProcessing` — what is read from a body
* `Server.UserHandler.register`, `loginByEmail`, `deviceVerification`, `revokeDevice`
* `Server.UserHandler.requestFriendship`, `processFriendshipRequest`, `fetchFriends` and other queries
* `Server.RefreshTokenHandler.verifyRefreshToken`
-/

namespace ChatBackend

open UserHandler (badRequest jsonBody readObject readText)
open WebSocketDispatcher (hasDashes)

/-! ### Reading a request -/

namespace RefreshTokenHandler

/-- The refresh token of a request. -/
def readRefreshToken (parser : JsonParser) (requestBody : Bytes) : Except HttpResponse String := do
  let body ← readObject badRequest parser requestBody
  readText badRequest body "refreshToken" "missing_refreshToken" "Missing refresh token"

/-- The response with a new access token. -/
def refreshed (refreshToken accessToken userId : String) : HttpResponse :=
  ⟨.ok, [], jsonBody [("access_token", .string accessToken), ("id", .string userId),
    ("refresh_token", .string refreshToken)]⟩

end RefreshTokenHandler

namespace UserHandler

/-- The device of a verification. -/
def readDevice (body : Json) : Except HttpResponse Uuid :=
  let refusal := badRequest "invalid_device_id" "Device must be a non-nil UUID"
  match body.find "device_id" with
  | some (.string text) =>
    match dashedId text with
    | none => .error refusal
    | some deviceId => if deviceId.isNil then .error refusal else .ok deviceId
  | _ => .error refusal

/-- The ticket and the device of a verification. -/
def readVerification (parser : JsonParser) (requestBody : Bytes) :
    Except HttpResponse (String × Uuid) :=
  if requestBody = [] then .error (badRequest "missing_request_body" "Request body is required")
  else
    let body := (parser.parse requestBody).getD .null
    if body.isObject = false then
      .error (badRequest "invalid_json" "Request body must be a JSON object")
    else do
      let ticket ← ChatHandler.loginTicket body
      let deviceId ← readDevice body
      return (ticket, deviceId)

/-- The text of a friend's identifier, and the message of a friend request. -/
def readFriendRequest (parser : JsonParser) (requestBody : Bytes) :
    Except HttpResponse (String × String) := do
  let body ← readObject badRequest parser requestBody
  let friendId ← readText badRequest body "friend_id" "missing_friend_id" "Must has friend_id"
  let message := match body.find "message" with
    | some (.string message) => message
    | _ => ""
  return (friendId, message)

/-- The request and what is to become of it. -/
def readProcessing (parser : JsonParser) (requestBody : Bytes) :
    Except HttpResponse (Uuid × String) := do
  let body ← readObject badRequest parser requestBody
  let text ← readText badRequest body "request_id" "invalid_request_id"
    "request_id must be a UUID string"
  let process ← readText badRequest body "process" "invalid_process"
    "process must be accepted, rejected or cancelled"
  match Uuid.ofString text with
  | none => .error (badRequest "invalid_request_id" "request_id must be a UUID string")
  | some requestId => return (requestId, process)

/-- The username that is looked for. -/
def readUsername (parser : JsonParser) (requestBody : Bytes) : Except HttpResponse String := do
  let body ← readObject badRequest parser requestBody
  readText badRequest body "username" "missing_username" "user name must be a non-empty string"

/-! ### Responses -/

/-- What `DeviceVerification` makes of an exception. -/
def verificationFailure : Error → HttpResponse
  | .database error =>
    if error.kind = .connection ∨ "08".isPrefixOf error.code then
      errorResponseMaker .serviceUnavailable "database_unavailable"
        "Login outcome uncertain; log in again"
    else if error.code = "40001" ∨ error.code = "40P01" then
      errorResponseMaker .serviceUnavailable "retry_later" "Retry with the same ticket"
    else errorResponseMaker .internalServerError "verification_device_failed"
      "Unable to complete login"
  | _ => errorResponseMaker .internalServerError "verification_device_failed"
    "Unable to complete login"

/-- A user, as a response shows one. -/
def userJson (user : User) : Json :=
  .object [("display_name", .string user.displayName), ("id", .string user.id.toString),
    ("username", .string user.username)]

/-- The response to `getUser`; the identifier is listed byte by byte. -/
def foundByEmail : Option User → HttpResponse
  | none => errorResponseMaker .notFound "user_not_found" "User not found"
  | some user => jsonResponse .ok [("display_name", .string user.displayName),
    ("id", .array ((BigEndian.beBytes 16 user.id).map fun byte => .unsigned byte.toUInt64))]

/-- The response to a search. -/
def foundByUsername (myId : Uuid) : Option User → HttpResponse
  | none => errorResponseMaker .notFound "user_not_found" "User not found"
  | some user =>
    if user.id = myId then badRequest "cannot_find_myself" "Can not Search for Myself"
    else ⟨.ok, [], jsonBody [("display_name", .string user.displayName),
      ("id", .string user.id.toString), ("username", .string user.username)]⟩

/-- A friend request, as a response or a push shows one. -/
def requestJson (record : FriendshipRequestRecord) : Json :=
  .object [("display_name", .string record.displayName), ("id", .string record.id.toString),
    ("message", .string record.message), ("request_id", .string record.requestId.toString),
    ("username", .string record.username)]

/-- What is pushed to the recipient of a friend request. -/
def onlinePush (record : FriendshipRequestRecord) : Json :=
  .object [("type", .string "friend.request.received"),
    ("unprocessed_requests", .array [requestJson record])]

/-- The response with the requests that wait. -/
def unprocessedResponse : Option (List FriendshipRequestRecord) → HttpResponse
  | none => ⟨.ok, [], jsonBody [("unprocessed_requests", .string "None")]⟩
  | some records => jsonResponse .ok [("unprocessed_requests", .array (records.map requestJson))]

/-- The response with the friends. -/
def friendsResponse (friends : List User) : HttpResponse :=
  jsonResponse .ok [("friends", .array (friends.map userJson))]

/-- The response to the processing of a request. -/
def processedResponse (requestId : Uuid) (process : String) :
    FriendRequestProcessResult → HttpResponse
  | .notFound =>
    errorResponseMaker .notFound "friend_request_not_found" "Friend request not found"
  | .forbidden => errorResponseMaker .forbidden "friend_request_forbidden"
    "You cannot perform this action on this request"
  | .conflict => errorResponseMaker .conflict "friend_request_already_processed"
    "Friend request has a different final status"
  | .invalidAction =>
    badRequest "invalid_process" "process must be accepted, rejected or cancelled"
  | result => jsonResponse .ok [("already_processed", .boolean (result = .alreadyProcessed)),
    ("request_id", .string requestId.toString), ("status", .string process)]

end UserHandler

namespace Server

/-- What only exceptions of the database become a response of. -/
def catchDatabase (handled : Server HttpResponse) (failure : Error → HttpResponse) :
    Server HttpResponse :=
  handled.tryCatch fun
  | .database error => .ret (failure (.database error))
  | error => .throw error

/-! ### RefreshTokenHandler -/

/-- `VerifyRefreshToken`. -/
def RefreshTokenHandler.verifyRefreshToken (parser : JsonParser) (request : HttpRequest) :
    Server HttpResponse :=
  match RefreshTokenHandler.readRefreshToken parser request.body with
  | .error response => .ret response
  | .ok refreshToken => (perform (.validate refreshToken)).bind fun
    | .error .invalid =>
      .ret (errorResponseMaker .unauthorized "invalid_refreshToken" "Invalid refresh token")
    | .error .expired =>
      .ret (errorResponseMaker .unauthorized "invalid_refreshToken" "Refresh token is expired")
    | .ok userId => (perform (.generateAccessToken userId)).bind fun accessToken =>
      .ret (RefreshTokenHandler.refreshed refreshToken accessToken userId)

namespace UserHandler

/-! ### Accounts -/

/-- `Register`. -/
def register (parser : JsonParser) (request : HttpRequest) : Server HttpResponse :=
  match UserHandler.readRegistration parser request.body with
  | .error response => .ret response
  | .ok fields =>
    (RegisterService.registerUserByEmail
      (UserHandler.toLower (UserHandler.conversionInput fields.email))
      (UserHandler.conversionInput fields.password) (UserHandler.conversionInput fields.displayName)
      (UserHandler.conversionInput fields.username)).bind fun
    | .ok user => .ret (UserHandler.createdResponse user)
    | .error reason => .ret (UserHandler.registerRefusal reason)

/-- `LoginByEmail`. -/
def loginByEmail (P : Platform) (parser : JsonParser) (request : HttpRequest) :
    Server HttpResponse :=
  match UserHandler.readLogin parser request.body with
  | .error response => .ret response
  | .ok (email, password) =>
    ((LoginService.loginByEmail P (UserHandler.toLower (UserHandler.conversionInput email))
      (UserHandler.conversionInput password)).bind fun result =>
        .ret (UserHandler.loginResponse (.ok result))).tryCatch fun error =>
          .ret (UserHandler.loginResponse (.error error))

/-- `DeviceVerification`. -/
def deviceVerification (P : Platform) (parser : JsonParser) (request : HttpRequest) :
    Server HttpResponse :=
  match UserHandler.readVerification parser request.body with
  | .error response => .ret response
  | .ok (ticket, deviceId) =>
    ((LoginTicketService.verifyDevice P ticket deviceId).bind fun login =>
      .ofExcept (loginTicketResponse login false)).tryCatch fun error =>
        .ret (UserHandler.verificationFailure error)

/-- `successResponse` of `RevokeDevice`. -/
def revoked (myId deviceId : Uuid) (alreadyRevoked : Bool) : Server HttpResponse :=
  (perform (.closeSession myId deviceId)).bind fun websocketClosed =>
    .ret (UserHandler.revokedResponse deviceId websocketClosed alreadyRevoked)

/-- `RevokeDevice`. -/
def revokeDevice (parser : JsonParser) (request : HttpRequest) (myId : Uuid) :
    Server HttpResponse :=
  match UserHandler.readRevocation parser request.body with
  | .error response => .ret response
  | .ok (password, deviceId) =>
    ((UserService.revokeUserDevice myId deviceId password).bind fun
      | .ok true => revoked myId deviceId false
      | .error .revokedDevice => revoked myId deviceId true
      | result => .ret (UserHandler.revocationResponse deviceId false (.ok result))).tryCatch
        fun error => .ret (UserHandler.revocationResponse deviceId false (.error error))

/-- `getUser`. -/
def getUser (request : HttpRequest) : Server HttpResponse :=
  match request.headers (utf8 "X-User-Email") with
  | none => .ret (badRequest "missing_user_email" "Missing X-User-Email header")
  | some email =>
    if email = [] then .ret (badRequest "missing_user_email" "Missing X-User-Email header")
    else (perform (.findByEmail email)).bind fun user => .ret (UserHandler.foundByEmail user)

/-- `verifyaccess`, whose body stays empty. -/
def verifyaccess : Server HttpResponse := .ret ⟨.ok, [], []⟩

/-- `FindUserByUsername`. -/
def findUserByUsername (parser : JsonParser) (request : HttpRequest) (myId : Uuid) :
    Server HttpResponse :=
  match UserHandler.readUsername parser request.body with
  | .error response => .ret response
  | .ok username => (perform (.findUserByUsername username)).bind fun user =>
    .ret (UserHandler.foundByUsername myId user)

/-! ### Friendships -/

/-- What follows a friend request that has been stored, in a `try` of its own. -/
def notify (friendId : Uuid) (record : FriendshipRequestRecord) : Server HttpResponse :=
  ((perform (.pushToUser friendId (UserHandler.onlinePush record))).bind fun _ =>
    .ret ⟨.ok, [], []⟩).tryCatch fun _ => .ret ⟨.ok, [], []⟩

/-- `RequestFriendship`. An identifier that cannot be read is an exception, outside of its `try`. -/
def requestFriendship (parser : JsonParser) (request : HttpRequest) (myId : Uuid) :
    Server HttpResponse :=
  match UserHandler.readFriendRequest parser request.body with
  | .error response => .ret response
  | .ok (text, message) =>
    match Uuid.ofString text with
    | none => .throw (.runtimeError "invalid uuid string")
    | some friendId =>
      if friendId = myId then
        .ret (badRequest "cannot_request_friendship_myself" "Can not request Myself")
      else ((UserService.requestFriendship myId friendId message).bind fun
        | some record => notify friendId record
        | none => .ret (errorResponseMaker .conflict "request_already_exists"
          "Friendship request already exists")).tryCatch fun _ =>
          .ret (errorResponseMaker .serviceUnavailable "request_friendship_failed"
            "Unable to send friend request")

/-- `FetchUnprocessedFriendship`. -/
def fetchUnprocessedFriendship (myId : Uuid) : Server HttpResponse :=
  ((perform (.fetchUnprocessedRequest myId)).bind fun records =>
    .ret (UserHandler.unprocessedResponse records)).tryCatch fun _ =>
      .ret (errorResponseMaker .serviceUnavailable "fetch_new_request_failed"
        "Failed to fetch newly created request")

/-- `ProcessFriendshipRequest`. -/
def processFriendshipRequest (parser : JsonParser) (request : HttpRequest) (myId : Uuid) :
    Server HttpResponse :=
  match UserHandler.readProcessing parser request.body with
  | .error response => .ret response
  | .ok (requestId, process) =>
    catchDatabase ((UserService.processFriendshipRequest myId requestId process).bind fun result =>
      .ret (UserHandler.processedResponse requestId process result))
      (ChatHandler.failure "process_friend_request_failed" "Unable to process friend request")

/-- `FetchFriends`. -/
def fetchFriends (myId : Uuid) : Server HttpResponse :=
  catchDatabase ((perform (.fetchFriends myId)).bind fun friends =>
    .ret (UserHandler.friendsResponse friends))
    (ChatHandler.failure "fetch_friends_failed" "Unable to fetch friends")

end UserHandler

end Server

end ChatBackend
