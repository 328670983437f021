import ChatBackend.Effects
import ChatBackend.Service.ChatService
import ChatBackend.Websocket.Application
import ChatBackend.Websocket.Requests

/-!
# The dispatcher

`src/websocket/WebSocketDispatcher.cpp`: `dispatch` checks the access token of a frame, makes a task
of its request and queues it; the task, on a thread of the service pool, checks the session again,
parses the request, calls `ChatService` and replies. Both are programs whose calls are those to the
token service, the task queue, the session check, the chat service and `reply`.

## Main definitions

* `DispatcherCall` — the calls
* `dispatch`, `Task.run`
* `onlineSync` — the push that a stored message causes
-/

namespace ChatBackend

open Effects (Runs Obeys)

/-! ### Calls -/

/-- `AccessTokenError`. -/
inductive AccessTokenError where
  | invalid
  | expired
  deriving DecidableEq

/-- `AuthError`. -/
inductive AuthError where
  | unAuthorized
  | expired
  deriving DecidableEq

/-- `AuthResult`. -/
abbrev AuthResult := Except AuthError Uuid

/-- `IdentityState`. -/
inductive IdentityState where
  | success
  | noSuchDevice
  | notActivated
  | notYourDevice
  deriving DecidableEq

/-- `WebsocketRouter`. -/
inductive WebsocketRouter where
  | newTextMessageTest
  | newTextMessage
  | syncEnvelope
  | ackEnvelope
  | unknown
  deriving DecidableEq

/-- `parseType`. -/
def parseType (type : String) : WebsocketRouter :=
  if type = "chat.newTextMessage_Test" then .newTextMessageTest
  else if type = "chat.newTextMessage" then .newTextMessage
  else if type = "chat.sync.envelope" then .syncEnvelope
  else if type = "chat.envelopes.ack" then .ackEnvelope
  else .unknown

/-- A task that `dispatch` queues: which of the four, and what it captures. -/
structure Task where
  router : WebsocketRouter
  payload : Json
  userId : Uuid
  authResult : AuthResult
  sessionUserId : Uuid
  sessionDeviceId : Uuid

/-- The calls that leave the dispatcher. -/
inductive DispatcherCall where
  | verifyToken (accessToken : String)
  | receiveTask (task : Task)
  | verifySessionIdentity (userId deviceId : Uuid)
  | printId (id message : String)
  | newTextMessage (userId senderDeviceId : Uuid) (request : NewTextMessageRequest)
  | syncEnvelopePage (userId : Uuid) (request : SyncEnvelopeRequest)
  | ackEnvelopes (userId : Uuid) (request : AckEnvelopeRequest)
  | reply (message : Json)

/-- What they answer. -/
abbrev DispatcherCall.Answer : DispatcherCall → Type
  | verifyToken _ => Except AccessTokenError Uuid
  | receiveTask _ => Unit
  | verifySessionIdentity _ _ => IdentityState
  | printId _ _ => Unit
  | newTextMessage _ _ _ => NewTextMessageResult
  | syncEnvelopePage _ _ => Option EnvelopePage
  | ackEnvelopes _ _ => Option (List Uuid)
  | reply _ => Unit

/-- Programs of the dispatcher. -/
abbrev Dispatcher (α : Type) := Effects.Prog DispatcherCall.Answer Error α

/-- A call with its answer. -/
abbrev DispatcherEvent := Effects.Event DispatcherCall.Answer Error

namespace WebSocketDispatcher

/-! ### Replies -/

/-- One call. -/
def perform (op : DispatcherCall) : Dispatcher op.Answer := Effects.Prog.perform op

/-- One call of `reply`. -/
def reply (message : Json) : Dispatcher Unit := perform (.reply message)

/-- A reply about the session or the token. -/
def errorReply (code : String) : Json :=
  .object [("type", .string "error"), ("error", .object [("code", .string code)])]

/-- The result of a request that failed. -/
def failure (responseType code message : String) : Json :=
  .object [("type", .string responseType), ("success", .boolean false),
    ("error", .object [("code", .string code), ("message", .string message)])]

/-- The result of a request that succeeded. -/
def success (responseType : String) (fields : List (String × Json)) : Json :=
  .object (("type", .string responseType) :: ("success", .boolean true) :: fields)

/-- A uuid as a JSON value. -/
def uuidJson (u : Uuid) : Json := .string u.toString

/-- An `int64` as a JSON value. -/
def int64Json (n : ℤ) : Json := .integer (Int64.ofInt n)

/-- A `size_t` as a JSON value. -/
def sizeJson (n : ℕ) : Json := .unsigned (UInt64.ofNat n)

/-- One character of Base64. -/
def base64Char (value : ℕ) : Char :=
  "ABCDEFGHIJKLMNOPQRSTUVWXYZabcdefghijklmnopqrstuvwxyz0123456789+/".toList.getD (value &&& 63) '='

/-- The characters of `encodePacketBase64`, three bytes at a time. -/
def packetBase64Chars : Bytes → List Char
  | [] => []
  | [a] =>
    let value := a.toNat <<< 16
    [base64Char (value >>> 18), base64Char (value >>> 12), '=', '=']
  | [a, b] =>
    let value := a.toNat <<< 16 ||| b.toNat <<< 8
    [base64Char (value >>> 18), base64Char (value >>> 12), base64Char (value >>> 6), '=']
  | a :: b :: c :: rest =>
    let value := a.toNat <<< 16 ||| b.toNat <<< 8 ||| c.toNat
    base64Char (value >>> 18) :: base64Char (value >>> 12) :: base64Char (value >>> 6) ::
      base64Char value :: packetBase64Chars rest

/-- `encodePacketBase64`. -/
def encodePacketBase64 (bytes : Bytes) : String := String.ofList (packetBase64Chars bytes)

/-- An envelope in a push or in a page. -/
def envelopeBody (envelope : Envelope) : Json :=
  .object [("message_id", uuidJson envelope.messageId),
    ("envelope_id", uuidJson envelope.envelopeId),
    ("sender_device_id", uuidJson envelope.senderDeviceId),
    ("recipient_device_id", uuidJson envelope.recipientDeviceId),
    ("protocol_version", .string envelope.protocolVersion),
    ("packet_base64", .string (encodePacketBase64 envelope.packet)),
    ("seq", int64Json envelope.seq)]

/-- **The push** that goes to the recipient of a stored message. -/
def onlineSync (envelope : Envelope) : Json :=
  .object [("type", .string "Online_Sync"), ("success", .boolean true), ("duplicate", .boolean false),
    ("recipientDeviceId", uuidJson envelope.recipientDeviceId), ("seq", int64Json envelope.seq),
    ("envelope", envelopeBody envelope)]

/-! ### The session check -/

/-- The code that a database error is reported under. -/
def databaseErrorCode (error : DatabaseError) : String :=
  if error.isConnectionFailure then "database_unavailable"
  else if error.isTransactionRetry then "retry_later"
  else "internal_server_error"

/-- The code that a failed session check is reported under. -/
def identityErrorCode : Error → String
  | .database error => databaseErrorCode error
  | _ => "internal_server_error"

/-- The code that a failed authentication is reported under. -/
def authErrorCode : AuthError → String
  | .expired => "access_token_expired"
  | .unAuthorized => "invalid_access_token"

/-- What an authorization text begins with. -/
def bearer : List Char := "Bearer ".toList

/-- `AuthMiddleWare::authenticate`, of an authorization text. -/
def authenticate (authorization : String) : Dispatcher AuthResult :=
  if bearer.isPrefixOf authorization.toList = false ∨ authorization.toList = bearer then
    .ret (.error .unAuthorized)
  else
    .call (.verifyToken (String.ofList (authorization.toList.drop bearer.length))) fun
      | .error error => .throw error
      | .ok (.error .expired) => .ret (.error .expired)
      | .ok (.error .invalid) => .ret (.error .unAuthorized)
      | .ok (.ok userId) => .ret (.ok userId)

/-- `replyError` of `validateSessionRequest`: it replies, and the request goes no further. -/
def replyError (code : String) : Dispatcher Bool := (reply (errorReply code)).bind fun _ => .ret false

/-- The field of the device and the type of the result, for the types of request that name one. -/
def deviceFieldOf (type : String) : Option (String × String) :=
  if type = "chat.newTextMessage" then some ("sender_device_id", "newTextMessage.result")
  else if type = "chat.sync.envelope" then some ("device_id", "chat.sync.envelope.result")
  else if type = "chat.envelopes.ack" then some ("device_id", "chat.envelopes.ack.result")
  else none

/-- The checks of `validateSessionRequest` after the session is found to be in order. -/
def validateDevice (sessionDeviceId : Uuid) (payload : Json) : Dispatcher Bool :=
  match payload.find "type" with
  | some (.string type) =>
    match deviceFieldOf type with
    | none => .ret true
    | some (deviceField, responseType) =>
      match requireUuid payload deviceField with
      | .error _ =>
        (reply (failure responseType "invalid_request"
          "A valid session device UUID is required")).bind fun _ => .ret false
      | .ok requestDeviceId =>
        if requestDeviceId ≠ sessionDeviceId then
          (reply (failure responseType "session_device_mismatch"
            "Request device must match this WebSocket session")).bind fun _ => .ret false
        else .ret true
  | _ => replyError "invalid_request"

/-- The checks of `validateSessionRequest` on what the session check answered. -/
def validateIdentity (sessionDeviceId : Uuid) (payload : Json) :
    Except Error IdentityState → Dispatcher Bool
  | .error error => replyError (identityErrorCode error)
  | .ok identityResult =>
    if identityResult ≠ .success then replyError "device_do_not_match_session"
    else validateDevice sessionDeviceId payload

/-- `validateSessionRequest`. -/
def validateSessionRequest (authResult : AuthResult) (sessionUserId sessionDeviceId : Uuid)
    (payload : Json) : Dispatcher Bool :=
  match authResult with
  | .error error => replyError (authErrorCode error)
  | .ok userId =>
    if userId ≠ sessionUserId then replyError "accessToken_do_not_match_session"
    else
      .call (.verifySessionIdentity userId sessionDeviceId)
        (validateIdentity sessionDeviceId payload)

theorem validateSessionRequest_ok (userId deviceId : Uuid) (payload : Json) :
    validateSessionRequest (.ok userId) userId deviceId payload =
      .call (.verifySessionIdentity userId deviceId) (validateIdentity deviceId payload) :=
  if_neg (not_not.mpr rfl)

/-! ### The tasks -/

/-- `get<std::string>` and the implicit conversion: anything but a string throws. -/
def stringOf : Option Json → Except Error String
  | some (.string text) => .ok text
  | _ => .error (.logicError "type_error: type must be string")

/-- The route of `chat.newTextMessage_Test`. -/
def newTextMessageTest (payload : Json) : Dispatcher Unit :=
  (Effects.Prog.ofExcept (stringOf (payload.entry "id"))).bind fun id =>
    (Effects.Prog.ofExcept (stringOf (payload.entry "message"))).bind fun message =>
      (perform (.printId id message)).bind fun _ =>
        reply (success "newTextMessage.result" [("id", .string id)])

/-- What is said about a message after `ChatService` has returned; a stored message is pushed first,
and a push that throws is let go. -/
def messageResponse (result : NewTextMessageResult) : Dispatcher Json :=
  let failed := failure "newTextMessage.result"
  match result.status, result.envelope with
  | .success, some envelope =>
    ((reply (onlineSync envelope)).tryCatch fun _ => .ret ()).bind fun _ =>
      .ret (success "newTextMessage.result" [("duplicate", .boolean false),
        ("message_id", uuidJson envelope.messageId), ("envelope_id", uuidJson envelope.envelopeId),
        ("seq", int64Json envelope.seq)])
  | .duplicateRequest, some envelope =>
    .ret (success "newTextMessage.result" [("duplicate", .boolean true),
      ("message_id", uuidJson envelope.messageId), ("envelope_id", uuidJson envelope.envelopeId),
      ("seq", int64Json envelope.seq)])
  | .success, none | .duplicateRequest, none =>
    .ret (failed "internal_server_error" "Missing storage result")
  | .invalidRequest, _ => .ret (failed "invalid_request" "Invalid message fields")
  | .permissionDenied, _ =>
    .ret (failed "send_permission_denied" "Sender or recipient is not permitted")
  | .conflict, _ =>
    .ret (failed "envelope_conflict" "Message identifier already exists with different content")
  | .databaseUnavailable, _ =>
    .ret (failed "database_unavailable" "Retry later with the same message identifier and packet")
  | .retryLater, _ =>
    .ret (failed "retry_later" "Retry later with the same message identifier and packet")
  | .internalError, _ => .ret (failed "internal_server_error" "Unable to save message")

/-- The route of `chat.newTextMessage`. -/
def newTextMessage (sodium : Sodium) (userId : Uuid) (payload : Json) : Dispatcher Unit :=
  match parseNewMessage sodium payload with
  | .error message => reply (failure "newTextMessage.result" "invalid_request" message)
  | .ok parsed =>
    (((perform (.newTextMessage userId parsed.senderDeviceId parsed.request)).bind
      messageResponse).tryCatch fun _ =>
        .ret (failure "newTextMessage.result" "internal_server_error" "Unable to process message")).bind
      reply

/-- What is said about a page. -/
def pageResponse (request : SyncEnvelopeRequest) : Option EnvelopePage → Json
  | none => failure "chat.sync.envelope.result" "sync_permission_denied"
      "Device must belong to the authenticated user and be active"
  | some page => success "chat.sync.envelope.result" [("device_id", uuidJson request.deviceId),
      ("count", sizeJson page.envelopes.length), ("has_more", .boolean page.hasMore),
      ("envelopes", .array (page.envelopes.map envelopeBody))]

/-- What is said about a synchronization that threw. -/
def syncFailure : Error → Json
  | .invalidArgument _ =>
    failure "chat.sync.envelope.result" "invalid_request" "Invalid synchronization request"
  | .database error =>
    failure "chat.sync.envelope.result" (databaseErrorCode error)
      (if error.isConnectionFailure then "Service temporarily unavailable"
        else if error.isTransactionRetry then "Retry synchronization with the same cursors"
        else "Unable to synchronize envelopes")
  | _ => failure "chat.sync.envelope.result" "internal_server_error" "Unable to synchronize envelopes"

/-- The route of `chat.sync.envelope`. -/
def syncEnvelope (userId : Uuid) (payload : Json) : Dispatcher Unit :=
  match parseSyncEnvelope payload with
  | .error message => reply (failure "chat.sync.envelope.result" "invalid_request" message)
  | .ok request =>
    (((perform (.syncEnvelopePage userId request)).bind fun page =>
      .ret (pageResponse request page)).tryCatch fun error => .ret (syncFailure error)).bind reply

/-- What is said about an acknowledgment. -/
def ackResponse (request : AckEnvelopeRequest) : Option (List Uuid) → Json
  | none => failure "chat.envelopes.ack.result" "ack_permission_denied"
      "Device must belong to the authenticated user and be active"
  | some ids => success "chat.envelopes.ack.result" [("device_id", uuidJson request.deviceId),
      ("acknowledged_ids", .array (ids.map uuidJson)), ("count", sizeJson ids.length)]

/-- What is said about an acknowledgment that threw. -/
def ackFailure : Error → Json
  | .invalidArgument _ =>
    failure "chat.envelopes.ack.result" "invalid_request" "Invalid acknowledgment request"
  | .database error =>
    failure "chat.envelopes.ack.result" (databaseErrorCode error)
      (if error.isConnectionFailure ∨ error.isTransactionRetry then
          "Retry acknowledgment with the same identifiers"
        else "Unable to acknowledge envelopes")
  | _ =>
    failure "chat.envelopes.ack.result" "internal_server_error" "Unable to acknowledge envelopes"

/-- The route of `chat.envelopes.ack`. -/
def ackEnvelope (userId : Uuid) (payload : Json) : Dispatcher Unit :=
  match parseAckEnvelope payload with
  | .error message => reply (failure "chat.envelopes.ack.result" "invalid_request" message)
  | .ok request =>
    (((perform (.ackEnvelopes userId request)).bind fun ids =>
      .ret (ackResponse request ids)).tryCatch fun error => .ret (ackFailure error)).bind reply

/-- The part of a task after the session check. -/
def route (sodium : Sodium) (task : Task) : Dispatcher Unit :=
  match task.router with
  | .newTextMessageTest => newTextMessageTest task.payload
  | .newTextMessage => newTextMessage sodium task.userId task.payload
  | .syncEnvelope => syncEnvelope task.userId task.payload
  | .ackEnvelope => ackEnvelope task.userId task.payload
  | .unknown => .ret ()

/-- The body of a task. -/
def runTask (sodium : Sodium) (task : Task) : Dispatcher Unit :=
  (validateSessionRequest task.authResult task.sessionUserId task.sessionDeviceId task.payload).bind
    fun valid => if valid then route sodium task else .ret ()

/-! ### Dispatching -/

/-- The type of the result that a route replies with. -/
def responseType : WebsocketRouter → String
  | .syncEnvelope => "chat.sync.envelope.result"
  | .ackEnvelope => "chat.envelopes.ack.result"
  | _ => "newTextMessage.result"

/-- Queue a task, or say that it was not queued. -/
def submit (task : Task) : Dispatcher Unit :=
  (perform (.receiveTask task)).tryCatch fun _ =>
    reply (failure (responseType task.router) "server_busy" "Service task was not queued")

/-- The authorization text of a payload. -/
def authorizationOf (payload : Json) : Option String :=
  match payload.find "authorization" <|> payload.find "Authorization" with
  | some (.string authorization) => some authorization
  | _ => none

/-- `dispatch`, from the authenticated user on. -/
def dispatchAs (sessionDeviceId sessionUserId userId : Uuid) (authResult : AuthResult)
    (payload : Json) : Dispatcher Unit :=
  match payload.find "type" with
  | some (.string type) =>
    if parseType type = .unknown then .ret ()
    else submit ⟨parseType type, payload, userId, authResult, sessionUserId, sessionDeviceId⟩
  | _ => reply (errorReply "invalid_request")

/-- `WebSocketDispatcher::dispatch`. -/
def dispatch (sessionDeviceId sessionUserId : Uuid) (frame : ApplicationMessage) : Dispatcher Unit :=
  match frame.payload with
  | .json payload =>
    if payload.isObject = false then reply (errorReply "invalid_payload")
    else match authorizationOf payload with
      | none => reply (errorReply "missing_authorization")
      | some authorization =>
        (authenticate authorization).bind fun
          | .error error => reply (errorReply (authErrorCode error))
          | .ok userId =>
            if userId ≠ sessionUserId then reply (errorReply "accessToken_do_not_match_session")
            else dispatchAs sessionDeviceId sessionUserId userId (.ok userId) payload
  | _ => reply (errorReply "invalid_payload")

end WebSocketDispatcher

end ChatBackend
