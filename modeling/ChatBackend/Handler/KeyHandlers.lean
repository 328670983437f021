import ChatBackend.Handler.Services
import ChatBackend.Handler.UserHandler

/-!
# ChatHandler: devices and keys

`src/handler/ChatHandler.cpp`, the handlers as programs. The user for whom they act comes from the
authentication; a body may name another user, whose devices or keys are asked for, and is brought into
one form first.

## Main definitions

* `ChatHandler.normalizeDeviceTarget`, `readPrekeys` — what is read from a body
* `loginTicketResponse` — the response to a completed login
* `Server.ChatHandler.registerNewDevice`, `uploadOneTimePrekeys`, `getOneTimePrekey`,
  `fetchUserDevices`, `getDeviceKeyBundle`
-/

namespace ChatBackend

open UserHandler (badRequest jsonBody readObject)
open WebSocketDispatcher (hasDashes)

/-- `body[field] = value`, of an object. -/
def Json.set (body : Json) (field : String) (value : Json) : Json :=
  match body with
  | .object fields => .object (fields.filter (fun entry => entry.1 ≠ field) ++ [(field, value)])
  | other => other

/-- A response with a body of these fields, in the order of their names. -/
def jsonResponse (status : HttpStatus) (fields : List (String × Json)) : HttpResponse :=
  ⟨status, [(utf8 "Content-Type", utf8 "application/json")], jsonBody fields⟩

/-- The identifier that a text with dashes in their places stands for. -/
def dashedId (text : String) : Option Uuid := if hasDashes text then Uuid.ofString text else none

/-! ### Reading a body -/

namespace ChatHandler

/-- What a body says about the target under one name. -/
def readTarget (body : Json) (name : String) : Except HttpResponse (Option Uuid) :=
  let refusal := badRequest "invalid_target_user_id" "Target user must be a non-nil UUID string"
  match body.find name with
  | none => .ok none
  | some (.string text) =>
    match dashedId text with
    | none => .error refusal
    | some id => if id.isNil then .error refusal else .ok (some id)
  | some _ => .error refusal

/-- `normalizeDeviceTarget`: the body, with the target under the older of its names. -/
def normalizeDeviceTarget (body : Json) (actor : Uuid) : Except HttpResponse Json := do
  let target ← readTarget body "target_user_id"
  let friend ← readTarget body "friend_id"
  match target, friend with
  | some targetId, some friendId =>
    if friendId ≠ targetId then
      .error (badRequest "conflicting_target_user_id" "target_user_id and friend_id must agree")
    else .ok (body.set "friend_id" (.string friendId.toString))
  | _, _ => .ok (body.set "friend_id" (.string ((friend.or target).getD actor).toString))

/-- A field that must be an identifier. -/
def readId (body : Json) (field : String) : Except HttpResponse Uuid :=
  let refusal := badRequest ("invalid_" ++ field) (field ++ " must be a UUID string")
  match body.find field with
  | some (.string text) => (dashedId text).elim (.error refusal) .ok
  | _ => .error refusal

/-- The target and the device of a body. -/
def readTargetDevice (parser : JsonParser) (requestBody : Bytes) (actor : Uuid) :
    Except HttpResponse (Uuid × Uuid) := do
  let body ← readObject badRequest parser requestBody
  let body ← normalizeDeviceTarget body actor
  let friendId ← readId body "friend_id"
  let deviceId ← readId body "device_id"
  return (friendId, deviceId)

/-- The user whose devices are asked for. -/
def readDeviceOwner (parser : JsonParser) (request : HttpRequest) (actor : Uuid) :
    Except HttpResponse Uuid := do
  let body ← readObject badRequest parser request.body
  if request.path = utf8 "/friend_devices" ∧ (body.find "friend_id").isNone ∧
      (body.find "target_user_id").isNone then
    .error (badRequest "invalid_friend_id" "friend_id must be a UUID string")
  else
    let body ← normalizeDeviceTarget body actor
    readId body "friend_id"

/-- The `prekey_id` of an entry: an integer that fits `int` and is not negative. -/
def readPrekeyId (entry : Json) : Option ℤ :=
  match entry.find "prekey_id" with
  | some (.unsigned value) => if value.toNat ≤ 2147483647 then some value.toNat else none
  | some (.integer value) =>
    if 0 ≤ value.toInt ∧ value.toInt ≤ 2147483647 then some value.toInt else none
  | _ => none

/-- The `public_key_hex` of an entry. -/
def readPublicKey (entry : Json) : Option String :=
  match entry.find "public_key_hex" with
  | some (.string key) => if isHexOfSize key 32 then some key else none
  | _ => none

/-- The loop over the entries of a batch, with the keys that have been read. -/
def readPrekeys (prekeys : List (ℤ × String)) :
    List Json → Except HttpResponse (List (ℤ × String))
  | [] => .ok prekeys
  | entry :: entries =>
    if entry.isObject = false then
      .error (badRequest "invalid_prekey" "Each prekey must be an object")
    else match readPrekeyId entry with
    | none => .error (badRequest "invalid_prekey_id" "prekey_id must be an integer from 0 to 2147483647")
    | some id => match readPublicKey entry with
      | none => .error (badRequest "invalid_public_key_hex" "public_key_hex must encode 32 bytes")
      | some key =>
        if id ∈ prekeys.map Prod.fst then
          .error (badRequest "duplicate_prekey_id" "prekey_id must be unique within the batch")
        else readPrekeys (prekeys ++ [(id, key)]) entries

/-- The device, as it is written, and the keys of an upload. -/
def readUpload (parser : JsonParser) (requestBody : Bytes) :
    Except HttpResponse (String × Uuid × List (ℤ × String)) := do
  let body ← readObject badRequest parser requestBody
  let refusal := badRequest "invalid_device_id" "device_id must be a UUID string"
  match body.find "device_id" with
  | some (.string text) =>
    match dashedId text with
    | none => .error refusal
    | some deviceId =>
      match body.find "prekeys" with
      | some (.array entries) =>
        if entries = [] ∨ 10 < entries.length then
          .error (badRequest "invalid_prekeys"
            "prekeys must be an array containing 1 to 10 entries")
        else
          let prekeys ← readPrekeys [] entries
          .ok (text, deviceId, prekeys)
      | _ => .error (badRequest "invalid_prekeys"
          "prekeys must be an array containing 1 to 10 entries")
  | _ => .error refusal

end ChatHandler

/-! ### Responses -/

/-- `loginTicketResponse`. -/
def loginTicketResponse (login : CompletedLogin) (registered : Bool) : Except Error HttpResponse :=
  match login.result.status with
  | .invalidTicket => .ok (errorResponseMaker .unauthorized "invalid_login_ticket"
    "Login ticket is invalid, expired or already used")
  | .accountDisabled =>
    .ok (errorResponseMaker .forbidden "account_disabled" "Account is disabled")
  | .deviceNotFound =>
    .ok (errorResponseMaker .notFound "device_not_found" "Device is not registered")
  | .deviceNotOwned =>
    .ok (errorResponseMaker .forbidden "device_not_owned" "Device does not belong to this login")
  | .deviceNotActive =>
    .ok (errorResponseMaker .forbidden "device_not_active" "Device is not active")
  | .success =>
    match login.result.identity with
    | none => .error (.logicError "Missing login identity")
    | some identity => .ok (jsonResponse (if registered then .created else .ok)
      [("access_token", .string login.accessToken),
        ("device_id", .string identity.deviceId.toString), ("device_status", .string "active"),
        ("id", .string identity.userId.toString), ("refresh_token", .string login.refreshToken)])

namespace ChatHandler

/-- What the handlers make of an exception: a lost connection is told apart. -/
def failure (code message : String) : Error → HttpResponse
  | .database error =>
    if error.kind = .connection then
      errorResponseMaker .serviceUnavailable "database_unavailable" "Service temporarily unavailable"
    else errorResponseMaker .internalServerError code message
  | _ => errorResponseMaker .internalServerError code message

/-- What `uploadOneTimePrekeys` makes of one: a key that is there already is a conflict. -/
def uploadFailure : Error → HttpResponse
  | .database error =>
    if error.code = "23505" then
      errorResponseMaker .conflict "prekey_already_exists" "A prekey ID already exists for this device"
    else failure "upload_prekeys_failed" "Unable to upload one-time prekeys" (.database error)
  | error => failure "upload_prekeys_failed" "Unable to upload one-time prekeys" error

/-- The response to an upload. -/
def uploadResponse (deviceText : String) (count : ℕ) (uploaded : Bool) : HttpResponse :=
  if uploaded = false then
    errorResponseMaker .forbidden "device_unavailable"
      "Device must belong to the authenticated user and be active"
  else jsonResponse .created
    [("device_id", .string deviceText), ("uploaded_count", .unsigned (UInt64.ofNat count))]

/-- The response to a claim. -/
def claimResponse (actor friendId : Uuid) (result : PrekeyClaimResult) : Except Error HttpResponse :=
  match result.status with
  | .notFriends => .ok (errorResponseMaker .forbidden "not_friends"
    "Target user must be yourself or a friend")
  | .deviceUnavailable => .ok (errorResponseMaker .forbidden "device_unavailable"
    "Target device must belong to the target user and be active")
  | .noPrekey => .ok (errorResponseMaker .notFound "prekey_unavailable"
    "No one-time prekey is currently available")
  | .success =>
    match result.prekey with
    | none => .error (.runtimeError "Missing claimed prekey")
    | some prekey => .ok (jsonResponse .ok
      [("device_id", .string prekey.deviceId.toString), ("friend_id", .string friendId.toString),
        ("is_own_device", .boolean (friendId = actor)),
        ("prekey_id", .integer (Int64.ofInt prekey.prekeyId)),
        ("public_key_hex", .string prekey.publicKeyHex),
        ("target_user_id", .string friendId.toString)])

/-- A device, as the response shows it. -/
def deviceJson (actor : Uuid) (device : Device) : Json :=
  .object [("device_id", .string device.deviceId.toString), ("device_name", .string device.deviceName),
    ("identity_public_key_hex", .string (encodeHex device.identityPublicKey)),
    ("is_own_device", .boolean (device.userId = actor)),
    ("protocol_suite", .string device.protocolSuite), ("status", .string "active"),
    ("user_id", .string device.userId.toString)]

/-- The response with the devices of a user. -/
def devicesResponse (actor friendId : Uuid) : Option (List Device) → HttpResponse
  | none =>
    errorResponseMaker .forbidden "not_friends" "Target user must be yourself or a friend"
  | some devices => jsonResponse .ok
    [("devices", .array (devices.map (deviceJson actor))), ("friend_id", .string friendId.toString),
      ("is_own_device", .boolean (friendId = actor)), ("target_user_id", .string friendId.toString)]

/-- The response with a key bundle. -/
def bundleResponse (actor friendId : Uuid) : Option DeviceKeyBundle → HttpResponse
  | none => errorResponseMaker .notFound "key_bundle_unavailable"
    "Target device key bundle is unavailable"
  | some bundle => jsonResponse .ok
    [("device_id", .string bundle.deviceId.toString), ("friend_id", .string friendId.toString),
      ("is_current", .boolean bundle.isCurrent), ("is_own_device", .boolean (friendId = actor)),
      ("signed_prekey_id", .integer (Int64.ofInt bundle.signedPreKeyId)),
      ("signed_prekey_public_hex", .string (encodeHex bundle.preKeyPublic)),
      ("signed_prekey_signature_hex", .string (encodeHex bundle.preKeySignature)),
      ("target_user_id", .string friendId.toString)]

end ChatHandler

/-! ### The handlers -/

namespace Server.ChatHandler

/-- `registerNewDevice`, with what follows its checks. -/
def registerNewDevice (P : Platform) (parser : JsonParser) (request : HttpRequest) :
    Server HttpResponse :=
  match ChatBackend.ChatHandler.registerNewDevice parser request.body with
  | .error response => .ret response
  | .ok (ticket, input) =>
    ((LoginTicketService.registerDevice P ticket input).bind fun login =>
      .ofExcept (loginTicketResponse login true)).tryCatch fun error =>
        .ret (ChatHandler.failure "register_device_failed" "Unable to register device" error)

/-- `uploadOneTimePrekeys`. -/
def uploadOneTimePrekeys (parser : JsonParser) (request : HttpRequest) (userId : Uuid) :
    Server HttpResponse :=
  match ChatHandler.readUpload parser request.body with
  | .error response => .ret response
  | .ok (deviceText, deviceId, prekeys) =>
    ((KeyService.uploadOneTimePrekeys userId deviceId prekeys).bind fun uploaded =>
      .ret (ChatHandler.uploadResponse deviceText prekeys.length uploaded)).tryCatch fun error =>
        .ret (ChatHandler.uploadFailure error)

/-- `getOneTimePrekey`. -/
def getOneTimePrekey (parser : JsonParser) (request : HttpRequest) (userId : Uuid) :
    Server HttpResponse :=
  match ChatHandler.readTargetDevice parser request.body userId with
  | .error response => .ret response
  | .ok (friendId, deviceId) =>
    ((KeyService.getOneTimePrekey userId friendId deviceId).bind fun result =>
      .ofExcept (ChatHandler.claimResponse userId friendId result)).tryCatch fun error =>
        .ret (ChatHandler.failure "claim_prekey_failed" "Unable to claim one-time prekey" error)

/-- `fetchUserDevices`. -/
def fetchUserDevices (parser : JsonParser) (request : HttpRequest) (userId : Uuid) :
    Server HttpResponse :=
  match ChatHandler.readDeviceOwner parser request userId with
  | .error response => .ret response
  | .ok friendId =>
    ((KeyService.fetchUserDevices userId friendId).bind fun devices =>
      .ret (ChatHandler.devicesResponse userId friendId devices)).tryCatch fun error =>
        .ret (ChatHandler.failure "fetch_user_devices_failed" "Unable to fetch user devices" error)

/-- `getDeviceKeyBundle`. -/
def getDeviceKeyBundle (parser : JsonParser) (request : HttpRequest) (userId : Uuid) :
    Server HttpResponse :=
  match ChatHandler.readTargetDevice parser request.body userId with
  | .error response => .ret response
  | .ok (friendId, deviceId) =>
    ((perform (.getDeviceKeyBundle friendId userId deviceId)).bind fun bundle =>
      .ret (ChatHandler.bundleResponse userId friendId bundle)).tryCatch fun error =>
        .ret (ChatHandler.failure "fetch_key_bundle_failed" "Unable to fetch device key bundle" error)

end Server.ChatHandler

end ChatBackend
