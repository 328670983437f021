import ChatBackend.Http.HttpResponse
import ChatBackend.Service.Credentials
import ChatBackend.Trimming
import ChatBackend.Websocket.Application
import ChatBackend.Websocket.UuidText

/-!
# UserHandler: one password

`src/handler/UserHandler.cpp`, the three handlers that take a password. A registration and a login
trim the spaces of the email and of the password and put the email in lower case; the revocation of a
device takes the password as it is.

So a login finds what a registration has stored, however its email is spelt, and the revocation of a
device does if there was nothing to trim.

## Main definitions

* `UserHandler.toLower`, `conversionInput`
* `UserHandler.register`, `loginByEmail`, `revokeDevice`
* `OnePassword` — the password of a registration is accepted everywhere

## Main results

* `conversion_of_sameEmail` — the spelling of the email does not matter
* `one_password_iff`
-/

namespace ChatBackend

open Trimming (trim)
open WebSocketDispatcher (hasDashes hasDashes_toString)

namespace UserHandler

/-! ### Conversions -/

/-- `toLower`. -/
def toLower (str : String) : String := String.ofList (str.toList.map Char.toLower)

/-- `conversionInput`. -/
def conversionInput (input : String) : String :=
  String.ofList (trim (fun c => c = ' ') input.toList)

/-! ### Reading a body -/

/-- The object that the body of a request holds, or the response that says that it does not. -/
def readObject (refusal : String → String → HttpResponse) (parser : JsonParser)
    (requestBody : Bytes) : Except HttpResponse Json :=
  if requestBody = [] then .error (refusal "missing_request_body" "Request body is required")
  else match parser.parse requestBody with
  | none => .error (refusal "invalid_json" "Request body must be a valid JSON object")
  | some body =>
    if body.isObject then .ok body
    else .error (refusal "invalid_json" "Request body must be a valid JSON object")

/-- A field that must be a non-empty string. -/
def readText (refusal : String → String → HttpResponse) (body : Json) (field code message : String) :
    Except HttpResponse String :=
  match body.find field with
  | some (.string value) => if value = "" then .error (refusal code message) else .ok value
  | _ => .error (refusal code message)

/-- How most handlers refuse a request. -/
def badRequest (code message : String) : HttpResponse := errorResponseMaker .badRequest code message

/-- The body of a response. There is no double in it. -/
def jsonBody (fields : List (String × Json)) : Bytes :=
  utf8 (String.ofList (Json.dump (fun _ => "") (.object fields)))

/-! ### Registering -/

/-- The four fields of a registration, as the client has sent them. -/
structure Registration where
  email : String
  password : String
  displayName : String
  username : String

/-- The fields, in the source's order. -/
def readRegistration (parser : JsonParser) (requestBody : Bytes) :
    Except HttpResponse Registration := do
  let body ← readObject badRequest parser requestBody
  let email ← readText badRequest body "email" "missing_register_email"
    "Email must be a non-empty string"
  let password ← readText badRequest body "password" "missing_register_password"
    "Password must be a non-empty string"
  let displayName ← readText badRequest body "display_name" "missing_register_display_name"
    "Display name must be a non-empty string"
  let username ← readText badRequest body "username" "missing_register_username"
    "user name must be a non-empty string"
  return ⟨email, password, displayName, username⟩

/-- The response to a registration that has succeeded. -/
def createdResponse (user : User) : HttpResponse :=
  ⟨.created, [], jsonBody [("display_name", .string user.displayName),
    ("id", .string user.id.toString), ("username", .string user.username)]⟩

/-- The response to one that has not. -/
def registerRefusal : RegisterError → HttpResponse
  | .registerFailed =>
    errorResponseMaker .internalServerError "register_failed" "Register failed"
  | .invalidEmail => errorResponseMaker .badRequest "invalid_email" "Invalid email"
  | .invalidPassword =>
    errorResponseMaker .badRequest "invalid_password" "Password does not meet requirements"
  | .invalidDisplayName =>
    errorResponseMaker .badRequest "invalid_display_name" "Invalid display name"
  | .emailExists =>
    errorResponseMaker .conflict "email_already_exists" "This email is already registered"
  | .usernameExists =>
    errorResponseMaker .conflict "username_already_exists" "This username is already registered"
  | .invalidUsername => errorResponseMaker .badRequest "invalid_user_name" "Invalid user name"

/-- `UserHandler::Register`, with the salt and the uuid that are drawn on the way; what it throws goes
on to the session. -/
def register (hashing : PasswordHashing) (parser : JsonParser) (salt : ℕ) (id : Uuid) (s : AuthStore)
    (requestBody : Bytes) : Except Error (HttpResponse × AuthStore) :=
  match readRegistration parser requestBody with
  | .error response => .ok (response, s)
  | .ok fields =>
    match RegisterService.registerUserByEmail hashing salt id s.accounts
      (toLower (conversionInput fields.email)) (conversionInput fields.password)
      (conversionInput fields.displayName) (conversionInput fields.username) with
    | .error error => .error error
    | .ok (.error reason) => .ok (registerRefusal reason, s)
    | .ok (.ok (user, accounts)) => .ok (createdResponse user, { s with accounts := accounts })

/-! ### Logging in -/

/-- `makeResult` of `LoginByEmail`. -/
def makeResult (status : HttpStatus) (code : String) : HttpResponse :=
  ⟨status, [(utf8 "Content-Type", utf8 "application/json")], jsonBody [("code", .string code)]⟩

/-- The response with the ticket. -/
def loginSuccess (ticket : String) : HttpResponse :=
  { makeResult .ok "login_success" with
    body := jsonBody [("code", .string "login_success"), ("expires_in", .unsigned 300),
      ("login_ticket", .string ticket)] }

/-- The email and the password of a login, as the client has sent them. -/
def readLogin (parser : JsonParser) (requestBody : Bytes) : Except HttpResponse (String × String) := do
  let refusal := fun code _ => makeResult .badRequest code
  let body ← readObject refusal parser requestBody
  let email ← readText refusal body "email" "missing_register_email" ""
  let password ← readText refusal body "password" "missing_register_password" ""
  return (email, password)

/-- The response to a login. -/
def loginResponse : Except Error LoginServiceResult → HttpResponse
  | .ok ⟨.success, some ticket⟩ => loginSuccess ticket
  | .ok ⟨.success, none⟩ => makeResult .internalServerError "internal_error"
  | .ok ⟨.noUserFound, _⟩ => makeResult .unauthorized "invalid_credentials"
  | .ok ⟨.invalidCredentials, _⟩ => makeResult .unauthorized "invalid_credentials"
  | .ok ⟨.notActiveUser, _⟩ => makeResult .forbidden "account_disabled"
  | .ok ⟨.tooManyRequests, _⟩ => makeResult .serviceUnavailable "too_many_requests"
  | .ok ⟨.serviceUnavailable, _⟩ => makeResult .serviceUnavailable "service_unavailable"
  | .ok ⟨.internalError, _⟩ => makeResult .internalServerError "internal_error"
  | .error (.database error) =>
    if error.kind = .connection ∨ "08".isPrefixOf error.code then
      makeResult .serviceUnavailable "service_unavailable"
    else makeResult .internalServerError "internal_error"
  | .error _ => makeResult .internalServerError "internal_error"

/-- `UserHandler::LoginByEmail`, with what it commits. -/
def loginByEmail (P : Platform) (hashing : PasswordHashing) (parser : JsonParser) (ticket : String)
    (s : AuthStore) (requestBody : Bytes) : HttpResponse × List Write :=
  match readLogin parser requestBody with
  | .error response => (response, [])
  | .ok (email, password) =>
    let (result, writes) := LoginService.loginByEmail P hashing s ticket
      (toLower (conversionInput email)) (conversionInput password)
    (loginResponse result, writes)

/-! ### Revoking a device -/

/-- The password and the device of a revocation. -/
def readRevocation (parser : JsonParser) (requestBody : Bytes) :
    Except HttpResponse (String × Uuid) := do
  let body ← readObject badRequest parser requestBody
  let password ← readText badRequest body "password" "missing_password"
    "Password must be a non-empty string"
  let text ← readText badRequest body "deviceID" "missing_deviceID"
    "deviceID must be a non-empty string"
  match if hasDashes text then Uuid.ofString text else none with
  | none => .error (badRequest "invalid_deviceID" "deviceID must be a non-nil UUID string")
  | some deviceId =>
    if deviceId.isNil then
      .error (badRequest "invalid_deviceID" "deviceID must be a non-nil UUID string")
    else .ok (password, deviceId)

/-- The response to a revocation of a device that is revoked now. -/
def revokedResponse (deviceId : Uuid) (websocketClosed alreadyRevoked : Bool) : HttpResponse :=
  ⟨if websocketClosed then .ok else .accepted, [(utf8 "Content-Type", utf8 "application/json")],
    jsonBody [("already_revoked", .boolean alreadyRevoked),
      ("device_id", .string deviceId.toString), ("status", .string "revoked"),
      ("websocket_closed", .boolean websocketClosed)]⟩

/-- The responses that say that the password is not the user's. -/
def userNotFound : HttpResponse :=
  errorResponseMaker .notFound "user_not_found" "Password login record not found"
def invalidPassword : HttpResponse :=
  errorResponseMaker .forbidden "invalid_password" "Password verification failed"

/-- The response to a revocation; `websocketClosed` is what `closeSession` says. -/
def revocationResponse (deviceId : Uuid) (websocketClosed : Bool) :
    Except Error (Except UserServiceErrorCode Bool) → HttpResponse
  | .ok (.ok true) => revokedResponse deviceId websocketClosed false
  | .ok (.error .revokedDevice) => revokedResponse deviceId websocketClosed true
  | .ok (.error .userNotFound) => userNotFound
  | .ok (.error .invalidPassword) => invalidPassword
  | .ok (.error .notYourDevice) => errorResponseMaker .forbidden "device_not_owned"
    "Device does not belong to the authenticated user"
  | .ok (.error .deviceNotFound) =>
    errorResponseMaker .notFound "device_not_found" "Device not found"
  | .ok (.error .deviceNotActive) =>
    errorResponseMaker .conflict "device_not_active" "Only active devices can be revoked"
  | .error (.database error) =>
    if error.kind = .connection ∨ "08".isPrefixOf error.code then
      errorResponseMaker .serviceUnavailable "database_unavailable"
        "Retry revocation with the same deviceID"
    else if error.code = "40001" ∨ error.code = "40P01" then
      errorResponseMaker .serviceUnavailable "retry_later" "Retry revocation with the same deviceID"
    else errorResponseMaker .internalServerError "revoke_device_failed" "Unable to revoke device"
  -- Among them is the logic error of an unexpected result.
  | .ok (.ok false) | .error _ =>
    errorResponseMaker .internalServerError "revoke_device_failed" "Unable to revoke device"

/-- `UserHandler::RevokeDevice`, with what it commits. The password is used as it was supplied. -/
def revokeDevice (P : Platform) (hashing : PasswordHashing) (parser : JsonParser) (myId : Uuid)
    (websocketClosed : Bool) (s : AuthStore) (requestBody : Bytes) : HttpResponse × List Write :=
  match readRevocation parser requestBody with
  | .error response => (response, [])
  | .ok (password, deviceId) =>
    let (result, writes) := UserService.revokeUserDevice P hashing s myId deviceId password
    (revocationResponse deviceId websocketClosed result, writes)

/-! ### Fields that are there -/

variable {parser : JsonParser} {requestBody : Bytes} {response : HttpResponse}

theorem readText_eq_ok {refusal : String → String → HttpResponse} {body : Json}
    {field code message value : String} :
    readText refusal body field code message = .ok value ↔
      body.find field = some (.string value) ∧ value ≠ "" := by
  unfold readText
  split
  · next text hfind =>
    rw [hfind, Option.some.injEq, Json.string.injEq]
    split
    · next hempty =>
      constructor
      · intro h
        cases h
      · rintro ⟨rfl, hne⟩
        exact absurd hempty hne
    · next hne =>
      constructor
      · intro h
        cases h
        exact ⟨rfl, hne⟩
      · rintro ⟨rfl, -⟩
        rfl
  · next hno =>
    constructor
    · intro h
      cases h
    · rintro ⟨h, -⟩
      exact absurd h (hno value)

theorem readObject_eq_ok {refusal : String → String → HttpResponse} {body : Json} :
    readObject refusal parser requestBody = .ok body ↔
      requestBody ≠ [] ∧ parser.parse requestBody = some body ∧ body.isObject = true := by
  unfold readObject
  split
  · next hnil => simp [hnil]
  · next hne =>
    split
    · next hparse => simp [hparse]
    · next found hparse =>
      rw [hparse, Option.some.injEq]
      split
      · next hobject =>
        constructor
        · intro h
          cases h
          exact ⟨hne, rfl, hobject⟩
        · rintro ⟨-, rfl, -⟩
          rfl
      · next hobject =>
        constructor
        · intro h
          cases h
        · rintro ⟨-, rfl, hbody⟩
          exact absurd hbody hobject

/-- **A registration that is read** has its fields in the body. -/
theorem readRegistration_eq_ok {fields : Registration}
    (h : readRegistration parser requestBody = .ok fields) :
    ∃ body, readObject badRequest parser requestBody = .ok body ∧
      (body.find "email" = some (.string fields.email) ∧ fields.email ≠ "") ∧
      body.find "password" = some (.string fields.password) ∧ fields.password ≠ "" := by
  obtain ⟨body, hbody, h⟩ := bind_eq_ok.1 h
  obtain ⟨email, hemail, h⟩ := bind_eq_ok.1 h
  obtain ⟨password, hpassword, h⟩ := bind_eq_ok.1 h
  obtain ⟨displayName, -, h⟩ := bind_eq_ok.1 h
  obtain ⟨username, -, h⟩ := bind_eq_ok.1 h
  obtain rfl := Except.ok.inj h
  exact ⟨body, hbody, readText_eq_ok.1 hemail, readText_eq_ok.1 hpassword⟩

theorem readLogin_eq_ok {body : Json} {email password : String} (hnonempty : requestBody ≠ [])
    (hparse : parser.parse requestBody = some body)
    (hemail : body.find "email" = some (.string email) ∧ email ≠ "")
    (hpassword : body.find "password" = some (.string password) ∧ password ≠ "") :
    readLogin parser requestBody = .ok (email, password) :=
  bind_eq_ok.2 ⟨body, readObject_eq_ok.2 ⟨hnonempty, hparse, Json.isObject_of_find hemail.1⟩,
    bind_eq_ok.2 ⟨email, readText_eq_ok.2 hemail,
      bind_eq_ok.2 ⟨password, readText_eq_ok.2 hpassword, rfl⟩⟩⟩

theorem readRevocation_eq_ok {body : Json} {password deviceText : String} {deviceId : Uuid}
    (hnonempty : requestBody ≠ []) (hparse : parser.parse requestBody = some body)
    (hpassword : body.find "password" = some (.string password) ∧ password ≠ "")
    (hdevice : body.find "deviceID" = some (.string deviceText))
    (hdashes : hasDashes deviceText = true) (hid : Uuid.ofString deviceText = some deviceId)
    (hnil : deviceId.isNil = false) :
    readRevocation parser requestBody = .ok (password, deviceId) := by
  have hne : deviceText ≠ "" := by
    rintro rfl
    exact absurd hdashes (by decide)
  refine bind_eq_ok.2 ⟨body,
    readObject_eq_ok.2 ⟨hnonempty, hparse, Json.isObject_of_find hpassword.1⟩,
    bind_eq_ok.2 ⟨password, readText_eq_ok.2 hpassword,
      bind_eq_ok.2 ⟨deviceText, readText_eq_ok.2 ⟨hdevice, hne⟩, ?_⟩⟩⟩
  rw [if_pos hdashes, hid]
  simp only [hnil, Bool.false_eq_true, if_false]

theorem readText_eq_error {refusal : String → String → HttpResponse} {body : Json}
    {field code message : String}
    (h : readText refusal body field code message = .error response) :
    response = refusal code message := by
  unfold readText at h
  split at h
  · split at h
    · exact (Except.error.inj h).symm
    · cases h
  · exact (Except.error.inj h).symm

theorem readObject_eq_error {refusal : String → String → HttpResponse}
    (h : readObject refusal parser requestBody = .error response) :
    ∃ code message, response = refusal code message := by
  unfold readObject at h
  split at h
  · exact ⟨_, _, (Except.error.inj h).symm⟩
  · split at h
    · exact ⟨_, _, (Except.error.inj h).symm⟩
    · split at h
      · cases h
      · exact ⟨_, _, (Except.error.inj h).symm⟩

/-- A registration that is not read is refused as a bad request. -/
theorem readRegistration_eq_error (h : readRegistration parser requestBody = .error response) :
    ∃ code message, response = badRequest code message := by
  rcases bind_eq_error.1 h with h | ⟨body, -, h⟩
  · exact readObject_eq_error h
  rcases bind_eq_error.1 h with h | ⟨email, -, h⟩
  · exact ⟨_, _, readText_eq_error h⟩
  rcases bind_eq_error.1 h with h | ⟨password, -, h⟩
  · exact ⟨_, _, readText_eq_error h⟩
  rcases bind_eq_error.1 h with h | ⟨displayName, -, h⟩
  · exact ⟨_, _, readText_eq_error h⟩
  rcases bind_eq_error.1 h with h | ⟨username, -, h⟩
  · exact ⟨_, _, readText_eq_error h⟩
  · cases h

/-! ### Spellings -/

/-- The email in some letter case, with spaces around it. -/
def SameEmail (email email' : String) : Prop :=
  ∃ before variant after : List Char, (∀ c ∈ before, c = ' ') ∧ (∀ c ∈ after, c = ' ') ∧
    email'.toList = before ++ variant ++ after ∧
    variant.map Char.toLower = email.toList.map Char.toLower

theorem toLower_eq_space_iff (c : Char) : c.toLower = ' ' ↔ c = ' ' := by
  refine char_cases (p := fun c => c.toLower = ' ' ↔ c = ' ') ?_ ?_ c
  · decide
  · intro c hc
    rw [toLower_of_le hc]

/-- Trimming and the letter case do not interfere. -/
theorem toLower_conversionInput (text : String) : toLower (conversionInput text) =
    String.ofList (trim (fun c => c = ' ') (text.toList.map Char.toLower)) := by
  have hspace : ∀ c : Char, decide (c.toLower = ' ') = decide (c = ' ') := fun c =>
    decide_eq_decide.2 (toLower_eq_space_iff c)
  rw [toLower, conversionInput, String.toList_ofList, Trimming.trim_map hspace]

/-- **The spelling of the email does not matter.** -/
theorem conversion_of_sameEmail {email email' : String} (h : SameEmail email email') :
    toLower (conversionInput email') = toLower (conversionInput email) := by
  obtain ⟨before, variant, after, hbefore, hafter, htext, hcase⟩ := h
  have hspaces : ∀ {pad : List Char}, (∀ c ∈ pad, c = ' ') →
      ∀ c ∈ pad.map Char.toLower, decide (c = ' ') = true := by
    intro pad hpad c hc
    obtain ⟨d, hd, rfl⟩ := List.mem_map.1 hc
    exact decide_eq_true ((toLower_eq_space_iff d).2 (hpad d hd))
  rw [toLower_conversionInput, toLower_conversionInput, htext, List.map_append, List.map_append,
    Trimming.trim_append_of_pos (hspaces hbefore) (hspaces hafter), hcase]

/-- A spelling of an email that is not empty is not empty either. -/
theorem ne_empty_of_sameEmail {email email' : String} (h : SameEmail email email')
    (hne : email ≠ "") : email' ≠ "" := by
  rintro rfl
  obtain ⟨before, variant, after, -, -, htext, hcase⟩ := h
  have hvariant : variant = [] := by
    have := List.append_eq_nil_iff.1 htext.symm
    exact (List.append_eq_nil_iff.1 this.1).2
  rw [hvariant, List.map_nil] at hcase
  exact hne (String.toList_eq_nil_iff.1 (List.map_eq_nil_iff.1 hcase.symm))

/-- The text neither begins nor ends with a space. -/
def NoSpaceAtEnds (text : String) : Prop :=
  text.toList.head? ≠ some ' ' ∧ text.toList.getLast? ≠ some ' '

theorem conversionInput_eq_self_iff {text : String} :
    conversionInput text = text ↔ NoSpaceAtEnds text := by
  have hends : ∀ end? : Option Char,
      (∀ c ∈ end?, decide (c = ' ') = false) ↔ end? ≠ some ' ' := by
    rintro (_ | c)
    · simp
    · simp
  rw [conversionInput, NoSpaceAtEnds, ← hends, ← hends, ← Trimming.trim_eq_self_iff]
  constructor
  · intro h
    have hlist := congrArg String.toList h
    rwa [String.toList_ofList] at hlist
  · intro h
    rw [h, String.ofList_toList]

/-- What is trimmed away can be told from the bytes. -/
theorem utf8_conversionInput_iff {text : String} :
    utf8 text = utf8 (conversionInput text) ↔ NoSpaceAtEnds text := by
  rw [← conversionInput_eq_self_iff]
  constructor
  · intro h
    obtain ⟨before, after, -, -, htext⟩ :=
      Trimming.exists_pads (fun c : Char => c = ' ') text.toList
    have hlength : ∀ cs : List Char, (cs.flatMap String.utf8EncodeChar).length = 0 → cs = [] := by
      intro cs hcs
      cases cs with
      | nil => rfl
      | cons c cs =>
        have hpos := c.utf8Size_pos
        rw [List.flatMap_cons, List.length_append, String.length_utf8EncodeChar] at hcs
        omega
    have hbytes := congrArg List.length h
    rw [utf8, utf8, conversionInput, String.toList_ofList] at hbytes
    rw [conversionInput]
    generalize trim (fun c => c = ' ') text.toList = trimmed at htext hbytes ⊢
    rw [htext, List.flatMap_append, List.flatMap_append, List.length_append,
      List.length_append] at hbytes
    rw [← String.ofList_toList (s := text), htext, hlength before (by omega),
      hlength after (by omega), List.nil_append, List.append_nil]
  · intro h
    rw [h]

end UserHandler

/-! ### One password -/

/-- The body of a request is an object in which these fields are strings. -/
def HoldsTexts (parser : JsonParser) (requestBody : Bytes) (fields : List (String × String)) : Prop :=
  requestBody ≠ [] ∧ ∃ body, parser.parse requestBody = some body ∧
    ∀ field ∈ fields, body.find field.1 = some (.string field.2)

open UserHandler

/-- **One password**: whatever happens after the state, while the account is active, a login with the
password gets a ticket however the email is spelt, and the revocation of any device does not fail for
the password. -/
structure OnePassword (P : Platform) (hashing : PasswordHashing) (s : AuthStore) (user : Uuid)
    (email password : String) : Prop where
  login : ∀ later, s.Later later → later.accounts.isActive user = true →
    ∀ parser requestBody email', SameEmail email email' →
      HoldsTexts parser requestBody [("email", email'), ("password", password)] →
      ∀ ticket, NewTicket P later.db ticket →
        (loginByEmail P hashing parser ticket later requestBody).1 = loginSuccess ticket
  revoke : ∀ later, s.Later later → later.accounts.isActive user = true →
    ∀ parser requestBody deviceText,
      HoldsTexts parser requestBody [("password", password), ("deviceID", deviceText)] →
      ∀ deviceId : Uuid, hasDashes deviceText = true → Uuid.ofString deviceText = some deviceId →
      deviceId.isNil = false → ∀ websocketClosed,
        (revokeDevice P hashing parser user websocketClosed later requestBody).1 ≠ userNotFound ∧
          (revokeDevice P hashing parser user websocketClosed later requestBody).1 ≠ invalidPassword

variable {P : Platform} {hashing : PasswordHashing} {parser : JsonParser} {salt : ℕ} {id : Uuid}
  {s s' : AuthStore} {requestBody : Bytes} {response : HttpResponse} {email password : String}

/-- **What a registration leaves.** -/
theorem register_created
    (hcarries : HoldsTexts parser requestBody [("email", email), ("password", password)])
    (hregister : register hashing parser salt id s requestBody = .ok (response, s'))
    (hcreated : response.status = .created) :
    email ≠ "" ∧ password ≠ "" ∧ s'.accounts.isActive id = true ∧
      ∃ hash, hashing.str salt (utf8 (conversionInput password)) = some hash ∧
        (⟨id, cString (toLower (conversionInput email)), cString hash⟩ : CredentialRow) ∈
          s'.accounts.credentials := by
  unfold register at hregister
  split at hregister
  · next refused hrefused =>
    cases hregister
    obtain ⟨code, message, rfl⟩ := readRegistration_eq_error hrefused
    cases hcreated
  · next fields hfields =>
    split at hregister
    · cases hregister
    · next reason hreason =>
      cases hregister
      cases reason <;> cases hcreated
    · next user accounts hok =>
      cases hregister
      obtain ⟨body, hbody, ⟨hemail, hemailne⟩, hpassword, hpasswordne⟩ :=
        readRegistration_eq_ok hfields
      obtain ⟨-, body', hparse, hfind⟩ := hcarries
      obtain rfl : body' = body := by
        have := (readObject_eq_ok.1 hbody).2.1
        rwa [hparse, Option.some.injEq] at this
      have hfind_email := hfind ("email", email) (by simp)
      have hfind_password := hfind ("password", password) (by simp)
      rw [hemail, Option.some.injEq, Json.string.injEq] at hfind_email
      rw [hpassword, Option.some.injEq, Json.string.injEq] at hfind_password
      rw [hfind_email] at hok hemailne
      rw [hfind_password] at hok hpasswordne
      obtain ⟨-, hash, hhash, hcreate, hrow⟩ := RegisterService.registerUserByEmail_eq_ok hok
      exact ⟨hemailne, hpasswordne, Accounts.isActive_of_createNewUserByEmail hcreate, hash, hhash,
        hrow⟩

/-- **The responses to a revocation**: only two results are about the password. -/
theorem revocationResponse_ne {deviceId : Uuid} {websocketClosed : Bool}
    {result : Except Error (Except UserServiceErrorCode Bool)}
    (huser : result ≠ .ok (.error .userNotFound))
    (hpassword : result ≠ .ok (.error .invalidPassword)) :
    revocationResponse deviceId websocketClosed result ≠ userNotFound ∧
      revocationResponse deviceId websocketClosed result ≠ invalidPassword := by
  have hother : ∀ status code message, status ∉ [HttpStatus.notFound, HttpStatus.forbidden] →
      errorResponseMaker status code message ≠ userNotFound ∧
        errorResponseMaker status code message ≠ invalidPassword := by
    intro status code message hstatus
    constructor
    · intro h
      exact hstatus (by rw [show status = .notFound from congrArg HttpResponse.status h]; simp)
    · intro h
      exact hstatus (by rw [show status = .forbidden from congrArg HttpResponse.status h]; simp)
  have hrevoked : ∀ already, revokedResponse deviceId websocketClosed already ≠ userNotFound ∧
      revokedResponse deviceId websocketClosed already ≠ invalidPassword := by
    intro already
    constructor
    · intro h
      have hstatus := congrArg HttpResponse.status h
      cases websocketClosed <;> cases hstatus
    · intro h
      have hstatus := congrArg HttpResponse.status h
      cases websocketClosed <;> cases hstatus
  unfold revocationResponse
  split
  · exact hrevoked false
  · exact hrevoked true
  · exact absurd rfl huser
  · exact absurd rfl hpassword
  · exact ⟨by decide +kernel, by decide +kernel⟩
  · exact ⟨by decide +kernel, by decide +kernel⟩
  · exact hother _ _ _ (by decide)
  · split_ifs
    · exact hother _ _ _ (by decide)
    · exact hother _ _ _ (by decide)
    · exact hother _ _ _ (by decide)
  · exact hother _ _ _ (by decide)
  · exact hother _ _ _ (by decide)

variable {row : CredentialRow}

/-- **A login with the password of a row** gets a ticket. -/
theorem loginByEmail_of_mem (hrow : row ∈ s.accounts.credentials)
    (hactive : s.accounts.isActive row.userId = true)
    (hcarries : HoldsTexts parser requestBody [("email", email), ("password", password)])
    (hemail : email ≠ "") (hpassword : password ≠ "")
    (hlogin : row.loginEmail = cString (toLower (conversionInput email)))
    (hverify : hashing.strVerify row.passwordHash (utf8 (conversionInput password)) = true)
    {ticket : String} (hnew : NewTicket P s.db ticket) :
    (loginByEmail P hashing parser ticket s requestBody).1 = loginSuccess ticket := by
  obtain ⟨hnonempty, body, hparse, hfind⟩ := hcarries
  have hread : readLogin parser requestBody = .ok (email, password) :=
    readLogin_eq_ok hnonempty hparse ⟨hfind ("email", email) (by simp), hemail⟩
      ⟨hfind ("password", password) (by simp), hpassword⟩
  obtain ⟨writes, hservice⟩ :=
    LoginService.loginByEmail_of_mem hrow (congrArg lower hlogin.symm) hverify hactive hnew
  rw [loginByEmail, hread]
  simp only
  rw [hservice]
  rfl

/-- **A revocation does not fail for the password** if it is the password of the row, with all of its
spaces. -/
theorem revokeDevice_of_mem (hrow : row ∈ s.accounts.credentials) {deviceText : String}
    (hcarries : HoldsTexts parser requestBody [("password", password), ("deviceID", deviceText)])
    (hpassword : password ≠ "") {deviceId : Uuid} (hdashes : hasDashes deviceText = true)
    (hid : Uuid.ofString deviceText = some deviceId) (hnil : deviceId.isNil = false)
    (websocketClosed : Bool) :
    (revokeDevice P hashing parser row.userId websocketClosed s requestBody).1 ≠ userNotFound ∧
      ((revokeDevice P hashing parser row.userId websocketClosed s requestBody).1 ≠
          invalidPassword ↔ hashing.strVerify row.passwordHash (utf8 password) = true) := by
  obtain ⟨hnonempty, body, hparse, hfind⟩ := hcarries
  have hread : readRevocation parser requestBody = .ok (password, deviceId) :=
    readRevocation_eq_ok hnonempty hparse ⟨hfind ("password", password) (by simp), hpassword⟩
      (hfind ("deviceID", deviceText) (by simp)) hdashes hid hnil
  obtain ⟨huser, hiff⟩ := @UserService.revokeUserDevice_of_mem P hashing s row hrow deviceId password
  rw [revokeDevice, hread, ← hiff]
  simp only
  generalize (UserService.revokeUserDevice P hashing s row.userId deviceId password).1 = result
    at huser
  by_cases hresult : result = .ok (.error .invalidPassword)
  · subst hresult
    exact ⟨(by decide +kernel : invalidPassword ≠ userNotFound), fun h => absurd rfl h,
      fun h => absurd rfl h⟩
  · obtain ⟨hne, hne'⟩ := @revocationResponse_ne deviceId websocketClosed result huser
      hresult
    exact ⟨hne, fun _ => hresult, fun _ => hne'⟩

/-- **One password works everywhere exactly if it neither begins nor ends with a space.** -/
theorem one_password_iff (hlaw : hashing.Lawful)
    (hcarries : HoldsTexts parser requestBody [("email", email), ("password", password)])
    (hregister : register hashing parser salt id s requestBody = .ok (response, s'))
    (hcreated : response.status = .created) :
    OnePassword P hashing s' id email password ↔ NoSpaceAtEnds password := by
  obtain ⟨hemail, hpassword, hactive, hash, hhash, hrow⟩ :=
    register_created hcarries hregister hcreated
  obtain ⟨hnul, hverify⟩ := hlaw salt _ hash hhash
  rw [cString_eq_self hnul] at hrow
  constructor
  · intro h
    obtain ⟨d, hd⟩ : ∃ d : Uuid, d.isNil = false := ⟨1, by decide⟩
    have hcarries' : HoldsTexts ⟨fun _ => some (.object [("password", .string password),
        ("deviceID", .string d.toString)])⟩ [0] [("password", password), ("deviceID", d.toString)] := by
      refine ⟨List.cons_ne_nil _ _, _, rfl, ?_⟩
      intro field hfield
      rcases List.mem_pair.1 hfield with rfl | rfl
      · rfl
      · rfl
    have hrevoke := (h.revoke s' .refl hactive _ _ _ hcarries' d (hasDashes_toString d)
      (Uuid.ofString_toString d) hd false).2
    rw [← utf8_conversionInput_iff, ← hverify]
    exact (revokeDevice_of_mem hrow hcarries' hpassword (hasDashes_toString d)
      (Uuid.ofString_toString d) hd false).2.1 hrevoke
  · intro hends
    refine ⟨?_, ?_⟩
    · intro later hlater hactive' parser' requestBody' email' hsame hcarries' ticket hnew
      refine loginByEmail_of_mem (hlater.keeps hrow) hactive' hcarries'
        (ne_empty_of_sameEmail hsame hemail) hpassword ?_ ((hverify _).2 rfl) hnew
      rw [conversion_of_sameEmail hsame]
    · intro later hlater hactive' parser' requestBody' deviceText hcarries' deviceId hdashes hid hnil
        websocketClosed
      obtain ⟨huser, hiff⟩ := @revokeDevice_of_mem P hashing parser' later requestBody' password _
        (hlater.keeps hrow) _ hcarries' hpassword _ hdashes hid hnil websocketClosed
      exact ⟨huser, hiff.2 ((hverify _).2 (utf8_conversionInput_iff.2 hends))⟩

/-! ### A password with a space before it -/

namespace Sample

/-- Hashes that are the password in hexadecimal. -/
def hexHashing : PasswordHashing where
  str _ password := some (encodeHex password)
  strVerify hash password := hash = encodeHex password

theorem hexHashing_lawful : hexHashing.Lawful := by
  rintro _ password _ ⟨⟩
  constructor
  · rw [encodeHex, String.toList_ofList]
    intro hmem
    obtain ⟨byte, -, hbyte⟩ := List.mem_flatMap.1 hmem
    have hnone : ∀ n < 256, '\x00' ∉ [hexDigit (n / 16), hexDigit (n % 16)] := by decide +kernel
    exact hnone byte.toNat byte.toNat_lt hbyte
  · intro password'
    rw [hexHashing, decide_eq_true_iff, encodeHex_injective.eq_iff, eq_comm]

/-- A body with these fields. -/
def bodyParser (fields : List (String × String)) : JsonParser :=
  ⟨fun _ => some (.object (fields.map fun field => (field.1, .string field.2)))⟩

/-- A registration with this password. -/
def accountParser (password : String) : JsonParser :=
  bodyParser [("email", "a@b.cc"), ("password", password), ("display_name", "abc"),
    ("username", "abc")]

/-- What comes of it, in an empty store. -/
def registerResult (password : String) : Except Error (HttpResponse × AuthStore) :=
  register hexHashing (accountParser password) 0 alice ⟨.empty, start⟩ [0]

/-- The state that it leaves. -/
def registeredStore (password : String) : AuthStore :=
  (registerResult password).toOption.elim ⟨.empty, start⟩ Prod.snd

theorem holdsTexts_accountParser (password : String) :
    HoldsTexts (accountParser password) [0] [("email", "a@b.cc"), ("password", password)] := by
  refine ⟨List.cons_ne_nil _ _, _, rfl, ?_⟩
  intro field hfield
  rcases List.mem_pair.1 hfield with rfl | rfl
  · rfl
  · rfl

/-- A registration that is accepted. -/
theorem registerResult_eq_ok {password : String}
    (h : (registerResult password).toOption.map (fun result => result.1.status) = some .created) :
    ∃ response, registerResult password = .ok (response, registeredStore password) ∧
      response.status = .created := by
  unfold registeredStore
  cases hresult : registerResult password with
  | error error =>
    rw [hresult] at h
    cases h
  | ok result =>
    rw [hresult] at h
    exact ⟨result.1, rfl, Option.some.inj h⟩

end Sample

/-- A password without spaces. -/
theorem one_password_iff_plain :
    OnePassword Sample.platform Sample.hexHashing (Sample.registeredStore "Aa1!aa") Sample.alice
      "a@b.cc" "Aa1!aa" := by
  obtain ⟨response, hregister, hcreated⟩ := @Sample.registerResult_eq_ok "Aa1!aa" (by decide +kernel)
  have hends : NoSpaceAtEnds "Aa1!aa" := by
    constructor
    · decide
    · decide
  exact (one_password_iff Sample.hexHashing_lawful (Sample.holdsTexts_accountParser _) hregister
    hcreated).2 hends

/-- **The password is kept without the space, and a revocation does not take the space away.** -/
theorem one_password_fails :
    Sample.hexHashing.Lawful ∧
      HoldsTexts (Sample.accountParser " Aa1!aa") [0]
        [("email", "a@b.cc"), ("password", " Aa1!aa")] ∧
      (∃ response, Sample.registerResult " Aa1!aa" =
          .ok (response, Sample.registeredStore " Aa1!aa") ∧ response.status = .created) ∧
      ¬ OnePassword Sample.platform Sample.hexHashing (Sample.registeredStore " Aa1!aa") Sample.alice
        "a@b.cc" " Aa1!aa" := by
  refine ⟨Sample.hexHashing_lawful, Sample.holdsTexts_accountParser _,
    Sample.registerResult_eq_ok (by decide +kernel), ?_⟩
  intro h
  have hcarries : HoldsTexts (Sample.bodyParser [("password", " Aa1!aa"),
      ("deviceID", Sample.phone.toString)]) [0]
      [("password", " Aa1!aa"), ("deviceID", Sample.phone.toString)] := by
    refine ⟨List.cons_ne_nil _ _, _, rfl, ?_⟩
    intro field hfield
    rcases List.mem_pair.1 hfield with rfl | rfl
    · rfl
    · rfl
  refine (h.revoke _ .refl (by decide +kernel) _ _ _ hcarries Sample.phone (hasDashes_toString _)
    (Uuid.ofString_toString _) (by decide) false).2 ?_
  decide +kernel

end ChatBackend
