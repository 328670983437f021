import ChatBackend.Http.HttpResponse
import ChatBackend.Websocket.Application
import ChatBackend.Websocket.Requests

/-!
# ChatHandler

`src/handler/ChatHandler.cpp`, what `registerNewDevice` checks of the body of a request before it
passes the login ticket and the device's fields to the login ticket service.

## Main definitions

* `fromCharsSigned` — `std::from_chars` of a signed integer
* `ChatHandler.registerNewDevice`
* `DeviceRegistrationInput.Valid` — what the accepted fields satisfy

## Main results

* `fromCharsSigned_digits` — decimal digits are read if the number fits
* `ChatHandler.valid_of_registerNewDevice`
-/

namespace ChatBackend

/-! ### Decimal numbers -/

/-- `std::from_chars` of a signed integer of so many bits, in decimal: the number and the characters
after it, or `none` for `invalid_argument` and `result_out_of_range`. A leading plus is not
accepted. -/
def fromCharsSigned (bits : ℕ) (text : List Char) : Option (ℤ × List Char) :=
  let negative := text.head? = some '-'
  let rest := if negative then text.tail else text
  let digits := rest.takeWhile Char.isDigit
  let magnitude : ℤ := Nat.ofDigitChars 10 digits 0
  let value := if negative then -magnitude else magnitude
  if digits = [] ∨ value < -2 ^ (bits - 1) ∨ 2 ^ (bits - 1) ≤ value then none
  else some (value, rest.dropWhile Char.isDigit)

/-- The number that decimal digits stand for. -/
def decimalValue (text : String) : ℕ := Nat.ofDigitChars 10 text.toList 0

/-- **Digits are read if their number fits.** -/
theorem fromCharsSigned_digits {bits : ℕ} {digits : List Char} (hne : digits ≠ [])
    (hdigits : ∀ c ∈ digits, c.isDigit) :
    fromCharsSigned bits digits = if Nat.ofDigitChars 10 digits 0 < 2 ^ (bits - 1) then
      some ((Nat.ofDigitChars 10 digits 0 : ℤ), []) else none := by
  have hhead : digits.head? ≠ some '-' := by
    intro h
    have hmem := List.mem_of_mem_head? (Option.mem_def.mpr h)
    exact absurd (hdigits _ hmem) (by decide)
  have htake : digits.takeWhile Char.isDigit = digits := List.takeWhile_eq_self_iff.mpr hdigits
  have hdrop : digits.dropWhile Char.isDigit = [] := List.dropWhile_eq_nil_iff.mpr hdigits
  have hpos : -(2 : ℤ) ^ (bits - 1) ≤ 0 := by
    have : (0 : ℤ) < 2 ^ (bits - 1) := by positivity
    omega
  have hcast : ((2 : ℕ) ^ (bits - 1) : ℤ) = 2 ^ (bits - 1) := by norm_cast
  simp only [fromCharsSigned, if_neg hhead, htake, hdrop]
  by_cases hlt : Nat.ofDigitChars 10 digits 0 < 2 ^ (bits - 1)
  · rw [if_pos hlt, if_neg]
    rintro (h | h | h)
    · exact hne h
    · omega
    · have : (Nat.ofDigitChars 10 digits 0 : ℤ) < (2 : ℤ) ^ (bits - 1) := by exact_mod_cast hlt
      omega
  · rw [if_neg hlt, if_pos]
    refine Or.inr (Or.inr ?_)
    exact_mod_cast Nat.le_of_not_lt hlt

/-! ### The checks -/

/-- `isHexOfSize`. -/
def isHexOfSize (text : String) (byteCount : ℕ) : Bool :=
  (utf8 text).length = byteCount * 2 && text.toList.all fun c =>
    ('0' ≤ c && c ≤ '9') || ('a' ≤ c && c ≤ 'f') || ('A' ≤ c && c ≤ 'F')

namespace ChatHandler

/-- One of the required fields: a non-empty string. -/
def requiredField (body : Json) (field : String) : Except HttpResponse String :=
  let refusal := errorResponseMaker .badRequest ("invalid_" ++ field)
    (field ++ " must be a non-empty string")
  match body.find field with
  | some (.string value) => if value = "" then .error refusal else .ok value
  | _ => .error refusal

/-- The login ticket: a non-empty string. -/
def loginTicket (body : Json) : Except HttpResponse String :=
  let refusal := errorResponseMaker .unauthorized "invalid_login_ticket" "Login ticket is required"
  match body.find "login_ticket" with
  | some (.string ticket) => if ticket = "" then .error refusal else .ok ticket
  | _ => .error refusal

/-- Is the text the decimal digits of a non-negative `std::int64_t`? -/
def isPrekeyId (text : String) : Bool :=
  match fromCharsSigned 64 text.toList with
  | some (value, rest) => text.toList.all Char.isDigit && rest.isEmpty && 0 ≤ value
  | none => false

/-- The checks of the fields, in the source's order. -/
def checkRegistration (input : DeviceRegistrationInput) : Except HttpResponse Unit :=
  if isBlank input.deviceName then
    .error (errorResponseMaker .badRequest "invalid_device_name" "device_name must not be blank")
  else if isBlank input.protocolSuite then
    .error (errorResponseMaker .badRequest "invalid_protocol_suite"
      "protocol_suite must not be blank")
  else if isHexOfSize input.identityPublicKeyHex 32 = false then
    .error (errorResponseMaker .badRequest "invalid_identity_public_key_hex"
      "identity_public_key_hex must encode 32 bytes")
  else if isHexOfSize input.signedPrekeyPublicHex 32 = false then
    .error (errorResponseMaker .badRequest "invalid_signed_prekey_public_hex"
      "signed_prekey_public_hex must encode 32 bytes")
  else if isHexOfSize input.signedPrekeySignatureHex 64 = false then
    .error (errorResponseMaker .badRequest "invalid_signed_prekey_signature_hex"
      "signed_prekey_signature_hex must encode 64 bytes")
  else if isPrekeyId input.signedPrekeyId = false then
    .error (errorResponseMaker .badRequest "invalid_signed_prekey_id"
      "signed_prekey_id must be a non-negative BIGINT decimal string")
  else .ok ()

/-- The login ticket and the fields of a parsed body, checked. -/
def readRegistration (body : Json) : Except HttpResponse (String × DeviceRegistrationInput) := do
  let ticket ← loginTicket body
  let identityKey ← requiredField body "identity_public_key_hex"
  let deviceName ← requiredField body "device_name"
  let protocolSuite ← requiredField body "protocol_suite"
  let prekeyId ← requiredField body "signed_prekey_id"
  let prekeyPublic ← requiredField body "signed_prekey_public_hex"
  let prekeySignature ← requiredField body "signed_prekey_signature_hex"
  let input : DeviceRegistrationInput :=
    ⟨identityKey, deviceName, protocolSuite, prekeyId, prekeyPublic, prekeySignature⟩
  let _ ← checkRegistration input
  return (ticket, input)

/-- `ChatHandler::registerNewDevice` up to its call of the login ticket service: the ticket and the
registration that it passes on, or the response with which it refuses the request. -/
def registerNewDevice (parser : JsonParser) (requestBody : Bytes) :
    Except HttpResponse (String × DeviceRegistrationInput) :=
  if requestBody = [] then
    .error (errorResponseMaker .badRequest "missing_request_body" "Request body is required")
  else match parser.parse requestBody with
  | none =>
    .error (errorResponseMaker .badRequest "invalid_json" "Request body must be a valid JSON object")
  | some body =>
    if body.isObject = false then
      .error (errorResponseMaker .badRequest "invalid_json"
        "Request body must be a valid JSON object")
    else readRegistration body

theorem registerNewDevice_of_parse {parser : JsonParser} {requestBody : Bytes} {body : Json}
    (hne : requestBody ≠ []) (hparse : parser.parse requestBody = some body)
    (hobject : body.isObject) : registerNewDevice parser requestBody = readRegistration body := by
  unfold registerNewDevice
  rw [if_neg hne, hparse]
  exact if_neg (by rw [hobject]; decide)

end ChatHandler

/-! ### What is accepted -/

/-- What the fields of an accepted registration satisfy. -/
structure DeviceRegistrationInput.Valid (input : DeviceRegistrationInput) : Prop where
  prekeyNonempty : input.signedPrekeyId.toList ≠ []
  prekeyDigits : ∀ c ∈ input.signedPrekeyId.toList, c.isDigit
  prekeyFits : decimalValue input.signedPrekeyId < 2 ^ 63
  identity : isHexOfSize input.identityPublicKeyHex 32
  prekeyPublic : isHexOfSize input.signedPrekeyPublicHex 32
  prekeySignature : isHexOfSize input.signedPrekeySignatureHex 64

namespace ChatHandler

/-- **The identifiers that are accepted**: decimal digits of a number below `2 ^ 63`, with any number
of leading zeros. -/
theorem isPrekeyId_iff {text : String} : isPrekeyId text ↔
    text.toList ≠ [] ∧ (∀ c ∈ text.toList, c.isDigit) ∧ decimalValue text < 2 ^ 63 := by
  by_cases hdigits : text.toList ≠ [] ∧ ∀ c ∈ text.toList, c.isDigit
  · obtain ⟨hne, hall⟩ := hdigits
    rw [isPrekeyId, fromCharsSigned_digits hne hall, decimalValue]
    by_cases hlt : Nat.ofDigitChars 10 text.toList 0 < 2 ^ 63
    · rw [if_pos hlt]
      have hbool : text.toList.all Char.isDigit := List.all_eq_true.mpr hall
      have hnonneg : (0 : ℤ) ≤ Nat.ofDigitChars 10 text.toList 0 := Int.natCast_nonneg _
      refine ⟨fun _ => ⟨hne, hall, hlt⟩, fun _ => ?_⟩
      simp only [hbool, hnonneg, List.isEmpty_nil, decide_true, Bool.and_self]
    · rw [if_neg hlt]
      exact ⟨fun h => absurd h Bool.false_ne_true, fun h => absurd h.2.2 hlt⟩
  · constructor
    · intro h
      unfold isPrekeyId at h
      split at h
      · next value rest hvalue =>
        simp only [Bool.and_eq_true, List.all_eq_true] at h
        refine absurd ⟨fun hnil => ?_, h.1.1⟩ hdigits
        rw [hnil] at hvalue
        cases hvalue
      · cases h
    · rintro ⟨hne, hall, -⟩
      exact absurd ⟨hne, hall⟩ hdigits

theorem checkRegistration_eq_ok {input : DeviceRegistrationInput}
    (h : checkRegistration input = .ok ()) : input.Valid := by
  unfold checkRegistration at h
  split_ifs at h with _ _ hidentity hpublic hsignature hid
  obtain ⟨hne, hall, hlt⟩ := isPrekeyId_iff.mp (Bool.not_eq_false _ ▸ hid)
  exact ⟨hne, hall, hlt, Bool.not_eq_false _ ▸ hidentity, Bool.not_eq_false _ ▸ hpublic,
    Bool.not_eq_false _ ▸ hsignature⟩

/-- **What the handler accepts is valid.** -/
theorem valid_of_registerNewDevice {parser : JsonParser} {requestBody : Bytes} {ticket : String}
    {input : DeviceRegistrationInput}
    (h : registerNewDevice parser requestBody = .ok (ticket, input)) : input.Valid := by
  unfold registerNewDevice at h
  split_ifs at h
  split at h
  · cases h
  · split_ifs at h
    rw [readRegistration] at h
    simp only [bind_eq_ok] at h
    obtain ⟨_, -, identity, -, name, -, suite, -, id, -, public', -, signature, -, _,
      hcheck, heq⟩ := h
    obtain rfl := (Prod.ext_iff.mp (Except.ok.inj heq)).2
    exact checkRegistration_eq_ok hcheck

end ChatHandler

end ChatBackend
