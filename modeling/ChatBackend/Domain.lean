import Mathlib.Algebra.Group.Int.Defs
import Mathlib.Algebra.Group.Nat.Defs
import Mathlib.Data.Fin.Basic
import Mathlib.Data.Int.Order.Basic
import Mathlib.Data.List.GetD
import Mathlib.Data.List.TakeWhile

/-!
# Domain types

The value types of `include/domain`, the errors of `include/databases/DatabaseError.h` and the text
encodings that values pass through on their way to and from PostgreSQL.

A `boost::uuids::uuid` is its 128 bits read as a big-endian number: that is the order in which
PostgreSQL compares uuids, and the nil uuid is `0`. Text is a `String`, because everything that
reaches the store has been validated as UTF-8; a byte vector is a list of bytes.

## Main definitions

* `Uuid`, `Bytes`, `Time`
* `encodeHex`, `decodeHex`, `decodePacketHex` — the `bytea` encodings
* `cString` — what is left of a parameter once `DatabaseConnection::execute` has passed it on
* `Envelope`, `NewTextMessageRequest`, … — `include/domain`
* `Error` — what the repositories throw

## Main results

* `decodeHex_encodeHex`, `decodePacketHex_encodeHex` — packets survive the encoding
-/

namespace ChatBackend

/-- `boost::uuids::uuid` and PostgreSQL's `uuid`. -/
abbrev Uuid := Fin (2 ^ 128)

instance neZero_uuids : @NeZero ℕ Zero.ofOfNat0 (2 ^ 128) := ⟨by decide⟩

instance lawfulBEq_uuids : LawfulBEq Uuid := instLawfulBEq

/-- `uuid::is_nil`. -/
def Uuid.isNil (u : Uuid) : Bool := u = 0

/-- `std::vector<std::uint8_t>` and `bytea`. -/
abbrev Bytes := List UInt8

/-- `timestamptz`: microseconds. -/
abbrev Time := ℤ

/-- A `bigint` is at most this. -/
def maxBigint : ℤ := 2 ^ 63 - 1

/-- What holds of the members of a list can be checked one by one. -/
theorem forall_mem_of_all {α : Type} {p : α → Prop} [DecidablePred p] {l : List α}
    (h : (l.all fun a => decide (p a)) = true) : ∀ a ∈ l, p a :=
  fun a ha => of_decide_eq_true (List.all_eq_true.mp h a ha)

/-! ### Hexadecimal text -/

/-- One lower-case hexadecimal digit. -/
def hexDigit (n : ℕ) : Char := "0123456789abcdef".toList.getD n '0'

/-- The value of a hexadecimal digit, in either case. -/
def hexValue (c : Char) : Option ℕ :=
  if '0' ≤ c ∧ c ≤ '9' then some (c.toNat - '0'.toNat)
  else if 'a' ≤ c ∧ c ≤ 'f' then some (c.toNat - 'a'.toNat + 10)
  else if 'A' ≤ c ∧ c ≤ 'F' then some (c.toNat - 'A'.toNat + 10)
  else none

/-- The byte two hexadecimal digits stand for. -/
def byteOfHex (high low : Char) : Option UInt8 := do
  let h ← hexValue high
  let l ← hexValue low
  return UInt8.ofNat (16 * h + l)

/-- The two digits of one byte. -/
def hexOfByte (byte : UInt8) : List Char := [hexDigit (byte.toNat / 16), hexDigit (byte.toNat % 16)]

/-- `encodeHex` of the repositories, which is also what PostgreSQL's `encode(…, 'hex')` gives. -/
def encodeHex (bytes : Bytes) : String := String.ofList (bytes.flatMap hexOfByte)

/-- PostgreSQL's `decode(…, 'hex')`: white space is allowed between bytes, and an odd digit is an
error. -/
def decodeHexChars : List Char → Option Bytes
  | [] => some []
  | [c] => if c ∈ [' ', '\n', '\t', '\r'] then some [] else none
  | c :: d :: rest =>
    if c ∈ [' ', '\n', '\t', '\r'] then decodeHexChars (d :: rest)
    else do return (← byteOfHex c d) :: (← decodeHexChars rest)

/-- PostgreSQL's `decode(…, 'hex')`. -/
def decodeHex (text : String) : Option Bytes := decodeHexChars text.toList

/-- The bytes of an even number of digits, without white space. -/
def bytesOfHex : List Char → Option Bytes
  | [] => some []
  | [_] => none
  | c :: d :: rest => do return (← byteOfHex c d) :: (← bytesOfHex rest)

theorem byteOfHex_hexDigit (byte : UInt8) :
    byteOfHex (hexDigit (byte.toNat / 16)) (hexDigit (byte.toNat % 16)) = some byte := by
  have all : ∀ n < 256, byteOfHex (hexDigit (n / 16)) (hexDigit (n % 16)) = some (UInt8.ofNat n) := by
    decide +kernel
  simpa using all byte.toNat byte.toNat_lt

theorem hexDigit_not_space (n : ℕ) : hexDigit n ∉ [' ', '\n', '\t', '\r'] := by
  by_cases h : n < 16
  · have all : ∀ n < 16, hexDigit n ∉ [' ', '\n', '\t', '\r'] := by decide
    exact all n h
  · rw [hexDigit, List.getD_eq_default _ _ (by simpa using h)]
    decide

theorem decodeHexChars_flatMap (bytes : Bytes) :
    decodeHexChars (bytes.flatMap hexOfByte) = some bytes := by
  induction bytes with
  | nil => rfl
  | cons byte bytes ih =>
    simp only [List.flatMap_cons, hexOfByte, List.cons_append, List.nil_append, decodeHexChars]
    rw [if_neg (hexDigit_not_space _), byteOfHex_hexDigit, ih]
    rfl

theorem bytesOfHex_flatMap (bytes : Bytes) : bytesOfHex (bytes.flatMap hexOfByte) = some bytes := by
  induction bytes with
  | nil => rfl
  | cons byte bytes ih =>
    simp only [List.flatMap_cons, hexOfByte, List.cons_append, List.nil_append, bytesOfHex]
    rw [byteOfHex_hexDigit, ih]
    rfl

/-- **A packet survives its encoding as a parameter.** -/
@[simp] theorem decodeHex_encodeHex (bytes : Bytes) : decodeHex (encodeHex bytes) = some bytes := by
  simp [decodeHex, encodeHex, decodeHexChars_flatMap]

theorem encodeHex_injective : Function.Injective encodeHex := fun a b h => by
  simpa using congrArg decodeHex h

@[simp] theorem length_toList_encodeHex (bytes : Bytes) :
    (encodeHex bytes).toList.length = 2 * bytes.length := by
  induction bytes with
  | nil => rfl
  | cons byte bytes ih =>
    simp only [encodeHex, String.toList_ofList] at ih
    simp [encodeHex, hexOfByte, ih]
    omega

/-! ### Parameters -/

/-- `DatabaseConnection::execute` hands each parameter to libpq as `parameter.c_str()`, so the
server sees it up to its first NUL character. -/
def cString (parameter : String) : String :=
  String.ofList (parameter.toList.takeWhile fun c => c ≠ '\x00')

theorem cString_eq_self {s : String} (h : '\x00' ∉ s.toList) : cString s = s := by
  rw [cString, List.takeWhile_eq_self_iff.mpr, String.ofList_toList]
  intro c hc
  have hne : c ≠ '\x00' := fun he => h (he ▸ hc)
  exact decide_eq_true hne

theorem nul_not_mem_cString (s : String) : '\x00' ∉ (cString s).toList := by
  rw [cString, String.toList_ofList]
  intro h
  have hne := List.mem_takeWhile_imp h
  simp at hne

theorem cString_eq_self_iff {s : String} : cString s = s ↔ '\x00' ∉ s.toList :=
  ⟨fun h => h ▸ nul_not_mem_cString s, cString_eq_self⟩

-- Unfolding these on an unknown string would send every unifier into the UTF-8 decoder.
attribute [irreducible] cString decodeHex

/-! ### Envelopes -/

/-- `NewTextMessageRequest`. -/
structure NewTextMessageRequest where
  messageId : Uuid
  recipientDeviceId : Uuid
  protocolVersion : String
  packet : Bytes
  deriving DecidableEq

/-- `Envelope`. -/
structure Envelope where
  envelopeId : Uuid
  messageId : Uuid
  senderDeviceId : Uuid
  recipientDeviceId : Uuid
  protocolVersion : String
  packet : Bytes
  seq : ℤ
  deriving DecidableEq

/-- `EnvelopePage`. -/
structure EnvelopePage where
  envelopes : List Envelope
  hasMore : Bool
  deriving DecidableEq

/-- `EnvelopeSyncCursor`. -/
structure EnvelopeSyncCursor where
  peerDeviceId : Uuid
  afterSeq : ℤ
  deriving DecidableEq

/-- `SyncEnvelopeRequest`. -/
structure SyncEnvelopeRequest where
  deviceId : Uuid
  cursors : List EnvelopeSyncCursor
  deriving DecidableEq

/-- `AckEnvelopeRequest`. -/
structure AckEnvelopeRequest where
  deviceId : Uuid
  envelopeIds : List Uuid
  deriving DecidableEq

/-- `NewMessageStatus`. -/
inductive NewMessageStatus where
  | success
  | duplicateRequest
  | permissionDenied
  | conflict
  deriving DecidableEq

/-- `NewMessageResult`. -/
structure NewMessageResult where
  status : NewMessageStatus
  envelope : Option Envelope := none
  deriving DecidableEq

/-! ### Devices, keys and logins -/

/-- `DeviceStatus`. -/
inductive DeviceStatus where
  | active
  | revoked
  | pending
  deriving DecidableEq

/-- `Device`. -/
structure Device where
  deviceId : Uuid
  userId : Uuid
  deviceName : String
  status : DeviceStatus
  identityPublicKey : Bytes
  protocolSuite : String
  deriving DecidableEq

/-- `DeviceRegistrationInput`. -/
structure DeviceRegistrationInput where
  identityPublicKeyHex : String
  deviceName : String
  protocolSuite : String
  signedPrekeyId : String
  signedPrekeyPublicHex : String
  signedPrekeySignatureHex : String
  deriving DecidableEq

/-- `RevokeDeviceResult`. -/
inductive RevokeDeviceResult where
  | success
  | deviceNotFound
  | notYourDevice
  | alreadyRevoked
  | deviceNotActive
  deriving DecidableEq

/-- `OneTimePrekey`. -/
structure OneTimePrekey where
  deviceId : Uuid
  prekeyId : ℤ
  publicKeyHex : String
  deriving DecidableEq

/-- `PrekeyClaimStatus`. -/
inductive PrekeyClaimStatus where
  | success
  | notFriends
  | deviceUnavailable
  | noPrekey
  deriving DecidableEq

/-- `PrekeyClaimResult`. -/
structure PrekeyClaimResult where
  status : PrekeyClaimStatus
  prekey : Option OneTimePrekey := none
  deriving DecidableEq

/-- `LoginTicketStatus`. -/
inductive LoginTicketStatus where
  | success
  | invalidTicket
  | accountDisabled
  | deviceNotFound
  | deviceNotOwned
  | deviceNotActive
  deriving DecidableEq

/-- `LoginTicketIdentity`. -/
structure LoginTicketIdentity where
  userId : Uuid
  deviceId : Uuid
  deriving DecidableEq

/-- `LoginTicketResult`. -/
structure LoginTicketResult where
  status : LoginTicketStatus
  identity : Option LoginTicketIdentity := none
  deriving DecidableEq

/-! ### Friend requests -/

/-- `FriendRequestAction`. An `enum class` also holds the values that are none of its enumerators. -/
inductive FriendRequestAction where
  | accept
  | reject
  | cancel
  | other (value : ℤ)
  deriving DecidableEq

/-- `FriendRequestProcessResult`. -/
inductive FriendRequestProcessResult where
  | success
  | alreadyProcessed
  | notFound
  | forbidden
  | conflict
  | invalidAction
  deriving DecidableEq

/-- `FriendshipRequestRecord`. -/
structure FriendshipRequestRecord where
  requestId : Uuid
  id : Uuid
  username : String
  displayName : String
  message : String
  requestTime : Time
  deriving DecidableEq

/-! ### Errors -/

/-- `DatabaseErrorKind`. -/
inductive DatabaseErrorKind where
  | connection
  | query
  | constraint
  | dataConversion
  deriving DecidableEq

/-- `DatabaseError`. The server's own message text, which is appended to `message`, is left out. -/
structure DatabaseError where
  kind : DatabaseErrorKind
  code : String
  message : String
  constraint : Option String := none
  deriving DecidableEq

/-- What a repository call throws. -/
inductive Error where
  | database (error : DatabaseError)
  | invalidArgument (message : String)
  | runtimeError (message : String)
  | logicError (message : String)
  deriving DecidableEq

/-- The error `DatabaseConnection::execute` throws for a statement the server refuses. -/
def queryError (sqlState : String) (constraint : String := "") : Error :=
  .database ⟨.query, sqlState, "PostgreSQL query failed: ", some constraint⟩

/-- A stored value that cannot be read back. -/
def dataConversion (message : String) : Error := .database ⟨.dataConversion, "", message, none⟩

/-! ### Reading stored values back -/

/-- `parseSeq`, on the value of a `bigint` column. -/
def parseSeq (seq : ℤ) : Except Error ℤ :=
  if seq ≤ 0 then .error (dataConversion "Invalid stored sequence") else .ok seq

/-- `decodePacketHex`. -/
def decodePacketHex (hex : String) : Except Error Bytes :=
  let chars := hex.toList
  if chars.isEmpty ∨ chars.length % 2 ≠ 0 ∨ chars.length > 2 * 65536 then
    .error (dataConversion "Invalid stored packet length")
  else match bytesOfHex chars with
    | some bytes => .ok bytes
    | none => .error (dataConversion "Invalid stored packet encoding")

/-- **A stored packet of an admissible size is read back unchanged.** -/
theorem decodePacketHex_encodeHex {bytes : Bytes} (h₁ : bytes ≠ []) (h₂ : bytes.length ≤ 65536) :
    decodePacketHex (encodeHex bytes) = .ok bytes := by
  have hlen := length_toList_encodeHex bytes
  have hpos : 0 < bytes.length := List.length_pos_iff.mpr h₁
  have hne : ¬ ((encodeHex bytes).toList.isEmpty = true ∨ (encodeHex bytes).toList.length % 2 ≠ 0 ∨
      (encodeHex bytes).toList.length > 2 * 65536) := by
    rw [List.isEmpty_iff_length_eq_zero, hlen]
    omega
  rw [decodePacketHex, if_neg hne, encodeHex, String.toList_ofList, bytesOfHex_flatMap]

/-- A packet that is read back is the stored one. -/
theorem eq_of_decodePacketHex {bytes read : Bytes}
    (h : decodePacketHex (encodeHex bytes) = .ok read) : read = bytes := by
  unfold decodePacketHex at h
  dsimp only at h
  split_ifs at h
  rw [encodeHex, String.toList_ofList, bytesOfHex_flatMap] at h
  simpa using h.symm

theorem parseSeq_of_pos {seq : ℤ} (h : 0 < seq) : parseSeq seq = .ok seq := by
  simp [parseSeq, h]

theorem eq_of_parseSeq {seq read : ℤ} (h : parseSeq seq = .ok read) : read = seq ∧ 0 < seq := by
  unfold parseSeq at h
  split_ifs at h with hneg
  exact ⟨by simpa using h.symm, by omega⟩

end ChatBackend
