import ChatBackend.Handler.ChatHandler
import ChatBackend.ReadCommitted.Emits
import ChatBackend.Store.Logins

/-!
# Key bundles

`KeyRepository::getDeviceKeyBundle`, which reads a bundle back from the text format in which the
server sends its columns, and what a registration stores.

## Main definitions

* `parseInt`, `parseBytea` — reading a column
* `KeyRepository.getDeviceKeyBundle`
* `StoresInput`, `Stored` — the specification of a registration, with the contents of its bundle

## Main results

* `parseInt_toString` — an integer column is read back if it fits 32 bits
* `parseBytea_byteaOut` — a bytea column is read back
* `meets_stored` — the bundle that a registration commits has the registered contents
-/

namespace ChatBackend

open ReadCommitted

variable {P : Platform} {allows : List StoreEvent → Call → Prop} {db db' : Db}

/-! ### Columns as text -/

/-- The text of a `bytea`, in the server's default format. -/
def byteaOut (bytes : Bytes) : String := String.ofList ('\\' :: 'x' :: bytes.flatMap hexOfByte)

/-- `PQunescapeBytea`, of the hexadecimal format behind its `\x`. Bad digits are skipped. -/
def unescapeHex : List Char → Bytes
  | [] => []
  | [_] => []
  | c :: d :: rest =>
    match hexValue c with
    | none => unescapeHex (d :: rest)
    | some high =>
      match hexValue d with
      | none => unescapeHex rest
      | some low => UInt8.ofNat (16 * high + low) :: unescapeHex rest

/-- `PQunescapeBytea`, of the escape format: `\\` and `\ooo`, any other backslash is dropped. -/
def unescapeOctal : List Char → Bytes
  | [] => []
  | '\\' :: '\\' :: rest => 92 :: unescapeOctal rest
  | '\\' :: a :: b :: c :: rest =>
    if '0' ≤ a ∧ a ≤ '3' ∧ '0' ≤ b ∧ b ≤ '7' ∧ '0' ≤ c ∧ c ≤ '7' then
      UInt8.ofNat (64 * (a.toNat - 48) + 8 * (b.toNat - 48) + (c.toNat - 48)) :: unescapeOctal rest
    else unescapeOctal (a :: b :: c :: rest)
  | '\\' :: rest => unescapeOctal rest
  | c :: rest => c.toUInt8 :: unescapeOctal rest

/-- `parseBytea`. -/
def parseBytea (text : String) : Bytes :=
  match text.toList with
  | '\\' :: 'x' :: rest => unescapeHex rest
  | cs => unescapeOctal cs

/-- `parseInt`. -/
def parseInt (text : String) : Except Error ℤ :=
  match fromCharsSigned 32 text.toList with
  | some (value, []) => .ok value
  | _ => .error (.invalidArgument "Invalid integer or out of range")

/-- `parseId`. -/
def parseId (text : String) : Except Error Uuid :=
  match Uuid.ofString text with
  | some id => .ok id
  | none => .error (.runtimeError "invalid uuid string")

theorem unescapeHex_flatMap (bytes : Bytes) : unescapeHex (bytes.flatMap hexOfByte) = bytes := by
  induction bytes with
  | nil => rfl
  | cons byte bytes ih =>
    have hbyte := byteOfHex_hexDigit byte
    rw [byteOfHex] at hbyte
    obtain ⟨high, hhigh, hbyte⟩ := Option.bind_eq_some_iff.mp hbyte
    obtain ⟨low, hlow, hbyte⟩ := Option.bind_eq_some_iff.mp hbyte
    simp only [List.flatMap_cons, hexOfByte, List.cons_append, List.nil_append, unescapeHex, hhigh,
      hlow, ih]
    exact congrArg (· :: bytes) (Option.some.inj hbyte)

/-- **A bytea column is read back.** -/
@[simp] theorem parseBytea_byteaOut (bytes : Bytes) : parseBytea (byteaOut bytes) = bytes := by
  simp [parseBytea, byteaOut, unescapeHex_flatMap]

@[simp] theorem parseId_toString (id : Uuid) : parseId id.toString = .ok id := by
  rw [parseId, Uuid.ofString_toString]

/-- **An integer column is read back if it fits 32 bits**, and refused if it does not. -/
theorem parseInt_toString (n : ℕ) : parseInt (toString (n : ℤ)) =
    if n < 2 ^ 31 then .ok (n : ℤ) else .error (.invalidArgument "Invalid integer or out of range") := by
  have htext : (toString (n : ℤ)).toList = Nat.toDigits 10 n := by
    rw [show toString (n : ℤ) = toString n from rfl, Nat.toString_eq_ofList_toDigits,
      String.toList_ofList]
  have hdigits : ∀ c ∈ Nat.toDigits 10 n, c.isDigit :=
    fun c hc => Nat.isDigit_of_mem_toDigits (by decide) (by decide) hc
  rw [parseInt, htext, fromCharsSigned_digits Nat.toDigits_ne_nil hdigits,
    Nat.ofDigitChars_ten_toDigits]
  by_cases hlt : n < 2 ^ 31
  · rw [if_pos hlt, if_pos hlt]
  · rw [if_neg hlt, if_neg hlt]

/-! ### Fetching a bundle -/

/-- `DeviceKeyBundle`. -/
structure DeviceKeyBundle where
  deviceId : Uuid
  signedPreKeyId : ℤ
  preKeyPublic : Bytes
  preKeySignature : Bytes
  isCurrent : Bool
  deriving DecidableEq

/-- The joins and conditions of `getDeviceKeyBundle`, in a statement begun at `now`. -/
def Db.showsBundle (db : Db) (now : Time) (friendId myId deviceId : Uuid) (kb : BundleRow) : Bool :=
  (db.userDevices kb.deviceId).any fun ud =>
    ud.userId = friendId ∧ kb.deviceId = deviceId ∧ ud.status = .active ∧ db.isActive ud.userId ∧
      db.isActive myId ∧ kb.isCurrent ∧ (∀ at' ∈ kb.expiresAt, now < at') ∧
      (myId = friendId ∨ db.friendRelation myId friendId)

/-- The rows that the statement finds. -/
def Db.keyBundles (db : Db) (now : Time) (friendId myId deviceId : Uuid) : List BundleRow :=
  db.deviceKeyBundles.filter (db.showsBundle now friendId myId deviceId)

theorem showsBundle_iff {now : Time} {friendId myId deviceId : Uuid} {kb : BundleRow} :
    db.showsBundle now friendId myId deviceId kb ↔ ∃ ud, db.userDevices kb.deviceId = some ud ∧
      ud.userId = friendId ∧ kb.deviceId = deviceId ∧ ud.status = .active ∧ db.isActive ud.userId ∧
      db.isActive myId ∧ kb.isCurrent ∧ (∀ at' ∈ kb.expiresAt, now < at') ∧
      (myId = friendId ∨ db.friendRelation myId friendId) := by
  simp only [Db.showsBundle, Option.any_eq_true, decide_eq_true_eq]

namespace KeyRepository

/-- `KeyRepository::getDeviceKeyBundle`: one statement, which reads the committed state `db`. -/
def getDeviceKeyBundle (db : Db) (now : Time) (friendId myId deviceId : Uuid) :
    Except Error (Option DeviceKeyBundle) :=
  match db.keyBundles now friendId myId deviceId with
  | [] => .ok none
  | kb :: _ => do
    let device ← parseId kb.deviceId.toString
    let prekeyId ← parseInt (toString kb.signedPrekeyId)
    return some ⟨device, prekeyId, parseBytea (byteaOut kb.signedPrekeyPublic),
      parseBytea (byteaOut kb.signedPrekeySignature), true⟩

/-- What the caller gets if there is a row: all its columns are read, the first that fails decides. -/
theorem getDeviceKeyBundle_of_row {now : Time} {friendId myId deviceId : Uuid} {kb : BundleRow}
    {rows : List BundleRow} {n : ℕ} (h : db.keyBundles now friendId myId deviceId = kb :: rows)
    (hn : kb.signedPrekeyId = n) : getDeviceKeyBundle db now friendId myId deviceId =
      if n < 2 ^ 31 then
        .ok (some ⟨kb.deviceId, n, kb.signedPrekeyPublic, kb.signedPrekeySignature, true⟩)
      else .error (.invalidArgument "Invalid integer or out of range") := by
  rw [getDeviceKeyBundle, h]
  simp only [parseId_toString, hn, parseInt_toString, parseBytea_byteaOut]
  split_ifs <;> rfl

end KeyRepository

/-! ### What a registration stores -/

/-- The row of a registered device's bundle. -/
structure StoresInput (P : Platform) (input : DeviceRegistrationInput) (bundle : BundleRow) :
    Prop where
  keyVersion : bundle.keyVersion = 1
  current : bundle.isCurrent
  expiresAt : bundle.expiresAt = none
  prekeyId : P.bigintIn (cString input.signedPrekeyId) = some bundle.signedPrekeyId
  prekeyPublic : decodeHex (cString input.signedPrekeyPublicHex) = some bundle.signedPrekeyPublic
  prekeySignature :
    decodeHex (cString input.signedPrekeySignatureHex) = some bundle.signedPrekeySignature

/-- A write of the registration of `input`. -/
def Write.Registers (P : Platform) (input : DeviceRegistrationInput) (w : Write) : Prop :=
  ∀ bundle, w = .insertBundle bundle → StoresInput P input bundle

section Emits

variable {input : DeviceRegistrationInput}

theorem emits_insertBundle {deviceId : Uuid} : Emits (Write.Registers P input)
    (KeyRepository.insertBundle P deviceId input.signedPrekeyId input.signedPrekeyPublicHex
      input.signedPrekeySignatureHex) := by
  rw [KeyRepository.insertBundle, KeyRepository.bigintParameter, KeyRepository.decodeParameter,
    KeyRepository.decodeParameter]
  cases hid : P.bigintIn (cString input.signedPrekeyId) with
  | none => trivial
  | some n =>
    cases hpublic : decodeHex (cString input.signedPrekeyPublicHex) with
    | none => trivial
    | some publicKey =>
      cases hsignature : decodeHex (cString input.signedPrekeySignatureHex) with
      | none => trivial
      | some signature =>
        refine emits_insertRow ?_
        rintro bundle ⟨⟩
        exact ⟨rfl, rfl, rfl, hid, hpublic, hsignature⟩

theorem emits_registerNewDevice {user : Uuid} {now : Time} :
    Emits (Write.Registers P input) (KeyRepository.registerNewDevice P user input now) := by
  refine Emits.bind ?_ fun device => emits_insertBundle.bind fun _ => trivial
  rw [KeyRepository.insertDevice, KeyRepository.decodeParameter]
  cases decodeHex (cString input.identityPublicKeyHex) with
  | none => trivial
  | some key =>
    intro device
    refine (emits_insertRow ?_).bind fun _ => trivial
    rintro bundle ⟨⟩

theorem emits_insertRefreshToken {user deviceId : Uuid} {hash : String} {now : Time} :
    Emits (Write.Registers P input)
      (RefreshTokenRepository.insertRefreshToken user deviceId hash now) := by
  intro db
  refine emits_selectLocked.bind fun found => ?_
  split_ifs
  · trivial
  · intro id
    refine emits_insertRow ?_
    rintro bundle ⟨⟩

/-- Consuming a ticket writes nothing else. -/
theorem emits_consumeTicket {W : Write → Prop} {hash : String}
    (h : ∀ at', W (.consumeTicket hash at')) : Emits W (LoginTicketRepository.consumeTicket hash) := by
  refine emits_selectLocked.bind fun rows => ?_
  split_ifs
  · trivial
  · exact fun db => ⟨h db.clock, trivial⟩

theorem emits_finish {hash refreshHash : String} {user target : Uuid} {now : Time} :
    Emits (Write.Registers P input)
      (LoginTicketRepository.finish P hash refreshHash user target (some input) now) := by
  refine (emits_consumeTicket ?_).bind fun consumed => ?_
  · rintro at' bundle ⟨⟩
  · split_ifs
    · trivial
    · exact emits_registerNewDevice.bind fun device =>
        emits_insertRefreshToken.bind fun _ => trivial

/-- **Every bundle that a registration writes** has the registered contents. -/
theorem emits_registerDevice {ticket refreshToken : String} :
    Emits (Write.Registers P input)
      (LoginTicketService.registerDevice P ticket input refreshToken) := by
  rw [LoginTicketService.registerDevice, LoginTicketService.complete]
  split_ifs
  · trivial
  · rw [LoginTicketRepository.complete]
    refine Emits.bind (fun db => trivial) fun now => emits_selectLocked.bind fun ticket => ?_
    cases ticket with
    | nil => trivial
    | cons row rest =>
      refine emits_selectLocked.bind fun account => ?_
      split_ifs
      · trivial
      · exact emits_finish

end Emits

/-- What a returning call commits, with the contents of registered bundles. -/
def Stored (P : Platform) (call : Call) (r : Reply) (seen : List Db) (ws : List Write) (db : Db) :
    Prop :=
  Committed P call r seen ws db ∧ ∀ ticket input refreshToken,
    call = .registerDevice ticket input refreshToken → ∀ bundle, .insertBundle bundle ∈ ws →
      StoresInput P input bundle

/-- **Every program meets this specification.** -/
theorem meets_stored (P : Platform) (allows : List StoreEvent → Call → Prop) :
    Meets (store P allows) (Stored P) := by
  intro call db
  have hcommitted := meets P allows call db
  rw [store_toSchema] at hcommitted ⊢
  cases call with
  | registerDevice ticket input refreshToken =>
    have hemits : Emits (Write.Registers P input)
        ((store P allows).body (.registerDevice ticket input refreshToken)) :=
      emits_registerDevice.bind fun _ => trivial
    refine wp_mono (fun r s x hx => ⟨hx.1, ?_⟩) (wp_emits hcommitted hemits (by simp))
    rintro _ _ _ ⟨⟩ bundle hbundle
    exact hx.2 _ hbundle bundle rfl
  | _ =>
    refine wp_mono (fun r s x hx => ⟨hx, ?_⟩) hcommitted
    rintro _ _ _ ⟨⟩

end ChatBackend
