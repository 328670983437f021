import ChatBackend.Store.Accounts
import ChatBackend.Websocket.Json

/-!
# Passwords and their checks

`src/service/RegisterService.cpp`, `LoginService.cpp` and the part of `UserService.cpp` that revokes a
device: what a registration requires of its fields, how a password is hashed and compared, and what
becomes of a login. They take the fields as the handlers hand them over.

The two functions of the hashing library are parameters.

## Main definitions

* `PasswordHashing`, `PasswordHashing.Lawful` — the library, and what it promises
* `RegisterService.registerUserByEmail`, `LoginService.loginByEmail`, `UserService.revokeUserDevice`

## Main results

* `registerUserByEmail_eq_ok` — what a registration leaves
* `loginByEmail_of_mem`, `revokeUserDevice_of_mem` — what comes of a password
-/

namespace ChatBackend

open ReadCommitted

/-! ### Hashing -/

/-- `crypto_pwhash_str`, with the salt that it draws, and `crypto_pwhash_str_verify`. -/
structure PasswordHashing where
  str : ℕ → Bytes → Option String
  strVerify : String → Bytes → Bool

/-- **What the library promises**: a hash is text without a NUL, and it is verified with the very bytes
that were hashed, and with no others. -/
def PasswordHashing.Lawful (hashing : PasswordHashing) : Prop :=
  ∀ salt password hash, hashing.str salt password = some hash →
    '\x00' ∉ hash.toList ∧ ∀ password', hashing.strVerify hash password' = true ↔ password' = password

/-! ### Registering -/

/-- `RegisterError`. -/
inductive RegisterError where
  | registerFailed
  | invalidEmail
  | invalidPassword
  | invalidDisplayName
  | emailExists
  | usernameExists
  | invalidUsername
  deriving DecidableEq

namespace RegisterService

/-- `[a-zA-Z0-9_+&*-]`. -/
def isNameChar (c : Char) : Bool := c.isAlphanum || c ∈ ['_', '+', '&', '*', '-']

/-- `[a-zA-Z0-9-]`. -/
def isLabelChar (c : Char) : Bool := c.isAlphanum || c = '-'

/-- `checkEmail`: names with dots between them, `@`, and labels with dots behind them before the last
one, which is of letters. -/
def checkEmail (email : String) : Bool :=
  match email.toList.splitOn '@' with
  | [name, domain] =>
    let labels := domain.splitOn '.'
    let last := labels.getLastD []
    (name.splitOn '.').all (fun part => part ≠ [] && part.all isNameChar) &&
      2 ≤ labels.length && labels.dropLast.all (fun label => label ≠ [] && label.all isLabelChar) &&
      last.all Char.isAlpha && 2 ≤ last.length && last.length ≤ 10
  | _ => false

/-- `checkDisplayName`. -/
def checkDisplayName (displayName : String) : Bool :=
  3 ≤ displayName.toList.length && displayName.toList.length ≤ 20 &&
    displayName.toList.all fun c => c.isAlphanum || c = '_'

/-- `checkUsername`. -/
def checkUsername (username : String) : Bool :=
  3 ≤ username.toList.length && username.toList.length ≤ 30 &&
    username.toList.all fun c => c.isAlphanum || c = '_' || c = '.'

/-- `\s`, of a byte. -/
def isSpaceByte (byte : UInt8) : Bool := (9 ≤ byte && byte ≤ 13) || byte = 32

def isLowerByte (byte : UInt8) : Bool := 97 ≤ byte && byte ≤ 122
def isUpperByte (byte : UInt8) : Bool := 65 ≤ byte && byte ≤ 90
def isDigitByte (byte : UInt8) : Bool := 48 ≤ byte && byte ≤ 57

/-- `[^A-Za-z0-9\s]`: every byte of a character beyond ASCII is one. -/
def isOtherByte (byte : UInt8) : Bool :=
  !(isLowerByte byte || isUpperByte byte || isDigitByte byte || isSpaceByte byte)

/-- `checkPassword`, which counts bytes. -/
def checkPassword (password : String) : Bool :=
  let bytes := utf8 password
  bytes.any isLowerByte && bytes.any isUpperByte && bytes.any isDigitByte && bytes.any isOtherByte &&
    bytes.all (fun byte => !isSpaceByte byte) && 6 ≤ bytes.length && bytes.length ≤ 20

/-- The errors of the database that tell what is wrong with a registration. -/
def registerError (error : DatabaseError) : Option RegisterError :=
  if error.kind = .query ∧ error.code = "23505" ∧
      error.constraint = some "password_credentials_login_email_unique" then some .emailExists
  else if error.kind = .query ∧ error.code = "23505" ∧ error.constraint = some "users_unique" then
    some .usernameExists
  else if error.kind = .query ∧ error.code = "23514" ∧ error.constraint = some "users_check" then
    some .invalidUsername
  else none

/-- `RegisterUserByEmail`, with the salt and the uuid that are drawn on the way; what it throws is on
the outside. -/
def registerUserByEmail (hashing : PasswordHashing) (salt : ℕ) (id : Uuid) (accounts : Accounts)
    (email password displayName username : String) :
    Except Error (Except RegisterError (User × Accounts)) :=
  if checkEmail email = false then .ok (.error .invalidEmail)
  else if checkPassword password = false then .ok (.error .invalidPassword)
  else if checkDisplayName displayName = false then .ok (.error .invalidDisplayName)
  else if checkUsername username = false then .ok (.error .invalidUsername)
  else match hashing.str salt (utf8 password) with
  | none => .error (.runtimeError "Password hashing failed")
  | some hash =>
    match accounts.createNewUserByEmail id email hash displayName username with
    | .ok created => .ok (.ok created)
    | .error (.database error) =>
      match registerError error with
      | some reason => .ok (.error reason)
      | none => .error (.database error)
    | .error error => .error error

/-- **What a registration leaves**: credentials with the email, and a hash of the password. -/
theorem registerUserByEmail_eq_ok {hashing : PasswordHashing} {salt : ℕ} {id : Uuid}
    {accounts accounts' : Accounts} {email password displayName username : String} {user : User}
    (h : registerUserByEmail hashing salt id accounts email password displayName username =
      .ok (.ok (user, accounts'))) :
    user.id = id ∧ ∃ hash, hashing.str salt (utf8 password) = some hash ∧
      accounts.createNewUserByEmail id email hash displayName username = .ok (user, accounts') ∧
      (⟨id, cString email, cString hash⟩ : CredentialRow) ∈ accounts'.credentials := by
  unfold registerUserByEmail at h
  split at h
  · cases h
  split at h
  · cases h
  split at h
  · cases h
  split at h
  · cases h
  split at h
  · cases h
  next hash hhash =>
    split at h
    · next created hcreated =>
      obtain rfl := Except.ok.inj (Except.ok.inj h)
      obtain ⟨huser, -, hcredentials⟩ := Accounts.createNewUserByEmail_eq_ok hcreated
      refine ⟨by rw [huser], hash, hhash, hcreated, ?_⟩
      rw [hcredentials]
      exact List.mem_append_right _ (List.mem_singleton_self _)
    · split at h
      · cases h
      · cases h
    · cases h

end RegisterService

/-! ### Transactions by themselves -/

/-- What comes of a transaction that nothing interferes with: its result, and what it commits. None of
those below draws a uuid. -/
def alone {α : Type} (P : Platform) (db : Db) (tx : Tx α) : Except Error α × List Write :=
  match tx.solo (schema P) db {} [] with
  | some (.ok a, s, _) => (.ok a, s.writes)
  | some (.error error, _, _) => (.error error, [])
  | none => (.error (.logicError "no uuid to draw"), [])

theorem alone_of_solo {α : Type} {P : Platform} {db : Db} {tx : Tx α} {a : α}
    {s : Local Db Write Key} {rest : List Uuid}
    (h : tx.solo (schema P) db {} [] = some (.ok a, s, rest)) :
    alone P db tx = (.ok a, s.writes) := by
  rw [alone, h]

/-! ### Tickets -/

/-- `LoginTicketService::issue`; `ticket` is the random one that it makes. -/
def LoginTicketService.issue (P : Platform) (userId : Uuid) (ticket : String) : Tx (Option String) :=
  (LoginTicketRepository.issue userId (LoginTicketService.hashTicket P ticket)).bind fun issued =>
    .ret (if issued then some ticket else none)

/-- **A ticket is new**: its hash is one, and no ticket has it. -/
def NewTicket (P : Platform) (db : Db) (ticket : String) : Prop :=
  LoginTicketRepository.violates (cString (LoginTicketService.hashTicket P ticket)) db = none

/-- **An active account is issued a ticket.** -/
theorem alone_issue {P : Platform} {db : Db} {userId : Uuid} {ticket : String}
    (hactive : db.isActive userId = true) (hnew : NewTicket P db ticket) :
    ∃ writes, alone P db (LoginTicketService.issue P userId ticket) = (.ok (some ticket), writes) := by
  obtain ⟨s₁, h₁, hw₁⟩ : ∃ s₁, (selectActiveUser userId).solo (schema P) db {} [] =
      some (Except.ok [()], s₁, []) ∧ s₁.writes = [] := by
    obtain ⟨s₁, h₁, hw₁⟩ := @solo_selectLocked Db Write Key Uuid Error Unit Unit (schema P) db [] {}
      (fun _ => [(.user userId, .share)]) (fun db => (whether (db.isActive userId)).toList)
      fun db _ => whether (db.isActive userId)
    refine ⟨s₁, ?_, hw₁⟩
    rw [selectActiveUser, h₁]
    change some (Except.ok (((whether (db.isActive userId)).toList).filterMap
      fun _ => whether (db.isActive userId)), s₁, []) = _
    rw [hactive]
    rfl
  have hissue : ∃ s₂, (LoginTicketRepository.issue userId
      (LoginTicketService.hashTicket P ticket)).solo (schema P) db {} [] =
        some (Except.ok true, s₂, []) := by
    have hnone : LoginTicketRepository.violates
        (cString (LoginTicketService.hashTicket P ticket))
        ((schema P).applyAll ((s₁.see db).see db).writes db) = none := by
      rw [Local.writes_see, Local.writes_see, hw₁]
      exact hnew
    obtain ⟨s₂, h₂, -⟩ := @solo_insertRow Db Write Key Uuid Error (schema P) db []
      ((s₁.see db).see db) [.ticket (cString (LoginTicketService.hashTicket P ticket))] _ hnone
      (.insertTicket (cString (LoginTicketService.hashTicket P ticket))
        ⟨userId, ((schema P).view s₁ db).clock,
          ((schema P).view (s₁.see db) db).clock + 5 * 60 * 1000000, none⟩)
    refine ⟨s₂, ?_⟩
    rw [LoginTicketRepository.issue, Prog.solo_bind_of_ok h₁, List.isEmpty_cons, if_neg (by decide),
      Prog.solo, Prog.solo, Prog.solo_bind_of_ok h₂]
    rfl
  obtain ⟨s₂, hissue⟩ := hissue
  refine ⟨s₂.writes, @alone_of_solo _ P db _ _ s₂ [] ?_⟩
  rw [LoginTicketService.issue, Prog.solo_bind_of_ok hissue]
  rfl

/-! ### Logging in -/

/-- `LoginError`. -/
inductive LoginError where
  | tooManyRequests
  | noUserFound
  | invalidCredentials
  | internalError
  | serviceUnavailable
  | notActiveUser
  | success
  deriving DecidableEq

/-- `LoginServiceResult`. -/
structure LoginServiceResult where
  login : LoginError
  loginTicket : Option String
  deriving DecidableEq

variable {P : Platform} {hashing : PasswordHashing} {s : AuthStore} {row : CredentialRow}

/-- `LoginService::loginByEmail`, with what it commits. -/
def LoginService.loginByEmail (P : Platform) (hashing : PasswordHashing) (s : AuthStore)
    (ticket email password : String) : Except Error LoginServiceResult × List Write :=
  match s.accounts.findLoginRecordByEmail email with
  | none => (.ok ⟨.noUserFound, none⟩, [])
  | some record =>
    if hashing.strVerify record.passwordHash (utf8 password) = false then
      (.ok ⟨.invalidCredentials, none⟩, [])
    else if record.isActive = false then (.ok ⟨.notActiveUser, none⟩, [])
    else match alone P s.db (LoginTicketService.issue P record.id ticket) with
      | (.ok (some ticket), writes) => (.ok ⟨.success, some ticket⟩, writes)
      | (.ok none, writes) => (.ok ⟨.notActiveUser, none⟩, writes)
      | (.error error, writes) => (.error error, writes)

/-- **The right password of an active account gets a ticket.** -/
theorem LoginService.loginByEmail_of_mem (hrow : row ∈ s.accounts.credentials) {email : String}
    (hemail : lower (cString email) = lower row.loginEmail) {password : String}
    (hpassword : hashing.strVerify row.passwordHash (utf8 password) = true)
    (hactive : s.accounts.isActive row.userId = true) {ticket : String}
    (hnew : NewTicket P s.db ticket) :
    ∃ writes, loginByEmail P hashing s ticket email password =
      (.ok ⟨.success, some ticket⟩, writes) := by
  obtain ⟨record, hrecord, hid, hhash, hstatus⟩ :=
    Accounts.findLoginRecordByEmail_of_mem hrow hemail
  obtain ⟨writes, halone⟩ := alone_issue ((s.isActive_db row.userId).trans hactive) hnew
  refine ⟨writes, ?_⟩
  rw [loginByEmail, hrecord]
  simp only [hhash, hpassword, hstatus, hactive, hid, halone, Bool.true_eq_false, if_false]

/-! ### Revoking a device -/

/-- `UserServiceErrorCode`, as far as a revocation goes. -/
inductive UserServiceErrorCode where
  | userNotFound
  | invalidPassword
  | deviceNotFound
  | notYourDevice
  | revokedDevice
  | deviceNotActive
  deriving DecidableEq

/-- What `UserService::revokeUserDevice` makes of the result of the repository. -/
def UserService.revocation : RevokeDeviceResult → Except UserServiceErrorCode Bool
  | .success => .ok true
  | .deviceNotFound => .error .deviceNotFound
  | .notYourDevice => .error .notYourDevice
  | .alreadyRevoked => .error .revokedDevice
  | .deviceNotActive => .error .deviceNotActive

/-- `UserService::revokeUserDevice`, with what it commits. -/
def UserService.revokeUserDevice (P : Platform) (hashing : PasswordHashing) (s : AuthStore)
    (myId deviceId : Uuid) (password : String) :
    Except Error (Except UserServiceErrorCode Bool) × List Write :=
  match s.accounts.findLoginRecordByUserId myId with
  | none => (.ok (.error .userNotFound), [])
  | some passwordHash =>
    if hashing.strVerify passwordHash (utf8 password) = false then
      (.ok (.error .invalidPassword), [])
    else match alone P s.db (UserRepository.revokeUserDevice myId deviceId) with
      | (.ok result, writes) => (.ok (revocation result), writes)
      | (.error error, writes) => (.error error, writes)

/-- **The password of a revocation** is taken exactly if it is verified. -/
theorem UserService.revokeUserDevice_of_mem (hrow : row ∈ s.accounts.credentials) (deviceId : Uuid)
    (password : String) :
    (revokeUserDevice P hashing s row.userId deviceId password).1 ≠ .ok (.error .userNotFound) ∧
      ((revokeUserDevice P hashing s row.userId deviceId password).1 ≠
          .ok (.error .invalidPassword) ↔
        hashing.strVerify row.passwordHash (utf8 password) = true) := by
  rw [revokeUserDevice, Accounts.findLoginRecordByUserId_of_mem hrow]
  simp only
  cases hverify : hashing.strVerify row.passwordHash (utf8 password) with
  | false => simp
  | true =>
    simp only [Bool.true_eq_false, if_false]
    rcases alone P s.db (UserRepository.revokeUserDevice row.userId deviceId) with
      ⟨error | result, writes⟩
    · simp
    · cases result <;> simp [revocation]

end ChatBackend
