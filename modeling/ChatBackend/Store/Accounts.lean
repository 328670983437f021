import ChatBackend.Store.Calls

/-!
# Accounts

The tables `app.users` and `app.password_credentials` with what `src/repository/UserRepository.cpp`
does to them: a registration inserts a row into each in one transaction, a login looks for a row by
its email or by its user. Nothing deletes a row or changes a password; an operator can disable an
account.

The constraints of the tables are fields of `Accounts`, so that accounts that violate one cannot be
built.

## Main definitions

* `Accounts` — the two tables
* `Accounts.createNewUserByEmail`, `findLoginRecordByEmail`, `findLoginRecordByUserId`
* `AuthStore` — the accounts and the other tables

## Main results

* `findLoginRecordByEmail_of_mem`, `findLoginRecordByUserId_of_mem` — a login finds its row
* `AuthStore.Later.keeps` — a row of the credentials stays
-/

namespace ChatBackend

open ReadCommitted

/-- `app.password_credentials`. -/
structure CredentialRow where
  userId : Uuid
  loginEmail : String
  passwordHash : String
  deriving DecidableEq

/-- PostgreSQL's `lower`, of ASCII text. -/
def lower (text : String) : String := String.ofList (text.toList.map Char.toLower)

/-- `app.users` and `app.password_credentials`, with their constraints. -/
structure Accounts where
  users : List (Uuid × UserRow)
  credentials : List CredentialRow
  users_pkey : (users.map Prod.fst).Nodup
  users_unique : (users.map fun user => user.2.username).Nodup
  credentials_pkey : (credentials.map CredentialRow.userId).Nodup
  login_email_unique : (credentials.map fun row => lower row.loginEmail).Nodup
  credentials_users : ∀ row ∈ credentials, row.userId ∈ users.map Prod.fst

/-- `User`. -/
structure User where
  id : Uuid
  displayName : String
  username : String
  deriving DecidableEq

/-- `PasswordLoginRecord`. -/
structure PasswordLoginRecord where
  id : Uuid
  displayName : String
  isActive : Bool
  passwordHash : String
  username : String
  deriving DecidableEq

namespace Accounts

variable {accounts accounts' : Accounts} {id : Uuid} {row : CredentialRow}

/-- No account at all. -/
def empty : Accounts := ⟨[], [], .nil, .nil, .nil, .nil, fun _ h => absurd h List.not_mem_nil⟩

/-- The row of a user. -/
def user (accounts : Accounts) (id : Uuid) : Option UserRow :=
  (accounts.users.find? fun user => user.1 = id).map Prod.snd

/-- Is there an active user with this id? -/
def isActive (accounts : Accounts) (id : Uuid) : Bool := (accounts.user id).any UserRow.isActive

/-! ### Constraints -/

/-- `trim` of PostgreSQL leaves nothing. -/
def allSpaces (text : String) : Bool := text.toList.all fun c => c = ' '

/-- `username ~ '^[a-z0-9_.]{3,30}$'`. -/
def usersCheck (username : String) : Bool :=
  3 ≤ username.toList.length && username.toList.length ≤ 30 &&
    username.toList.all fun c => c.isLower || c.isDigit || c = '_' || c = '.'

/-- The constraints of `app.users` that an insertion can violate. -/
def userViolates (accounts : Accounts) (id : Uuid) (row : UserRow) : Option Error :=
  if usersCheck row.username = false then some (queryError "23514" "users_check")
  else if allSpaces row.displayName then some (queryError "23514" "users_display_name_not_blank")
  else if id ∈ accounts.users.map Prod.fst then some (queryError "23505" "users_pkey")
  else if row.username ∈ accounts.users.map fun user => user.2.username then
    some (queryError "23505" "users_unique")
  else none

/-- The constraints of `app.password_credentials` that an insertion can violate. -/
def credentialViolates (accounts : Accounts) (row : CredentialRow) : Option Error :=
  if allSpaces row.loginEmail then
    some (queryError "23514" "password_credentials_email_not_blank")
  else if allSpaces row.passwordHash then
    some (queryError "23514" "password_credentials_hash_not_blank")
  else if row.userId ∈ accounts.credentials.map CredentialRow.userId then
    some (queryError "23505" "password_credentials_pkey")
  else if lower row.loginEmail ∈ accounts.credentials.map fun row => lower row.loginEmail then
    some (queryError "23505" "password_credentials_login_email_unique")
  else none

theorem of_userViolates {user : UserRow} (h : accounts.userViolates id user = none) :
    id ∉ accounts.users.map Prod.fst ∧
      user.username ∉ accounts.users.map fun user => user.2.username := by
  unfold userViolates at h
  split_ifs at h with _ _ hid husername
  exact ⟨hid, husername⟩

theorem of_credentialViolates (h : accounts.credentialViolates row = none) :
    row.userId ∉ accounts.credentials.map CredentialRow.userId ∧
      lower row.loginEmail ∉ accounts.credentials.map fun row => lower row.loginEmail := by
  unfold credentialViolates at h
  split_ifs at h with _ _ huser hemail
  exact ⟨huser, hemail⟩

/-! ### Registering -/

/-- A row that violates no constraint. -/
def insertUser (accounts : Accounts) (id : Uuid) (row : UserRow)
    (h : accounts.userViolates id row = none) : Accounts where
  users := accounts.users ++ [(id, row)]
  credentials := accounts.credentials
  users_pkey := by
    rw [List.map_append, List.map_singleton, List.nodup_append_comm]
    exact List.nodup_cons.2 ⟨(of_userViolates h).1, accounts.users_pkey⟩
  users_unique := by
    rw [List.map_append, List.map_singleton, List.nodup_append_comm]
    exact List.nodup_cons.2 ⟨(of_userViolates h).2, accounts.users_unique⟩
  credentials_pkey := accounts.credentials_pkey
  login_email_unique := accounts.login_email_unique
  credentials_users := by
    intro row hrow
    rw [List.map_append]
    exact List.mem_append_left _ (accounts.credentials_users row hrow)

/-- A row that violates no constraint. -/
def insertCredential (accounts : Accounts) (row : CredentialRow)
    (huser : row.userId ∈ accounts.users.map Prod.fst)
    (h : accounts.credentialViolates row = none) : Accounts where
  users := accounts.users
  credentials := accounts.credentials ++ [row]
  users_pkey := accounts.users_pkey
  users_unique := accounts.users_unique
  credentials_pkey := by
    rw [List.map_append, List.map_singleton, List.nodup_append_comm]
    exact List.nodup_cons.2 ⟨(of_credentialViolates h).1, accounts.credentials_pkey⟩
  login_email_unique := by
    rw [List.map_append, List.map_singleton, List.nodup_append_comm]
    exact List.nodup_cons.2 ⟨(of_credentialViolates h).2, accounts.login_email_unique⟩
  credentials_users := by
    intro row' hrow'
    rcases List.mem_append.1 hrow' with hrow' | hrow'
    · exact accounts.credentials_users row' hrow'
    · rwa [List.mem_singleton.1 hrow']

theorem mem_insertUser {user : UserRow} (h : accounts.userViolates id user = none) :
    id ∈ (accounts.insertUser id user h).users.map Prod.fst := by
  rw [insertUser, List.map_append]
  exact List.mem_append_right _ (List.mem_singleton_self _)

/-- `UserRepository::CreateNewUserByEmail`; `id` is the uuid that the server generates. An exception
leaves nothing of the transaction. -/
def createNewUserByEmail (accounts : Accounts) (id : Uuid)
    (email passwordHash displayName username : String) : Except Error (User × Accounts) :=
  let user : UserRow := ⟨true, cString username, cString displayName⟩
  let credential : CredentialRow := ⟨id, cString email, cString passwordHash⟩
  match h : accounts.userViolates id user with
  | some error => .error error
  | none =>
    match h' : (accounts.insertUser id user h).credentialViolates credential with
    | some error => .error error
    | none => .ok (⟨id, user.displayName, user.username⟩,
        (accounts.insertUser id user h).insertCredential credential (mem_insertUser h) h')

/-- **What a registration leaves**: two rows that were not there before. -/
theorem createNewUserByEmail_eq_ok {email passwordHash displayName username : String} {user : User}
    (h : accounts.createNewUserByEmail id email passwordHash displayName username =
      .ok (user, accounts')) :
    user = ⟨id, cString displayName, cString username⟩ ∧
      accounts'.users = accounts.users ++ [(id, ⟨true, cString username, cString displayName⟩)] ∧
      accounts'.credentials = accounts.credentials ++ [⟨id, cString email, cString passwordHash⟩] := by
  unfold createNewUserByEmail at h
  simp only at h
  split at h
  · cases h
  · split at h
    · cases h
    · cases h
      exact ⟨rfl, rfl, rfl⟩

/-! ### Looking for a row -/

/-- `UserRepository::FindLoginRecordByEmail`. -/
def findLoginRecordByEmail (accounts : Accounts) (email : String) : Option PasswordLoginRecord :=
  match accounts.credentials.find? fun row => lower row.loginEmail = lower (cString email) with
  | none => none
  | some row => (accounts.user row.userId).map fun user =>
      ⟨row.userId, user.displayName, user.isActive, row.passwordHash, user.username⟩

/-- `UserRepository::FindLoginRecordByUserId`. -/
def findLoginRecordByUserId (accounts : Accounts) (userId : Uuid) : Option String :=
  (accounts.credentials.find? fun row => row.userId = userId).map CredentialRow.passwordHash

/-- The row with a key is found by its key. -/
theorem find?_of_nodup {α β : Type} [DecidableEq β] {rows : List α} {key : α → β} {a : α}
    (hnodup : (rows.map key).Nodup) (ha : a ∈ rows) :
    rows.find? (fun row => key row = key a) = some a := by
  induction rows with
  | nil => cases ha
  | cons first rows ih =>
    rw [List.map_cons, List.nodup_cons] at hnodup
    rcases List.mem_cons.1 ha with rfl | ha
    · rw [List.find?_cons_of_pos (by simp)]
    · have hne : key first ≠ key a := fun heq =>
        hnodup.1 (heq ▸ List.mem_map_of_mem ha)
      rw [List.find?_cons_of_neg (by simpa using hne), ih hnodup.2 ha]

theorem exists_user (accounts : Accounts) (hrow : row ∈ accounts.credentials) :
    ∃ user, accounts.user row.userId = some user := by
  obtain ⟨⟨id, user⟩, hmem, hid⟩ := List.mem_map.1 (accounts.credentials_users row hrow)
  refine ⟨user, ?_⟩
  have hfind := find?_of_nodup accounts.users_pkey hmem
  rw [hid] at hfind
  rw [Accounts.user, hfind, Option.map_some]

/-- **A login finds the row of its email.** -/
theorem findLoginRecordByEmail_of_mem (hrow : row ∈ accounts.credentials) {email : String}
    (hemail : lower (cString email) = lower row.loginEmail) :
    ∃ record, accounts.findLoginRecordByEmail email = some record ∧ record.id = row.userId ∧
      record.passwordHash = row.passwordHash ∧
      record.isActive = accounts.isActive row.userId := by
  obtain ⟨user, huser⟩ := accounts.exists_user hrow
  refine ⟨⟨row.userId, user.displayName, user.isActive, row.passwordHash, user.username⟩, ?_, rfl,
    rfl, ?_⟩
  · rw [findLoginRecordByEmail, hemail, find?_of_nodup accounts.login_email_unique hrow]
    simp only [huser, Option.map_some]
  · rw [isActive, huser]
    rfl

theorem findLoginRecordByUserId_of_mem (hrow : row ∈ accounts.credentials) :
    accounts.findLoginRecordByUserId row.userId = some row.passwordHash := by
  rw [findLoginRecordByUserId, find?_of_nodup accounts.credentials_pkey hrow, Option.map_some]

/-- **What a login finds** is a row, with its email. -/
theorem findLoginRecordByEmail_eq_some {email : String} {record : PasswordLoginRecord}
    (h : accounts.findLoginRecordByEmail email = some record) :
    ∃ row ∈ accounts.credentials, lower row.loginEmail = lower (cString email) ∧
      row.userId = record.id ∧ row.passwordHash = record.passwordHash := by
  rw [findLoginRecordByEmail] at h
  split at h
  · cases h
  · next row hrow =>
    obtain ⟨user, -, rfl⟩ := Option.map_eq_some_iff.mp h
    have hemail := List.find?_some hrow
    exact ⟨row, List.mem_of_find?_eq_some hrow, of_decide_eq_true hemail, rfl, rfl⟩

theorem findLoginRecordByUserId_eq_some {userId : Uuid} {passwordHash : String}
    (h : accounts.findLoginRecordByUserId userId = some passwordHash) :
    ∃ row ∈ accounts.credentials, row.userId = userId ∧ row.passwordHash = passwordHash := by
  obtain ⟨row, hrow, rfl⟩ := Option.map_eq_some_iff.mp h
  have huser := List.find?_some hrow
  exact ⟨row, List.mem_of_find?_eq_some hrow, of_decide_eq_true huser, rfl⟩

/-- **A new account is active.** -/
theorem isActive_of_createNewUserByEmail {email passwordHash displayName username : String}
    {user : User} (h : accounts.createNewUserByEmail id email passwordHash displayName username =
      .ok (user, accounts')) : accounts'.isActive id = true := by
  obtain ⟨-, husers, -⟩ := createNewUserByEmail_eq_ok h
  have hmem : (id, (⟨true, cString username, cString displayName⟩ : UserRow)) ∈ accounts'.users := by
    rw [husers]
    exact List.mem_append_right _ (List.mem_singleton_self _)
  have hfind := find?_of_nodup accounts'.users_pkey hmem
  rw [isActive, Accounts.user, hfind]
  rfl

/-! ### Disabling an account -/

/-- An operator enables or disables an account. -/
def setActive (accounts : Accounts) (id : Uuid) (active : Bool) : Accounts where
  users := accounts.users.map fun user =>
    if user.1 = id then (user.1, { user.2 with isActive := active }) else user
  credentials := accounts.credentials
  users_pkey := by
    rw [List.map_map]
    convert accounts.users_pkey using 2
    funext user
    rw [Function.comp_apply]
    split <;> rfl
  users_unique := by
    rw [List.map_map]
    convert accounts.users_unique using 2
    funext user
    rw [Function.comp_apply]
    split <;> rfl
  credentials_pkey := accounts.credentials_pkey
  login_email_unique := accounts.login_email_unique
  credentials_users := by
    intro row hrow
    have hkeys : (accounts.users.map fun user =>
        if user.1 = id then (user.1, { user.2 with isActive := active }) else user).map Prod.fst =
          accounts.users.map Prod.fst := by
      rw [List.map_map]
      congr 1
      funext user
      rw [Function.comp_apply]
      split <;> rfl
    rw [hkeys]
    exact accounts.credentials_users row hrow

end Accounts

/-! ### The store of the logins -/

/-- The accounts, and the other tables; `users` is not looked at there. -/
structure AuthStore where
  accounts : Accounts
  tables : Db

namespace AuthStore

variable {s s' : AuthStore} {id : Uuid} {row : CredentialRow}

/-- The committed state that the other repositories see. -/
def db (s : AuthStore) : Db := { s.tables with users := s.accounts.user }

theorem isActive_db (s : AuthStore) (id : Uuid) : s.db.isActive id = s.accounts.isActive id := rfl

/-- What can happen to the store. -/
inductive Step : AuthStore → AuthStore → Prop where
  | register {s : AuthStore} {id : Uuid} {email passwordHash displayName username : String}
      {user : User} {accounts : Accounts}
      (h : s.accounts.createNewUserByEmail id email passwordHash displayName username =
        .ok (user, accounts)) : Step s { s with accounts := accounts }
  | setActive (s : AuthStore) (id : Uuid) (active : Bool) :
      Step s { s with accounts := s.accounts.setActive id active }
  /-- Something is done to the other tables. -/
  | other (s : AuthStore) (tables : Db) : Step s { s with tables := tables }

/-- The states that come after one. -/
abbrev Later : AuthStore → AuthStore → Prop := Relation.ReflTransGen Step

/-- **Credentials stay.** -/
theorem Later.keeps (h : Later s s') (hrow : row ∈ s.accounts.credentials) :
    row ∈ s'.accounts.credentials := by
  induction h with
  | refl => exact hrow
  | tail _ hstep ih =>
    cases hstep with
    | register h =>
      rw [(Accounts.createNewUserByEmail_eq_ok h).2.2]
      exact List.mem_append_left _ ih
    | setActive | other => exact ih

end AuthStore

end ChatBackend
