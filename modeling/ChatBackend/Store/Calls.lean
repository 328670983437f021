import ChatBackend.ReadCommitted.Serial
import ChatBackend.ReadCommitted.Solo
import ChatBackend.Store.EnvelopeSpec
import ChatBackend.Store.FriendRequests
import ChatBackend.Store.LoginTicketRepository
import ChatBackend.Store.UserRepository

/-!
# The store and its callers

All the transactions of this development as the calls of one system, so that a run interleaves any
number of each. `Committed` collects their specifications; `meets` proves the programs against
them, and with it every run is a serial run.

## Main definitions

* `Call`, `Reply`, `store` — the system
* `Committed` — what a returning call commits
* `Call.tables` — the tables a call writes

## Main results

* `meets`, `serial` — every run of the store is a serial run of specified calls
* `Committed.tables` — a call changes no other table
-/

namespace ChatBackend

open ReadCommitted

/-- The calls. The last four are changes an operator or another part of the application makes:
the modelled programs read these tables, but none of them writes them. -/
inductive Call where
  | saveNewMessage (userId sender : Uuid) (request : NewTextMessageRequest)
  | syncEnvelopeRecord (userId : Uuid) (request : SyncEnvelopeRequest)
  | ackEnvelopes (userId : Uuid) (request : AckEnvelopeRequest)
  | revokeUserDevice (myId deviceId : Uuid)
  | registerNewDevice (userId : Uuid) (input : DeviceRegistrationInput)
  | createNewOnetimeKey (userId deviceId : Uuid) (prekeyRecord : List (ℤ × String))
  | getOneTimeKey (myId friendId deviceId : Uuid)
  | issue (userId : Uuid) (ticketHash : String)
  | complete (ticketHash refreshHash : String) (deviceId : Option Uuid)
      (registration : Option DeviceRegistrationInput)
  | verifyDevice (ticket : String) (deviceId : Uuid) (refreshToken : String)
  | registerDevice (ticket : String) (input : DeviceRegistrationInput) (refreshToken : String)
  | rotate (oldTokenHash newTokenHash : String)
  | revokeRefreshToken (tokenHash : String)
  | deleteRefreshToken (tokenHash : String)
  | deleteExpiredBefore (cutoffSeconds : ℤ)
  | createNewFriendship (myId friendId : Uuid) (message : String)
  | processFriendshipRequest (myId requestId : Uuid) (action : FriendRequestAction)
  | verifyFriendShip (myId friendId : Uuid)
  | setActive (userId : Uuid) (isActive : Bool)
  | befriend (userId friendId : Uuid)
  | unfriend (userId friendId : Uuid)
  | expireBundle (deviceId : Uuid) (keyVersion : ℤ) (at' : Time)

/-- What the calls return. -/
inductive Reply where
  | message (result : NewMessageResult)
  | page (result : Option EnvelopePage)
  | acknowledged (result : Option (List Uuid))
  | revocation (result : RevokeDeviceResult)
  | device (result : Device)
  | uploaded (result : Bool)
  | claim (result : PrekeyClaimResult)
  | issued (result : Bool)
  | login (result : LoginTicketResult)
  | rotated (result : Bool)
  | deleted (count : ℕ)
  | requested (result : Option FriendshipRequestRecord)
  | processed (result : FriendRequestProcessResult)
  | verified (result : Bool)
  | done
  deriving DecidableEq

/-- A change of one row outside the modelled programs. -/
def change (P : Platform) (w : Write) : Tx Unit :=
  (acquireAll (w.needs P)).bind fun _ => Prog.emit w

/-- The transaction of each call. -/
def Call.body (P : Platform) : Call → Tx Reply
  | .saveNewMessage userId sender request =>
    (EnvelopeRepository.saveNewMessage P userId sender request).bind fun r => .ret (.message r)
  | .syncEnvelopeRecord userId request =>
    (EnvelopeRepository.syncEnvelopeRecord userId request).bind fun r => .ret (.page r)
  | .ackEnvelopes userId request =>
    (EnvelopeRepository.ackEnvelopes userId request).bind fun r => .ret (.acknowledged r)
  | .revokeUserDevice myId deviceId =>
    (UserRepository.revokeUserDevice myId deviceId).bind fun r => .ret (.revocation r)
  | .registerNewDevice userId input =>
    (beginTransaction.bind fun now => KeyRepository.registerNewDevice P userId input now).bind
      fun r => .ret (.device r)
  | .createNewOnetimeKey userId deviceId prekeyRecord =>
    (KeyRepository.createNewOnetimeKey userId deviceId prekeyRecord).bind fun r => .ret (.uploaded r)
  | .getOneTimeKey myId friendId deviceId =>
    (KeyRepository.getOneTimeKey myId friendId deviceId).bind fun r => .ret (.claim r)
  | .issue userId ticketHash =>
    (LoginTicketRepository.issue userId ticketHash).bind fun r => .ret (.issued r)
  | .complete ticketHash refreshHash deviceId registration =>
    (LoginTicketRepository.complete P ticketHash refreshHash deviceId registration).bind
      fun r => .ret (.login r)
  | .verifyDevice ticket deviceId refreshToken =>
    (LoginTicketService.verifyDevice P ticket deviceId refreshToken).bind fun r => .ret (.login r)
  | .registerDevice ticket input refreshToken =>
    (LoginTicketService.registerDevice P ticket input refreshToken).bind fun r => .ret (.login r)
  | .rotate oldTokenHash newTokenHash =>
    (RefreshTokenRepository.rotate oldTokenHash newTokenHash).bind fun r => .ret (.rotated r)
  | .revokeRefreshToken tokenHash =>
    (RefreshTokenRepository.revokeRefreshToken tokenHash).bind fun _ => .ret .done
  | .deleteRefreshToken tokenHash =>
    (RefreshTokenRepository.deleteRefreshToken tokenHash).bind fun _ => .ret .done
  | .deleteExpiredBefore cutoffSeconds =>
    (RefreshTokenRepository.deleteExpiredBefore cutoffSeconds).bind fun n => .ret (.deleted n)
  | .createNewFriendship myId friendId message =>
    (UserRepository.createNewFriendship myId friendId message).bind fun r => .ret (.requested r)
  | .processFriendshipRequest myId requestId action =>
    (UserRepository.processFriendshipRequest myId requestId action).bind fun r => .ret (.processed r)
  | .verifyFriendShip myId friendId =>
    (UserRepository.verifyFriendShip myId friendId).bind fun r => .ret (.verified r)
  | .setActive userId isActive => (change P (.setActive userId isActive)).bind fun _ => .ret .done
  | .befriend a b =>
    if a = b then .throw (queryError "23514" "friend_relation_not_self")
    else (change P (.befriend a b)).bind fun _ => .ret .done
  | .unfriend a b => (change P (.unfriend a b)).bind fun _ => .ret .done
  | .expireBundle d v at' => (change P (.expireBundle d v at')).bind fun _ => .ret .done

/-- An event of the store. -/
abbrev StoreEvent := Event Db Write Error Call Reply

/-- The committed state after a call, if nothing else happens. -/
def stateAfter (P : Platform) (e : StoreEvent) : Db := (schema P).applyAll e.writes e.before

/-- The store, with callers that make a call when `allows` says so. -/
def store (P : Platform) (allows : List StoreEvent → Call → Prop) :
    System Db Write Key Uuid Error Call Reply where
  toSchema := schema P
  body := Call.body P
  allows := allows

@[simp] theorem store_toSchema (P : Platform) (allows : List StoreEvent → Call → Prop) :
    (store P allows).toSchema = schema P := rfl

/-- What a returning call commits, on top of which state. -/
inductive Committed (P : Platform) : Call → Reply → List Db → List Write → Db → Prop where
  | saveNewMessage {userId sender request r seen ws db} :
      EnvelopeRepository.SaveSpec userId sender request r seen ws db →
      Committed P (.saveNewMessage userId sender request) (.message r) seen ws db
  | syncEnvelopeRecord {userId request r seen ws db} :
      EnvelopeRepository.SyncSpec userId request r seen ws db →
      Committed P (.syncEnvelopeRecord userId request) (.page r) seen ws db
  | ackEnvelopes {userId request r seen ws db} :
      EnvelopeRepository.AckSpec userId request r seen ws db →
      Committed P (.ackEnvelopes userId request) (.acknowledged r) seen ws db
  | revokeUserDevice {myId deviceId r seen ws db} : UserRepository.RevokeSpec myId deviceId r ws db →
      Committed P (.revokeUserDevice myId deviceId) (.revocation r) seen ws db
  | registerNewDevice {userId input device row bundle seen db} :
      db.userDevices device.deviceId = none →
      KeyRepository.Registration userId device.deviceId row bundle →
      Committed P (.registerNewDevice userId input) (.device device) seen
        [.insertDevice device.deviceId row, .insertBundle bundle] db
  | createNewOnetimeKey {userId deviceId prekeyRecord r seen ws db} :
      KeyRepository.UploadSpec userId deviceId prekeyRecord r ws db →
      Committed P (.createNewOnetimeKey userId deviceId prekeyRecord) (.uploaded r) seen ws db
  | getOneTimeKey {myId friendId deviceId r seen ws db} :
      KeyRepository.ClaimSpec myId friendId deviceId r ws db →
      Committed P (.getOneTimeKey myId friendId deviceId) (.claim r) seen ws db
  | issue {userId ticketHash r seen ws db} :
      LoginTicketRepository.IssueSpec userId ticketHash r ws db →
      Committed P (.issue userId ticketHash) (.issued r) seen ws db
  | complete {ticketHash refreshHash deviceId registration r seen ws db} :
      LoginTicketRepository.CompleteSpec (cString ticketHash) refreshHash deviceId registration r seen
        ws db →
      Committed P (.complete ticketHash refreshHash deviceId registration) (.login r) seen ws db
  | verifyDevice {ticket deviceId refreshToken r seen ws db} :
      LoginTicketRepository.CompleteSpec (cString (LoginTicketService.hashTicket P ticket))
        (P.refreshTokenHash refreshToken) (some deviceId) none r seen ws db →
      Committed P (.verifyDevice ticket deviceId refreshToken) (.login r) seen ws db
  | registerDevice {ticket input refreshToken r seen ws db} :
      LoginTicketRepository.CompleteSpec (cString (LoginTicketService.hashTicket P ticket))
        (P.refreshTokenHash refreshToken) none (some input) r seen ws db →
      Committed P (.registerDevice ticket input refreshToken) (.login r) seen ws db
  | rotate {oldTokenHash newTokenHash r seen ws db} :
      RefreshTokenRepository.RotateSpec oldTokenHash newTokenHash r ws db →
      Committed P (.rotate oldTokenHash newTokenHash) (.rotated r) seen ws db
  | revokeRefreshToken {tokenHash seen ws db} : RefreshTokenRepository.RevokeSpec tokenHash ws db →
      Committed P (.revokeRefreshToken tokenHash) .done seen ws db
  | deleteRefreshToken {tokenHash seen ws db} :
      RefreshTokenRepository.DeleteSpec (fun t => t.tokenHash = cString tokenHash) ws db →
      Committed P (.deleteRefreshToken tokenHash) .done seen ws db
  | deleteExpiredBefore {cutoff n seen ws db} :
      RefreshTokenRepository.DeleteSpec (fun t => t.expiresAt < cutoff * 1000000) ws db →
      Committed P (.deleteExpiredBefore cutoff) (.deleted n) seen ws db
  | createNewFriendship {myId friendId message r seen ws db} :
      UserRepository.FriendRequestSpec myId friendId message r ws db →
      Committed P (.createNewFriendship myId friendId message) (.requested r) seen ws db
  | processFriendshipRequest {myId requestId action r seen ws db} :
      UserRepository.ProcessSpec myId requestId action r seen ws db →
      Committed P (.processFriendshipRequest myId requestId action) (.processed r) seen ws db
  | verifyFriendShip {myId friendId r seen ws db} : UserRepository.VerifySpec myId friendId r seen ws →
      Committed P (.verifyFriendShip myId friendId) (.verified r) seen ws db
  | setActive {userId isActive seen db} :
      Committed P (.setActive userId isActive) .done seen [.setActive userId isActive] db
  | befriend {a b seen db} : Committed P (.befriend a b) .done seen [.befriend a b] db
  | unfriend {a b seen db} : Committed P (.unfriend a b) .done seen [.unfriend a b] db
  | expireBundle {d v at' seen db} :
      Committed P (.expireBundle d v at') .done seen [.expireBundle d v at'] db

variable {P : Platform} {allows : List StoreEvent → Call → Prop} {db db' : Db}

/-! ### Every run is a serial run of specified calls -/

theorem wp_change {w : Write} :
    wp (schema P) (change P w) (fun _ s _ => s.writes = [w]) {} db :=
  wp_bind (wp_acquireAll fun _ _ hw _ _ hl _ => wp_write hl (wp_ret fun _ _ => by simp [hw]))

/-- **Every program meets its specification.** -/
theorem meets (P : Platform) (allows : List StoreEvent → Call → Prop) :
    Meets (store P allows) (Committed P) := by
  have changes : ∀ (w : Write) (call : Call) (db : Db),
      (∀ seen db, Committed P call .done seen [w] db) →
      wp (schema P) ((change P w).bind fun _ => .ret .done)
        (fun r s db => Committed P call r s.seen s.writes db) {} db :=
    fun w call db hcall => wp_map (wp_mono (fun _ s x (hw : s.writes = [w]) => hw ▸ hcall s.seen x)
      wp_change)
  intro call db
  rw [store_toSchema]
  cases call with
  | saveNewMessage user sender request =>
    exact wp_map (wp_mono (fun _ _ _ => .saveNewMessage) (EnvelopeRepository.wp_saveNewMessage db))
  | syncEnvelopeRecord user request =>
    exact wp_map
      (wp_mono (fun _ _ _ => .syncEnvelopeRecord) (EnvelopeRepository.wp_syncEnvelopeRecord db))
  | ackEnvelopes user request =>
    exact wp_map (wp_mono (fun _ _ _ => .ackEnvelopes) (EnvelopeRepository.wp_ackEnvelopes db))
  | revokeUserDevice me d =>
    exact wp_map (wp_mono (fun _ _ _ => .revokeUserDevice) (UserRepository.wp_revokeUserDevice db))
  | registerNewDevice user input =>
    refine wp_map (wp_bind (wp_read fun db₀ h₀ => wp_ret fun db₁ h₁ =>
      KeyRepository.wp_registerNewDevice (fun x d => rfl) fun s₂ db₂ device row bundle hw hlo h₂ hk
        hfree hregistration => ?_))
    rw [hw]
    exact .registerNewDevice hfree hregistration
  | createNewOnetimeKey user d record =>
    exact wp_map
      (wp_mono (fun _ _ _ => .createNewOnetimeKey) (KeyRepository.wp_createNewOnetimeKey db))
  | getOneTimeKey me friend d =>
    exact wp_map (wp_mono (fun _ _ _ => .getOneTimeKey) (KeyRepository.wp_getOneTimeKey db))
  | issue user hash =>
    exact wp_map (wp_mono (fun _ _ _ => .issue) (LoginTicketRepository.wp_issue db))
  | complete hash refresh d registration =>
    exact wp_map (wp_mono (fun _ _ _ => .complete) (LoginTicketRepository.wp_complete db))
  | verifyDevice ticket d refresh =>
    exact wp_map (wp_mono (fun _ _ _ => .verifyDevice) (LoginTicketService.wp_verifyDevice db))
  | registerDevice ticket input refresh =>
    exact wp_map (wp_mono (fun _ _ _ => .registerDevice) (LoginTicketService.wp_registerDevice db))
  | rotate old new =>
    exact wp_map (wp_mono (fun _ _ _ => .rotate) (RefreshTokenRepository.wp_rotate db))
  | revokeRefreshToken hash =>
    exact wp_map
      (wp_mono (fun _ _ _ => .revokeRefreshToken) (RefreshTokenRepository.wp_revokeRefreshToken db))
  | deleteRefreshToken hash =>
    exact wp_map
      (wp_mono (fun _ _ _ => .deleteRefreshToken) (RefreshTokenRepository.wp_deleteRefreshToken db))
  | deleteExpiredBefore cutoff =>
    exact wp_map
      (wp_mono (fun _ _ _ => .deleteExpiredBefore) (RefreshTokenRepository.wp_deleteExpiredBefore db))
  | createNewFriendship me friend message =>
    exact wp_map
      (wp_mono (fun _ _ _ => .createNewFriendship) (UserRepository.wp_createNewFriendship db))
  | processFriendshipRequest me id action =>
    exact wp_map (wp_mono (fun _ _ _ => .processFriendshipRequest)
      (UserRepository.wp_processFriendshipRequest db))
  | verifyFriendShip me friend =>
    exact wp_map (wp_mono (fun _ _ _ => .verifyFriendShip) (UserRepository.wp_verifyFriendShip db))
  | setActive user b => exact changes _ _ db fun _ _ => .setActive
  | befriend a b =>
    show wp (schema P) (Call.body P (.befriend a b)) _ {} db
    rw [Call.body]
    split_ifs
    · trivial
    · exact changes _ _ db fun _ _ => .befriend
  | unfriend a b => exact changes _ _ db fun _ _ => .unfriend
  | expireBundle d v at' => exact changes _ _ db fun _ _ => .expireBundle

/-- A configuration of the store. -/
abbrev StoreConfig := Config Db Write Key Uuid Error Call Reply

/-- A state of a serial run of the store. -/
abbrev StoreState := Serial.State Db Write Error Call Reply

/-- The serial run behind a run of the store. -/
theorem serial {db₀ : Db} {c : StoreConfig} (h : Reachable (store P allows) db₀ c) :
    Serial.Reachable (store P allows) (Committed P) db₀ c.serial :=
  Reachable.serial (meets P allows) h

/-- What `saveNewMessage` commits. -/
theorem Committed.save {user sender : Uuid} {request : NewTextMessageRequest} {r : Reply}
    {seen : List Db} {ws : List Write}
    (h : Committed P (.saveNewMessage user sender request) r seen ws db) :
    ∃ result, r = .message result ∧
      EnvelopeRepository.SaveSpec user sender request result seen ws db := by
  cases h with
  | saveNewMessage h => exact ⟨_, rfl, h⟩

/-- The calls that return a message result. -/
theorem Committed.message {call : Call} {r : NewMessageResult} {seen : List Db} {ws : List Write}
    (h : Committed P call (.message r) seen ws db) : ∃ user sender request,
      call = .saveNewMessage user sender request ∧
        EnvelopeRepository.SaveSpec user sender request r seen ws db := by
  cases h with
  | saveNewMessage h => exact ⟨_, _, _, rfl, h⟩

/-- The calls that return a claim. -/
theorem Committed.claim {call : Call} {r : PrekeyClaimResult} {seen : List Db} {ws : List Write}
    (h : Committed P call (.claim r) seen ws db) : ∃ me friend d,
      call = .getOneTimeKey me friend d ∧ KeyRepository.ClaimSpec me friend d r ws db := by
  cases h with
  | getOneTimeKey h => exact ⟨_, _, _, rfl, h⟩

/-! ### Which tables a call writes -/

/-- The tables of `Db`. -/
inductive Table where
  | users | userDevices | friendRelation | friendRequests | messageEnvelopes
  | deviceOneTimePrekeys | deviceKeyBundles | loginTickets | refreshTokens
  deriving DecidableEq

/-- The table of a write. -/
def Write.table : Write → Table
  | .insertEnvelope _ | .setReceivedAt _ _ => .messageEnvelopes
  | .insertDevice _ _ | .revokeDevice _ _ => .userDevices
  | .insertBundle _ | .expireBundle _ _ _ => .deviceKeyBundles
  | .insertPrekey _ | .claimPrekey _ _ _ => .deviceOneTimePrekeys
  | .insertTicket _ _ | .consumeTicket _ _ => .loginTickets
  | .insertToken _ | .revokeToken _ _ | .deleteToken _ => .refreshTokens
  | .insertRequest _ _ | .processRequest _ _ _ => .friendRequests
  | .befriend _ _ | .unfriend _ _ => .friendRelation
  | .setActive _ _ => .users

/-- The tables a call writes. -/
def Call.tables : Call → List Table
  | .saveNewMessage _ _ _ | .ackEnvelopes _ _ => [.messageEnvelopes]
  | .syncEnvelopeRecord _ _ => []
  | .revokeUserDevice _ _ => [.userDevices, .refreshTokens]
  | .registerNewDevice _ _ => [.userDevices, .deviceKeyBundles]
  | .createNewOnetimeKey _ _ _ | .getOneTimeKey _ _ _ => [.deviceOneTimePrekeys]
  | .issue _ _ => [.loginTickets]
  | .complete _ _ _ _ | .verifyDevice _ _ _ | .registerDevice _ _ _ =>
    [.loginTickets, .userDevices, .deviceKeyBundles, .refreshTokens]
  | .rotate _ _ | .revokeRefreshToken _ | .deleteRefreshToken _ | .deleteExpiredBefore _ =>
    [.refreshTokens]
  | .createNewFriendship _ _ _ => [.friendRequests]
  | .processFriendshipRequest _ _ _ => [.friendRequests, .friendRelation]
  | .verifyFriendShip _ _ => []
  | .setActive _ _ => [.users]
  | .befriend _ _ | .unfriend _ _ => [.friendRelation]
  | .expireBundle _ _ _ => [.deviceKeyBundles]

/-- Completing a login writes four tables. -/
theorem tables_complete {hash refreshHash : String} {deviceId : Option Uuid}
    {registration : Option DeviceRegistrationInput} {r : LoginTicketResult} {ws : List Write}
    (h : LoginTicketRepository.CompleteSpec hash refreshHash deviceId registration r seen ws db) :
    ∀ w ∈ ws, w.table ∈ [Table.loginTickets, .userDevices, .deviceKeyBundles, .refreshTokens] := by
  cases h <;> simp [Write.table]

/-- Changes of single rows are all in one table. -/
theorem tables_map {α : Type} {rows : List α} {f : α → Write} {ts : List Table}
    (h : ∀ a, (f a).table ∈ ts) : ∀ w ∈ rows.map f, w.table ∈ ts :=
  List.forall_mem_map.mpr fun a _ => h a

/-- **A call changes no other table.** -/
theorem Committed.tables {call : Call} {r : Reply} {seen : List Db} {ws : List Write}
    (h : Committed P call r seen ws db) : ∀ w ∈ ws, w.table ∈ call.tables := by
  have one : ∀ {w : Write} {ts : List Table}, w.table ∈ ts → ∀ v ∈ [w], v.table ∈ ts := by
    intro w ts hw v hv
    rwa [List.mem_singleton.mp hv]
  cases h with
  | saveNewMessage h => cases h <;> simp [Write.table, Call.tables]
  | syncEnvelopeRecord h => simp [h.readOnly]
  | ackEnvelopes h =>
    obtain ⟨rows, hw, -⟩ := h.rows
    exact hw ▸ tables_map fun _ => List.mem_singleton_self _
  | revokeUserDevice h =>
    cases h with
    | success device now tokens =>
      refine List.forall_mem_cons.mpr ⟨List.mem_cons_self .., tables_map fun _ => ?_⟩
      exact List.mem_cons_of_mem _ (List.mem_singleton_self _)
    | refused => simp
  | registerNewDevice => simp [Write.table, Call.tables]
  | createNewOnetimeKey h =>
    cases h with
    | stored now rows => exact tables_map fun _ => List.mem_singleton_self _
    | refused => simp
  | getOneTimeKey h => cases h <;> simp [Write.table, Call.tables]
  | issue h => cases h <;> simp [Write.table, Call.tables]
  | complete h => exact tables_complete h
  | verifyDevice h => exact tables_complete h
  | registerDevice h => exact tables_complete h
  | rotate h =>
    cases h with
    | rotated now old rest token =>
      exact List.forall_mem_append.mpr ⟨tables_map fun _ => List.mem_singleton_self _,
        one (List.mem_singleton_self _)⟩
    | refused => simp
  | revokeRefreshToken h =>
    obtain ⟨now, rows, rfl, -⟩ := h
    exact tables_map fun _ => List.mem_singleton_self _
  | deleteRefreshToken h =>
    obtain ⟨rows, rfl, -⟩ := h
    exact tables_map fun _ => List.mem_singleton_self _
  | deleteExpiredBefore h =>
    obtain ⟨rows, rfl, -⟩ := h
    exact tables_map fun _ => List.mem_singleton_self _
  | createNewFriendship h =>
    cases h with
    | stored id row => exact one (List.mem_singleton_self _)
  | processFriendshipRequest h =>
    cases h with
    | success row status now relations =>
      refine List.forall_mem_cons.mpr ⟨List.mem_cons_self .., tables_map fun _ => ?_⟩
      exact List.mem_cons_of_mem _ (List.mem_singleton_self _)
    | refused => simp
  | verifyFriendShip h => simp [h.readOnly]
  | setActive => exact one (List.mem_singleton_self _)
  | befriend => exact one (List.mem_singleton_self _)
  | unfriend => exact one (List.mem_singleton_self _)
  | expireBundle => exact one (List.mem_singleton_self _)

/-- A part of the state that belongs to one table is changed by that table's writes only. -/
def BelongsTo {γ : Type} (t : Table) (f : Db → γ) : Prop :=
  ∀ (w : Write) (db : Db), w.table ≠ t → f (db.write w) = f db

theorem belongsTo_userDevices : BelongsTo .userDevices Db.userDevices := by
  intro w db h
  cases w <;> first | rfl | exact absurd rfl h

theorem belongsTo_messageEnvelopes : BelongsTo .messageEnvelopes Db.messageEnvelopes := by
  intro w db h
  cases w <;> first | rfl | exact absurd rfl h

theorem belongsTo_deviceOneTimePrekeys :
    BelongsTo .deviceOneTimePrekeys Db.deviceOneTimePrekeys := by
  intro w db h
  cases w <;> first | rfl | exact absurd rfl h

theorem belongsTo_friendRequests : BelongsTo .friendRequests Db.friendRequests := by
  intro w db h
  cases w <;> first | rfl | exact absurd rfl h

theorem belongsTo_friendRelation : BelongsTo .friendRelation Db.friendRelation := by
  intro w db h
  cases w <;> first | rfl | exact absurd rfl h

/-- Writes to other tables leave a table as it is. -/
theorem BelongsTo.frame {γ : Type} {t : Table} {f : Db → γ} (hf : BelongsTo t f) {ws : List Write}
    (hws : ∀ w ∈ ws, w.table ≠ t) : f ((schema P).applyAll ws db) = f db :=
  (schema P).applyAll_induct (P := fun x => f x = f db)
    (fun w hw x hx => (hf w x (hws w hw)).trans hx) rfl

/-- **The frame of a call**: it leaves every table that it does not write as it is. -/
theorem Committed.frame {γ : Type} {t : Table} {f : Db → γ} (hf : BelongsTo t f) {call : Call}
    {r : Reply} {seen : List Db} {ws : List Write} (h : Committed P call r seen ws db)
    (ht : t ∉ call.tables) : f ((schema P).applyAll ws db) = f db :=
  hf.frame fun w hw he => ht (he ▸ h.tables w hw)

/-! ### A small store -/

namespace Sample

def alice : Uuid := 1
def bob : Uuid := 2

/-- Alice's device. -/
def phone : Uuid := 11

/-- Bob's device. -/
def laptop : Uuid := 12

/-- A login ticket. -/
def ticket : String := "0000000000000000000000000000000000000000000000000000000000000001"

/-- A refresh token. -/
def refreshToken : String := "AAAAAAAAAAAAAAAAAAAAAAAAAAAAAAAAAAAAAAAAAAA"

/-- The platform, on the texts that runs of the small store hash and read. -/
def platform : Platform where
  hashtextextended text :=
    if text = "envelope-pair-v1:00000000-0000-0000-0000-00000000000b:" ++
      "00000000-0000-0000-0000-00000000000c" then -495898451393318611 else 0
  bigintIn text := if text = "1" then some 1 else none
  refreshTokenHash text :=
    if text = "login-ticket-v1:" ++ ticket then
      "e2eb1ebb5e66f091b39b7b6e3346604edd88ee29796021c5bc0123230506d0be"
    else "6342b384e5d6294c5df1110132b93b97b395a2ff4cca498af637b3e06b3095dd"

/-- Two friends with an active device each, and nothing stored yet. -/
def start : Db where
  clock := 0
  users u :=
    if u = alice then some ⟨true, "alice", "Alice"⟩
    else if u = bob then some ⟨true, "bob", "Bob"⟩
    else none
  userDevices d :=
    if d = phone then some ⟨alice, "phone", .active, [1], "v1", some 0, none⟩
    else if d = laptop then some ⟨bob, "laptop", .active, [2], "v1", some 0, none⟩
    else none
  friendRelation a b := (a = alice ∧ b = bob) ∨ (a = bob ∧ b = alice)
  friendRequests _ := none
  messageEnvelopes := []
  deviceOneTimePrekeys := []
  deviceKeyBundles := []
  loginTickets _ := none
  refreshTokens := []

/-- Anybody may call anything at any time. -/
def anyone (_ : List StoreEvent) (_ : Call) : Prop := True

end Sample

end ChatBackend
