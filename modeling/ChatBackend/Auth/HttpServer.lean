import ChatBackend.Auth.Obedience
import ChatBackend.Effects.Threads
import ChatBackend.ReadCommitted.Callers
import ChatBackend.Store.Provenance

/-!
# The HTTP server

The HTTP side as a whole: any number of requests that are handled at the same time, with the accounts
and with the store, in which the transactions interleave statement by statement. A transaction that
only requests ask for is some thread's, and begins while that thread waits for it; the others begin
whenever they like. What a thread is answered is what its own transaction has returned. The clock may
be set to any time.

The library for the tokens and the one for passwords are parameters, and so is what clients send.

## Main definitions

* `ServerWorld`, `Deployment`, `httpServer` — the requests and what they run on
* `Deployment.Reliable` — what the library for the tokens does in a run
* `Entitled` — the grounds of a call, as they stay
* `Accountable` — every transaction and every account comes from a request that was entitled to it
* `RunOnce` — a call that can change the tables does so once

## Main results

* `accountable_of_reachable`, `accountable_of_history`
* `runOnce_of_reachable`
-/

namespace ChatBackend

open Effects ReadCommitted
open Effects.Threads (pastOf)

/-! ### The server -/

/-- A call of the store, with the thread of the server that makes it, if one does. -/
abbrev ClientCall := Option ℕ × Call

/-- The state of the store, with its clients. -/
abbrev ClientStore := Config Db Write Key Uuid Error ClientCall Reply

/-- A finished call of a client. -/
abbrev ClientEvent := Event Db Write Error ClientCall Reply

/-- What the handlers call: the store, the accounts, and the clock of the process. A user of the
accounts is one of the store's, active or not, from the beginning. -/
structure ServerWorld where
  clients : ClientStore
  accounts : Accounts
  /-- History variable: for which thread an account was made. -/
  registered : List (ℕ × Uuid)
  now : Time

/-- The store, whoever its clients are. -/
abbrev ServerWorld.store (w : ServerWorld) : StoreConfig := w.clients.mapCalls Prod.snd

/-- What the server is built with. -/
structure Deployment where
  platform : Platform
  parser : JsonParser
  jwt : Jwt
  secret : String
  hashing : PasswordHashing

/-- An answered call, with its thread and its world. -/
abbrev ServerRecord := Threads.Record ServerWorld ServerCall.Answer Error

/-- The state of a run of the server. -/
abbrev ServerRun := Threads.Config ServerWorld ServerCall.Answer Error HttpResponse

/-- The calls that nothing but a request makes. The others come from messages of WebSockets, from the
maintenance and from operators. -/
def Call.isRequested : Call → Bool
  | .revokeUserDevice _ _ | .registerNewDevice _ _ | .createNewOnetimeKey _ _ _
  | .getOneTimeKey _ _ _ | .issue _ _ | .complete _ _ _ _ | .verifyDevice _ _ _
  | .registerDevice _ _ _ | .createNewFriendship _ _ _ | .processFriendshipRequest _ _ _ => true
  | _ => false

/-- The store, in which only those transactions begin by themselves that no request asks for. -/
def clientStore (P : Platform) : System Db Write Key Uuid Error ClientCall Reply :=
  (store P fun _ _ => True).comap Prod.snd fun _ call => call.1 = none ∧ call.2.isRequested = false

/-- What happens between the answers. -/
inductive ServerMove (P : Platform) (waits : ℕ → ServerCall → Prop) (w : ServerWorld) :
    ServerWorld → Prop where
  /-- The transaction of a thread begins, and if it can change the tables, it does so once. -/
  | begin {t n : ℕ} {op : ServerCall} {call : Call} {reply : op.Answer → Reply} (hwaits : waits t op)
      (htransaction : op.transaction = some (call, reply)) (hnone : w.clients.txns n = none)
      (hfirst : op.isWrite = true → ¬ w.clients.Has (some t, call)) :
      ServerMove P waits w
        { w with clients := w.clients.set n ⟨(some t, call), (clientStore P).body (some t, call), {}⟩ }
  /-- A transaction moves on or ends, or one that no request asks for begins. -/
  | store {s : ClientStore} (h : Step (clientStore P) w.clients s) :
      ServerMove P waits w { w with clients := s }
  | register {t : ℕ} {email passwordHash displayName username : String} {id : Uuid} {user : User}
      {accounts : Accounts}
      (hwaits : waits t (.createNewUserByEmail email passwordHash displayName username))
      (hfirst : ∀ other, (t, other) ∉ w.registered)
      (hcreated : w.accounts.createNewUserByEmail id email passwordHash displayName username =
        .ok (user, accounts)) :
      ServerMove P waits w { w with accounts := accounts, registered := w.registered ++ [(t, id)] }
  /-- An operator disables an account, or enables it. -/
  | setActive (id : Uuid) (active : Bool) :
      ServerMove P waits w { w with accounts := w.accounts.setActive id active }
  | clock (now : Time) : ServerMove P waits w { w with now := now }

/-- An exception, or what a transaction of this thread with the call has returned. -/
def Replied (t : ℕ) (w : ServerWorld) (op : ServerCall) (ans : Except Error op.Answer) : Prop :=
  (∃ error, ans = .error error) ∨ ∃ e ∈ w.clients.log, ∃ call reply a, ans = .ok a ∧
    op.transaction = some (call, reply) ∧ e.call = (some t, call) ∧ e.outcome = .returned (reply a)

/-- What the calls may answer. A refresh token is looked up in a state that has been committed, and
compared with the clock after that. A token may be such that its verification throws. Random tokens,
and the other queries, may be anything. -/
def Deployment.Answers (D : Deployment) (t : ℕ) (w : ServerWorld) :
    (op : ServerCall) → Except Error op.Answer → Prop
  | .verify accessToken, ans => (∃ error, ans = .error error) ∨ ∃ verified,
    ans = .ok (AccessTokenService.verify D.jwt D.secret verified w.now accessToken)
  | .generateAccessToken userId, ans =>
    ans = .ok (AccessTokenService.generateAccessToken D.jwt D.secret w.now userId)
  | .validate refreshToken, ans => (∃ error, ans = .error error) ∨ ∃ db ∈ w.store.past,
    ans = .ok ((RefreshTokenRepository.validate D.platform refreshToken w.now db).map Uuid.toString)
  | .str password, ans => ∃ salt, ans = .ok (D.hashing.str salt password)
  | .strVerify passwordHash password, ans => ans = .ok (D.hashing.strVerify passwordHash password)
  | .findLoginRecordByEmail email, ans =>
    (∃ error, ans = .error error) ∨ ans = .ok (w.accounts.findLoginRecordByEmail email)
  | .findLoginRecordByUserId userId, ans =>
    (∃ error, ans = .error error) ∨ ans = .ok (w.accounts.findLoginRecordByUserId userId)
  | .createNewUserByEmail email passwordHash _ _, ans => (∃ error, ans = .error error) ∨ ∃ user,
    ans = .ok (some user) ∧ (t, user.id) ∈ w.registered ∧
      (⟨user.id, cString email, cString passwordHash⟩ : CredentialRow) ∈ w.accounts.credentials
  | op, ans => op.transaction = none ∨ Replied t w op ans

/-- **The HTTP server**: it handles any requests, while the world moves. -/
def httpServer (D : Deployment) : Threads.System ServerWorld ServerCall.Answer Error HttpResponse where
  starts p := p = Server.HttpSession.handle (Server.router D.platform D.parser)
  moves := ServerMove D.platform
  answers := D.Answers

/-- Nothing has been requested, and nobody has an account. -/
def ServerWorld.initial (db₀ : Db) (now₀ : Time) : ServerWorld := ⟨.initial db₀, .empty, [], now₀⟩

/-- **What is relied on of the library** for the tokens, in a run: a token that was made is read back
with its claims, and a token that can be verified was made before. -/
structure Deployment.Reliable (D : Deployment) (history : List ServerRecord) : Prop where
  readable : ∀ g ∈ history, ∀ text token, g.event = ⟨.generateAccessToken text, .ok token⟩ →
    D.jwt.decode (utf8 token) = some (AccessTokenService.claims g.world.now text)
  unforged : ∀ before v after accessToken verified, history = before ++ v :: after →
    v.event.op = .verify accessToken → D.jwt.verify D.secret verified accessToken = true →
    ∃ g ∈ before, ∃ text token, g.event = ⟨.generateAccessToken text, .ok token⟩ ∧
      utf8 token = accessToken

/-! ### Every request is served on good grounds -/

variable {D : Deployment} {db₀ : Db} {now₀ : Time} {c : ServerRun}
  {history before after : List ServerRecord} {r : ServerRecord} {past past' : List ServerEvent}
  {parser : JsonParser}

theorem obeys_httpServer (p : Server HttpResponse) (hp : (httpServer D).starts p) :
    Obeys (Grounded D.parser) (TellsTruth HttpResponse.isSuccess) p [] := by
  obtain rfl := hp
  exact Server.serves_handle D.platform D.parser

/-- **The grounds of a call**, without what matters at the moment of the call only. -/
structure Entitled (parser : JsonParser) (past : List ServerEvent) (op : ServerCall) : Prop where
  actor : ∀ userId, op.actor = some userId → Authenticated past userId
  grounds : op.Grounds parser past

theorem MayRevoke.mono {myId deviceId : Uuid} (h : MayRevoke parser past myId deviceId)
    (hsub : past ⊆ past') : MayRevoke parser past' myId deviceId := by
  obtain ⟨request, password, passwordHash, hreceived, hread, hfound, hverified⟩ := h
  exact ⟨request, password, passwordHash, hsub hreceived, hread, hsub hfound, hsub hverified⟩

theorem MayRegister.mono {email passwordHash displayName username : String}
    (h : MayRegister parser past email passwordHash displayName username) (hsub : past ⊆ past') :
    MayRegister parser past' email passwordHash displayName username := by
  obtain ⟨request, fields, hreceived, hread, hemail, hname, husername, h₁, h₂, h₃, h₄, hhash⟩ := h
  exact ⟨request, fields, hsub hreceived, hread, hemail, hname, husername, h₁, h₂, h₃, h₄, hsub hhash⟩

theorem ServerCall.Grounds.mono {op : ServerCall} (h : op.Grounds parser past) (hsub : past ⊆ past')
    (hop : op ≠ .receive) : op.Grounds parser past' := by
  cases op with
  | receive => exact absurd rfl hop
  | generateAccessToken userId =>
    rcases h with ⟨refreshToken, hvalid⟩ | ⟨hash, refresh, device, registration, identity, huser, hdone⟩
    · exact Or.inl ⟨refreshToken, hsub hvalid⟩
    · exact Or.inr ⟨hash, refresh, device, registration, identity, huser, hsub hdone⟩
  | issue userId hash => exact LoggedIn.mono h hsub
  | createNewUserByEmail email hash name username => exact MayRegister.mono h hsub
  | revokeUserDevice myId deviceId => exact MayRevoke.mono h hsub
  | closeSession myId deviceId =>
    exact Or.imp (fun h => hsub h) (fun h => hsub h) h
  | createNewOnetimeKey userId deviceId batch => exact ⟨ActiveDevice.mono h.1 hsub, h.2⟩
  | getOneTimeKey myId friendId deviceId =>
    exact ⟨SelfOrFriend.mono h.1 hsub, ActiveDevice.mono h.2 hsub⟩
  | getUserDevicesByUserId myId friendId => exact SelfOrFriend.mono h hsub
  | pushToUser userId message =>
    obtain ⟨myId, text, record, hrequested, hmessage⟩ := h
    exact ⟨myId, text, record, hsub hrequested, hmessage⟩
  | _ => trivial

theorem Entitled.mono {op : ServerCall} (h : Entitled parser past op) (hsub : past ⊆ past')
    (hop : op ≠ .receive) : Entitled parser past' op :=
  ⟨fun userId huser => (h.actor userId huser).mono hsub, h.grounds.mono hsub hop⟩

theorem Grounded.entitled {op : ServerCall} (h : Grounded parser past op) : Entitled parser past op :=
  ⟨h.actor, h.grounds⟩

/-! ### What is accounted for -/

/-- The thread whose call it is was entitled to it; if it is nobody's, no request asks for it. -/
def AskedFor (parser : JsonParser) (history : List ServerRecord) : ClientCall → Prop
  | (some t, call) => ∃ op reply, op.transaction = some (call, reply) ∧
    Entitled parser (pastOf t history) op
  | (none, call) => call.isRequested = false

/-- A thread was entitled to register an account with these credentials. -/
def RegisteredBy (parser : JsonParser) (history : List ServerRecord) (row : CredentialRow) : Prop :=
  ∃ t email passwordHash displayName username,
    MayRegister parser (pastOf t history) email passwordHash displayName username ∧
      row.loginEmail = cString email ∧ row.passwordHash = cString passwordHash

/-- **Everything is accounted for**: what runs, or has run, in the store, and every account. -/
structure Accountable (D : Deployment) (db₀ : Db) (history : List ServerRecord) (w : ServerWorld) :
    Prop where
  reachable : Reachable (store D.platform fun _ _ => True) db₀ w.store
  calls : w.clients.CalledBy (AskedFor D.parser history)
  accounts : ∀ row ∈ w.accounts.credentials, RegisteredBy D.parser history row

theorem AskedFor.later {call : ClientCall} (h : AskedFor parser history call)
    (more : List ServerRecord) : AskedFor parser (history ++ more) call := by
  obtain ⟨_ | t, call⟩ := call
  · exact h
  · obtain ⟨op, reply, htransaction, hentitled⟩ := h
    refine ⟨op, reply, htransaction,
      hentitled.mono (Threads.pastOf_subset_append t history more) fun hop => ?_⟩
    subst hop
    cases htransaction

theorem RegisteredBy.later {row : CredentialRow} (h : RegisteredBy parser history row)
    (more : List ServerRecord) : RegisteredBy parser (history ++ more) row := by
  obtain ⟨t, email, passwordHash, displayName, username, hregister, hemail, hhash⟩ := h
  exact ⟨t, email, passwordHash, displayName, username,
    hregister.mono (Threads.pastOf_subset_append t history more), hemail, hhash⟩

/-- What the clients do are steps of the store. -/
theorem step_store {P : Platform} {s s' : ClientStore} (h : Step (clientStore P) s s') :
    Step (store P fun _ _ => True) (s.mapCalls Prod.snd) (s'.mapCalls Prod.snd) :=
  h.mapCalls fun _ _ _ => trivial

/-- A transaction that begins is one of the store. -/
theorem step_begin {P : Platform} {s : ClientStore} {n : ℕ} (call : ClientCall)
    (hnone : s.txns n = none) :
    Step (store P fun _ _ => True) (s.mapCalls Prod.snd)
      ((s.set n ⟨call, (clientStore P).body call, {}⟩).mapCalls Prod.snd) := by
  rw [Config.mapCalls_set]
  refine .start call.2 ?_ trivial
  show (s.txns n).map _ = none
  rw [hnone, Option.map_none]

/-- **The server keeps its accounts**, whatever happens. -/
theorem keeps_accountable (D : Deployment) (db₀ : Db) :
    Threads.Keeps (httpServer D) (Grounded D.parser) (Accountable D db₀) where
  answer history t w event h :=
    ⟨h.reachable, h.calls.mono fun call hcall => hcall.later _,
      fun row hrow => (h.accounts row hrow).later _⟩
  move history waits w w' h hwaits hmove := by
    cases hmove with
    | @begin t n op call reply hop htransaction hnone _ =>
      have hasked : AskedFor D.parser history (some t, call) :=
        ⟨op, reply, htransaction, (hwaits t op hop).entitled⟩
      exact ⟨h.reachable.tail (step_begin _ hnone), h.calls.set hasked _ _, h.accounts⟩
    | store hstep =>
      refine ⟨h.reachable.tail (step_store hstep), h.calls.step (fun _ call hcall => ?_) hstep, h.accounts⟩
      obtain ⟨_ | t, call⟩ := call
      · exact hcall.2
      · cases hcall.1
    | register hop _ hcreated =>
      refine ⟨h.reachable, h.calls, fun row hrow => ?_⟩
      rw [(Accounts.createNewUserByEmail_eq_ok hcreated).2.2] at hrow
      rcases List.mem_append.mp hrow with hrow | hrow
      · exact h.accounts row hrow
      · obtain rfl := List.mem_singleton.mp hrow
        exact ⟨_, _, _, _, _, (hwaits _ _ hop).grounds, rfl, rfl⟩
    | setActive id active => exact ⟨h.reachable, h.calls, h.accounts⟩
    | clock now => exact ⟨h.reachable, h.calls, h.accounts⟩

theorem accountable_initial (D : Deployment) (db₀ : Db) (now₀ : Time) :
    Accountable D db₀ [] (.initial db₀ now₀) :=
  ⟨.refl, .initial db₀, fun _ hrow => absurd hrow List.not_mem_nil⟩

/-- **Everything is accounted for** in every state. -/
theorem accountable_of_reachable
    (h : Threads.Reachable (httpServer D) (.initial db₀ now₀) c) :
    Accountable D db₀ c.history c.world :=
  Threads.world_of_reachable obeys_httpServer (keeps_accountable D db₀)
    (accountable_initial D db₀ now₀) h

/-- It was, whenever a call was answered. -/
theorem accountable_of_history (h : Threads.Reachable (httpServer D) (.initial db₀ now₀) c)
    (hhistory : c.history = before ++ r :: after) : Accountable D db₀ before r.world :=
  Threads.world_of_history obeys_httpServer (keeps_accountable D db₀)
    (accountable_initial D db₀ now₀) h hhistory

/-! ### What is run once -/

/-- **A call that can change the tables does so once**: a thread has one transaction for it, and makes
one account. -/
structure RunOnce (w : ServerWorld) : Prop where
  transactions : ∀ (t : ℕ) (op : ServerCall) (call : Call) (reply : op.Answer → Reply),
    op.isWrite = true → op.transaction = some (call, reply) → w.clients.Once (some t, call)
  accounts : (w.registered.map Prod.fst).Nodup

/-- A transaction is behind one kind of call only. -/
theorem isWrite_of_transaction {op op' : ServerCall} {call : Call} {reply : op.Answer → Reply}
    {reply' : op'.Answer → Reply} (h : op.transaction = some (call, reply))
    (h' : op'.transaction = some (call, reply')) : op.isWrite = op'.isWrite := by
  cases op <;> cases h <;> cases op' <;> first | rfl | cases h'

theorem keeps_runOnce (D : Deployment) :
    Threads.Keeps (httpServer D) (Grounded D.parser) fun _ w => RunOnce w where
  answer _ _ _ _ h := h
  move history waits w w' h _ hmove := by
    cases hmove with
    | @begin t n op call reply _ htransaction hnone hfirst =>
      refine ⟨fun u op' call' reply' hwrite' htransaction' => ?_, h.accounts⟩
      refine (h.transactions u op' call' reply' hwrite' htransaction').start hnone fun hsame => ?_
      obtain ⟨rfl, rfl⟩ : t = u ∧ call = call' := by simpa using hsame
      exact hfirst ((isWrite_of_transaction htransaction htransaction').trans hwrite')
    | store hstep =>
      refine ⟨fun t op call reply hwrite htransaction =>
        (h.transactions t op call reply hwrite htransaction).step (fun _ hcall => ?_) hstep, h.accounts⟩
      cases hcall.1
    | @register t _ _ _ _ _ _ _ _ hfirst _ =>
      refine ⟨h.transactions, ?_⟩
      rw [List.map_append, List.map_singleton]
      refine h.accounts.append (List.nodup_singleton _) fun u hu hmem => ?_
      obtain ⟨⟨u, id⟩, hid, rfl⟩ := List.mem_map.mp hu
      obtain rfl : u = t := List.mem_singleton.mp hmem
      exact hfirst id hid
    | setActive id active => exact ⟨h.transactions, h.accounts⟩
    | clock now => exact ⟨h.transactions, h.accounts⟩

/-- **It does so once**, in every state. -/
theorem runOnce_of_reachable (h : Threads.Reachable (httpServer D) (.initial db₀ now₀) c) :
    RunOnce c.world := by
  have hinitial : RunOnce (.initial db₀ now₀) :=
    ⟨fun t _ call _ _ _ => .initial db₀ (some t, call), List.nodup_nil⟩
  exact Threads.world_of_reachable obeys_httpServer (keeps_runOnce D) hinitial h

end ChatBackend
