import ChatBackend.Handler.Router

/-!
# On what grounds the server calls

What a request may make the server do, whoever sends it. A call that is made for a user needs that
user's access token in the request. What matters most needs more: a login ticket and a revocation need
a password that has been verified, keys and devices of others need a friendship, a token needs a login.
A request makes one change of the store at most; and its response says whether it has been made.

## Main definitions

* `Authenticated`, `ServerCall.Grounds`, `Grounded` — the grounds of a call
* `Settled`, `Unchanged`, `TellsTruth` — what a result says about the store

## Main results

* `serves_call`, `serves_map`, `serves_catch` — the rules for programs
-/

namespace ChatBackend

open Effects (Obeys)
open Server (perform)

/-! ### Grounds -/

/-- The call has been made, and has answered this. -/
def HasAnswered (past : List ServerEvent) (op : ServerCall) (ans : op.Answer) : Prop :=
  ⟨op, .ok ans⟩ ∈ past

/-- The request has an access token that has been found to be this user's. -/
def Authenticated (past : List ServerEvent) (userId : Uuid) : Prop :=
  ∃ request accessToken, HasAnswered past .receive request ∧
    AuthMiddleWare.accessTokenOf request = some accessToken ∧
    HasAnswered past (.verify accessToken) (.ok userId)

/-- The request is a login with the email and the password of this active account. -/
def LoggedIn (parser : JsonParser) (past : List ServerEvent) (userId : Uuid) : Prop :=
  ∃ request email password record, HasAnswered past .receive request ∧
    UserHandler.readLogin parser request.body = .ok (email, password) ∧
    HasAnswered past (.findLoginRecordByEmail
      (UserHandler.toLower (UserHandler.conversionInput email))) (some record) ∧
    HasAnswered past (.strVerify record.passwordHash
      (utf8 (UserHandler.conversionInput password))) true ∧
    record.id = userId ∧ record.isActive = true

/-- The request is a revocation of this device with the password of this user. -/
def MayRevoke (parser : JsonParser) (past : List ServerEvent) (myId deviceId : Uuid) : Prop :=
  ∃ request password passwordHash, HasAnswered past .receive request ∧
    UserHandler.readRevocation parser request.body = .ok (password, deviceId) ∧
    HasAnswered past (.findLoginRecordByUserId myId) (some passwordHash) ∧
    HasAnswered past (.strVerify passwordHash (utf8 password)) true

/-- The request is a registration with these fields, which have been checked. -/
def MayRegister (parser : JsonParser) (past : List ServerEvent)
    (email passwordHash displayName username : String) : Prop :=
  ∃ request fields, HasAnswered past .receive request ∧
    UserHandler.readRegistration parser request.body = .ok fields ∧
    email = UserHandler.toLower (UserHandler.conversionInput fields.email) ∧
    displayName = UserHandler.conversionInput fields.displayName ∧
    username = UserHandler.conversionInput fields.username ∧
    RegisterService.checkEmail email = true ∧
    RegisterService.checkPassword (UserHandler.conversionInput fields.password) = true ∧
    RegisterService.checkDisplayName displayName = true ∧
    RegisterService.checkUsername username = true ∧
    HasAnswered past (.str (utf8 (UserHandler.conversionInput fields.password))) (some passwordHash)

/-- The other user is oneself, or has been found to be a friend. -/
def SelfOrFriend (past : List ServerEvent) (myId friendId : Uuid) : Prop :=
  myId = friendId ∨ HasAnswered past (.verifyFriendShip myId friendId) true

/-- The device of the user has been found active. -/
def ActiveDevice (past : List ServerEvent) (userId deviceId : Uuid) : Prop :=
  ∃ device : Device, HasAnswered past (.findDeviceByDeviceId userId deviceId) (some device) ∧
    device.status = .active

/-- **What must have been found out** before a call is made. -/
def ServerCall.Grounds (parser : JsonParser) (past : List ServerEvent) : ServerCall → Prop
  | .receive => past = []
  | .generateAccessToken userId =>
    (∃ refreshToken, HasAnswered past (.validate refreshToken) (.ok userId)) ∨
      ∃ ticketHash refreshHash deviceId registration, ∃ identity : LoginTicketIdentity,
        userId = identity.userId.toString ∧ HasAnswered past
          (.complete ticketHash refreshHash deviceId registration) ⟨.success, some identity⟩
  | .issue userId _ => LoggedIn parser past userId
  | .createNewUserByEmail email passwordHash displayName username =>
    MayRegister parser past email passwordHash displayName username
  | .revokeUserDevice myId deviceId => MayRevoke parser past myId deviceId
  | .closeSession myId deviceId => HasAnswered past (.revokeUserDevice myId deviceId) .success ∨
    HasAnswered past (.revokeUserDevice myId deviceId) .alreadyRevoked
  | .createNewOnetimeKey userId deviceId prekeyRecord =>
    ActiveDevice past userId deviceId ∧ Server.KeyService.validBatch prekeyRecord = true
  | .getOneTimeKey myId friendId deviceId =>
    SelfOrFriend past myId friendId ∧ ActiveDevice past friendId deviceId
  | .getUserDevicesByUserId myId friendId => SelfOrFriend past myId friendId
  | .pushToUser userId message => ∃ myId text record,
    HasAnswered past (.createNewFriendship myId userId text) record ∧
      message = UserHandler.onlinePush record
  | _ => True

/-- No call has been made that can change the store. -/
def NoWrites (past : List ServerEvent) : Prop := ∀ e ∈ past, e.op.isWrite = false

/-- **A call has its grounds.** -/
structure Grounded (parser : JsonParser) (past : List ServerEvent) (op : ServerCall) : Prop where
  actor : ∀ userId, op.actor = some userId → Authenticated past userId
  /-- A request changes the store once at most. -/
  once : op.isWrite = true → NoWrites past
  grounds : op.Grounds parser past

/-! ### Results -/

/-- No call has thrown. -/
def Clean (past : List ServerEvent) : Prop := ∀ e ∈ past, ∃ ans, e.answer = .ok ans

/-- No call that could change the store has done so. -/
def Unchanged (past : List ServerEvent) : Prop :=
  ∀ e ∈ past, e.op.isWrite = true → ∃ ans, e.answer = .ok ans ∧ e.op.changed ans = false

/-- Every call that could change the store has done what it was to do, or it had been done. -/
def Settled (past : List ServerEvent) : Prop :=
  ∀ e ∈ past, e.op.isWrite = true → ∃ ans, e.answer = .ok ans ∧ e.op.settled ans = true

/-- **A result tells the truth** about the store. -/
def TellsTruth {α : Type} (good : α → Bool) (past : List ServerEvent) : Except Error α → Prop
  | .ok a => if good a then Settled past else Clean past → Unchanged past
  | .error _ => Clean past → Unchanged past

/-- A program calls on good grounds after what has been called before, and tells the truth. -/
abbrev Serves {α : Type} (parser : JsonParser) (good : α → Bool) (p : Server α)
    (past : List ServerEvent) : Prop := Obeys (Grounded parser) (TellsTruth good) p past

/-- The response says that the request was fulfilled. -/
def HttpResponse.isSuccess (response : HttpResponse) : Bool := response.status.code < 400

variable {parser : JsonParser} {past past' : List ServerEvent} {op : ServerCall} {ans : op.Answer}
  {e : ServerEvent} {α β : Type} {good : α → Bool} {good' : β → Bool}

/-! ### What comes later -/

theorem HasAnswered.mono (h : HasAnswered past op ans) (hsub : past ⊆ past') :
    HasAnswered past' op ans :=
  hsub h

theorem answered_concat (past : List ServerEvent) (op : ServerCall) (ans : op.Answer) :
    HasAnswered (past ++ [⟨op, .ok ans⟩]) op ans :=
  List.mem_append_right _ (List.mem_singleton_self _)

theorem Authenticated.mono {userId : Uuid} (h : Authenticated past userId) (hsub : past ⊆ past') :
    Authenticated past' userId := by
  obtain ⟨request, accessToken, hreceived, htoken, hverified⟩ := h
  exact ⟨request, accessToken, hsub hreceived, htoken, hsub hverified⟩

theorem SelfOrFriend.mono {myId friendId : Uuid} (h : SelfOrFriend past myId friendId)
    (hsub : past ⊆ past') : SelfOrFriend past' myId friendId :=
  h.imp_right fun hfriend => hsub hfriend

theorem ActiveDevice.mono {userId deviceId : Uuid} (h : ActiveDevice past userId deviceId)
    (hsub : past ⊆ past') : ActiveDevice past' userId deviceId := by
  obtain ⟨device, hdevice, hactive⟩ := h
  exact ⟨device, hsub hdevice, hactive⟩

theorem LoggedIn.mono {userId : Uuid} (h : LoggedIn parser past userId) (hsub : past ⊆ past') :
    LoggedIn parser past' userId := by
  obtain ⟨request, email, password, record, hreceived, hread, hfound, hverified, hrecord⟩ := h
  exact ⟨request, email, password, record, hsub hreceived, hread, hsub hfound, hsub hverified, hrecord⟩

theorem NoWrites.concat (h : NoWrites past) (he : e.op.isWrite = false) : NoWrites (past ++ [e]) := by
  intro x hx
  rcases List.mem_append.mp hx with hx | hx
  · exact h x hx
  · rw [List.mem_singleton.mp hx]
    exact he

/-- Something that holds of what has been called, if it does, and of the last call. -/
theorem Unchanged.concat (h : Unchanged past)
    (he : e.op.isWrite = true → ∃ ans, e.answer = .ok ans ∧ e.op.changed ans = false) :
    Unchanged (past ++ [e]) := by
  intro x hx
  rcases List.mem_append.mp hx with hx | hx
  · exact h x hx
  · obtain rfl := List.mem_singleton.mp hx
    exact he

theorem Settled.concat (h : Settled past)
    (he : e.op.isWrite = true → ∃ ans, e.answer = .ok ans ∧ e.op.settled ans = true) :
    Settled (past ++ [e]) := by
  intro x hx
  rcases List.mem_append.mp hx with hx | hx
  · exact h x hx
  · obtain rfl := List.mem_singleton.mp hx
    exact he

theorem NoWrites.unchanged (h : NoWrites past) : Unchanged past := by
  intro e he hwrite
  rw [h e he] at hwrite
  cases hwrite

theorem NoWrites.settled (h : NoWrites past) : Settled past := by
  intro e he hwrite
  rw [h e he] at hwrite
  cases hwrite

/-- A call that has thrown excuses everything. -/
theorem not_clean_concat {error : Error} : ¬ Clean (past ++ [⟨op, .error error⟩]) := by
  intro h
  obtain ⟨ans, hans⟩ := h _ (List.mem_append_right _ (List.mem_singleton_self _))
  cases hans

theorem NoWrites.truthful (h : NoWrites past) (good : α → Bool) (r : Except Error α) :
    TellsTruth good past r := by
  cases r with
  | error error => exact fun _ => h.unchanged
  | ok a =>
    rw [TellsTruth]
    split_ifs
    · exact h.settled
    · exact fun _ => h.unchanged

theorem Clean.of_concat (h : Clean (past ++ [e])) : Clean past :=
  fun x hx => h x (List.mem_append_left _ hx)

/-- A call that changes nothing leaves the truth as it is. -/
theorem TellsTruth.concat {r : Except Error α} (h : TellsTruth good past r)
    (he : e.op.isWrite = false) : TellsTruth good (past ++ [e]) r := by
  have hwrite {p : Prop} (htrue : e.op.isWrite = true) : p := by
    rw [he] at htrue
    cases htrue
  cases r with
  | error error => exact fun hclean => (h hclean.of_concat).concat fun htrue => hwrite htrue
  | ok a =>
    rw [TellsTruth] at h ⊢
    split_ifs at h ⊢ with hgood
    · exact h.concat fun htrue => hwrite htrue
    · exact fun hclean => (h hclean.of_concat).concat fun htrue => hwrite htrue

theorem truthful_of_settled {a : α} (hsettled : good a = true → Settled past)
    (hunchanged : good a = false → Unchanged past) : TellsTruth good past (.ok a) := by
  rw [TellsTruth]
  split_ifs with hgood
  · exact hsettled hgood
  · exact fun _ => hunchanged (Bool.eq_false_of_not_eq_true hgood)

theorem truthful_of_refused {a : α} (hgood : good a = false) (h : Clean past → Unchanged past) :
    TellsTruth good past (.ok a) := by
  rw [TellsTruth, hgood]
  exact h

/-! ### Rules -/

/-- A call that needs no grounds. -/
theorem grounded_of_plain (hactor : op.actor = none) (hwrite : op.isWrite = false)
    (hgrounds : op.Grounds parser past) : Grounded parser past op := by
  refine ⟨fun userId huser => ?_, fun h => ?_, hgrounds⟩
  · rw [hactor] at huser
    cases huser
  · rw [hwrite] at h
    cases h

/-- A query for the user. -/
theorem grounded_of_actor {userId : Uuid} (hauthenticated : Authenticated past userId)
    (hactor : op.actor = some userId) (hwrite : op.isWrite = false)
    (hgrounds : op.Grounds parser past) : Grounded parser past op := by
  refine ⟨fun user huser => ?_, fun h => ?_, hgrounds⟩
  · rw [hactor] at huser
    exact Option.some.inj huser ▸ hauthenticated
  · rw [hwrite] at h
    cases h

/-- The change of the store that a user asks for. -/
theorem grounded_of_write {userId : Uuid} (hauthenticated : Authenticated past userId)
    (hactor : op.actor = some userId) (hpast : NoWrites past) (hgrounds : op.Grounds parser past) :
    Grounded parser past op := by
  refine ⟨fun user huser => ?_, fun _ => hpast, hgrounds⟩
  rw [hactor] at huser
  exact Option.some.inj huser ▸ hauthenticated

/-- **One call, and what depends on its answer.** If it throws, nothing is promised. -/
theorem serves_call {f : op.Answer → Server α} (hop : Grounded parser past op)
    (hf : ∀ ans, Serves parser good (f ans) (past ++ [⟨op, .ok ans⟩])) :
    Serves parser good ((perform op).bind f) past := by
  refine ⟨hop, fun ans => ?_⟩
  cases ans with
  | ok ans => exact hf ans
  | error error => exact fun hclean => absurd hclean not_clean_concat

/-- **A change of the store**, the only one, and its answer. -/
theorem serves_write {good : op.Answer → Bool} (hop : Grounded parser past op)
    (hpast : NoWrites past) (hsettled : ∀ ans, good ans = true → op.settled ans = true)
    (hchanged : ∀ ans, good ans = false → op.changed ans = false) :
    Serves parser good (perform op) past := by
  refine ⟨hop, fun ans => ?_⟩
  cases ans with
  | ok ans =>
    refine truthful_of_settled (fun hgood => ?_) fun hgood => ?_
    · exact hpast.settled.concat fun _ => ⟨ans, rfl, hsettled ans hgood⟩
    · exact hpast.unchanged.concat fun _ => ⟨ans, rfl, hchanged ans hgood⟩
  | error error => exact fun hclean => absurd hclean not_clean_concat

/-- **What is made of a result**: it says the same. -/
theorem serves_bind_of {p : Server α} {f : α → Server β} (h : Serves parser good p past)
    (hf : ∀ a past, TellsTruth good past (.ok a) → Serves parser good' (f a) past) :
    Serves parser good' (p.bind f) past := by
  refine Effects.obeys_bind (h.mono fun past r hr => ?_)
  cases r with
  | ok a => exact hf a past hr
  | error error => exact hr

theorem truthful_congr {a : α} {b : β} (hgood : good' b = good a) (h : TellsTruth good past (.ok a)) :
    TellsTruth good' past (.ok b) := by
  rw [TellsTruth] at h ⊢
  rwa [hgood]

theorem serves_map {p : Server α} {f : α → β} (h : Serves parser good p past)
    (hf : ∀ a, good' (f a) = good a) : Serves parser good' (p.bind fun a => .ret (f a)) past :=
  serves_bind_of h fun a _ ha => truthful_congr (hf a) ha

/-- A result of which no success can be made is an exception. -/
theorem serves_mapExcept {p : Server α} {f : α → Except Error β} (h : Serves parser good p past)
    (hok : ∀ a b, f a = .ok b → good' b = good a) (herror : ∀ a e, f a = .error e → good a = false) :
    Serves parser good' (p.bind fun a => .ofExcept (f a)) past := by
  refine serves_bind_of h fun a past' ha => ?_
  cases hfa : f a with
  | ok b => exact truthful_congr (hok a b hfa) ha
  | error error =>
    rw [TellsTruth, herror a error hfa] at ha
    exact ha

/-- **What is made of an exception.** -/
theorem serves_catch_of {p : Server α} {handler : Error → Server α} (h : Serves parser good p past)
    (hhandler : ∀ error past, (Clean past → Unchanged past) →
      Serves parser good (handler error) past) : Serves parser good (p.tryCatch handler) past := by
  refine Effects.obeys_tryCatch (h.mono fun past r hr => ?_)
  cases r with
  | ok a => exact hr
  | error error => exact hhandler error past hr

/-- It is no success, or another exception. -/
theorem serves_catch {p : Server α} {handler : Error → Server α} (h : Serves parser good p past)
    (hhandler : ∀ error, (∃ a, handler error = .ret a ∧ good a = false) ∨
      ∃ error', handler error = .throw error') : Serves parser good (p.tryCatch handler) past := by
  refine serves_catch_of h fun error past hr => ?_
  obtain ⟨a, ha, hgood⟩ | ⟨error', herror⟩ := hhandler error
  · rw [ha]
    exact truthful_of_refused hgood hr
  · rw [herror]
    exact hr

/-- Every exception becomes such a response. -/
theorem serves_catchAll {p : Server α} {failure : Error → α} (h : Serves parser good p past)
    (hfailure : ∀ error, good (failure error) = false) :
    Serves parser good (p.tryCatch fun error => .ret (failure error)) past :=
  serves_catch h fun error => Or.inl ⟨_, rfl, hfailure error⟩

/-- Before anything has been changed, a result needs no grounds. -/
theorem serves_ret (h : NoWrites past) (a : α) : Serves parser good (.ret a) past :=
  h.truthful good (.ok a)

theorem serves_throw (h : NoWrites past) (error : Error) : Serves parser good (.throw error) past :=
  h.truthful good (.error error)

end ChatBackend
