import ChatBackend.Auth.Grounds

/-!
# Every request is served on good grounds

The rules of `Grounds`, applied: to the services, to the handlers, and to the routes of the server.
What a handler may rely on is that the request has been read, and behind a protected route that its
access token is the user's; nothing has been changed so far.

## Main definitions

* `Router.Sound` — all handlers of a router serve on good grounds

## Main results

* `serves_handle` — every request is served on good grounds, and its response tells the truth
-/

namespace ChatBackend

open Effects (Obeys)
open Server (perform)

variable {P : Platform} {parser : JsonParser} {past : List ServerEvent} {request : HttpRequest}
  {userId friendId deviceId : Uuid} {α : Type} {good : α → Bool}

namespace Server

/-! ### Login tickets -/

theorem serves_issue (hpast : NoWrites past) (hlogin : LoggedIn parser past userId) :
    Serves parser Option.isSome (LoginTicketService.issue P userId) past := by
  refine serves_call (grounded_of_plain rfl rfl trivial) fun ticket => ?_
  have hlater : NoWrites (past ++ [⟨.generateTicket, .ok ticket⟩]) := hpast.concat rfl
  have hserved : Serves parser (fun issued : Bool => issued)
      (perform (.issue userId (ChatBackend.LoginTicketService.hashTicket P ticket)))
      (past ++ [⟨.generateTicket, .ok ticket⟩]) := by
    refine serves_write ⟨fun _ hactor => ?_, fun _ => hlater, ?_⟩ hlater (fun _ => id) fun _ => id
    · cases hactor
    · exact hlogin.mono (List.subset_append_left _ _)
  refine serves_map hserved fun issued => ?_
  cases issued <;> rfl

/-- Has the login been completed? -/
def isCompleted (login : CompletedLogin) : Bool :=
  login.result.status = .success ∧ login.result.identity.isSome

/-- What follows the transaction. -/
theorem serves_completed (hpast : NoWrites past) {refreshToken ticketHash refreshHash : String}
    {device : Option Uuid} {registration : Option DeviceRegistrationInput}
    (result : LoginTicketResult) :
    Serves parser isCompleted (LoginTicketService.completed refreshToken result)
      (past ++ [⟨.complete ticketHash refreshHash device registration, .ok result⟩]) := by
  obtain ⟨status, identity⟩ := result
  rw [LoginTicketService.completed]
  split_ifs with hstatus
  · refine truthful_of_settled (fun hgood => absurd (of_decide_eq_true hgood).1 hstatus) fun _ => ?_
    exact hpast.unchanged.concat fun _ => ⟨_, rfl, decide_eq_false fun h => hstatus h.1⟩
  · obtain rfl : status = .success := not_not.mp hstatus
    cases identity with
    | none =>
      exact fun _ => hpast.unchanged.concat fun _ => ⟨_, rfl, by simp [ServerCall.changed]⟩
    | some identity =>
      have hgrounds : ServerCall.Grounds parser (past ++ [⟨.complete ticketHash refreshHash device
          registration, .ok ⟨.success, some identity⟩⟩])
          (.generateAccessToken identity.userId.toString) :=
        Or.inr ⟨_, _, _, _, identity, rfl, answered_concat _ _ _⟩
      refine serves_call (grounded_of_plain rfl rfl hgrounds) fun accessToken => ?_
      refine truthful_of_settled (fun _ => ?_) fun hgood => ?_
      · refine (hpast.settled.concat fun _ => ⟨_, rfl, ?_⟩).concat fun hwrite => ?_
        · simp [ServerCall.settled, ServerCall.changed]
        · cases hwrite
      · simp [isCompleted] at hgood

theorem serves_complete (hpast : NoWrites past) {ticket : String} {device : Option Uuid}
    {registration : Option DeviceRegistrationInput} :
    Serves parser isCompleted (LoginTicketService.complete P ticket device registration) past := by
  rw [LoginTicketService.complete]
  split_ifs with hvalid
  · exact serves_ret hpast _
  · refine serves_call (grounded_of_plain rfl rfl trivial) fun refreshToken => ?_
    have hlater : NoWrites (past ++ [⟨.generateRefreshToken, .ok refreshToken⟩]) := hpast.concat rfl
    refine serves_call ⟨fun _ hactor => ?_, fun _ => hlater, trivial⟩ fun result => ?_
    · cases hactor
    · exact serves_completed hlater result

theorem serves_verifyDevice (hpast : NoWrites past) {ticket : String} :
    Serves parser isCompleted (LoginTicketService.verifyDevice P ticket deviceId) past := by
  rw [LoginTicketService.verifyDevice]
  split_ifs with hnil
  · exact serves_ret hpast _
  · exact serves_complete hpast

/-- The response to a login says what has become of it. -/
theorem serves_loginTicketResponse {p : Server CompletedLogin} (h : Serves parser isCompleted p past)
    (registered : Bool) : Serves parser HttpResponse.isSuccess
      (p.bind fun login => .ofExcept (loginTicketResponse login registered)) past := by
  refine serves_mapExcept h (fun login response hresponse => ?_) fun login error herror => ?_
  · obtain ⟨⟨status, identity⟩, accessToken, refreshToken⟩ := login
    rw [loginTicketResponse] at hresponse
    cases status with
    | success =>
      cases identity with
      | none => cases hresponse
      | some identity =>
        obtain rfl := Except.ok.inj hresponse
        cases registered <;> rfl
    | invalidTicket => obtain rfl := Except.ok.inj hresponse; rfl
    | accountDisabled => obtain rfl := Except.ok.inj hresponse; rfl
    | deviceNotFound => obtain rfl := Except.ok.inj hresponse; rfl
    | deviceNotOwned => obtain rfl := Except.ok.inj hresponse; rfl
    | deviceNotActive => obtain rfl := Except.ok.inj hresponse; rfl
  · obtain ⟨⟨status, identity⟩, accessToken, refreshToken⟩ := login
    rw [loginTicketResponse] at herror
    cases status with
    | success =>
      cases identity with
      | none => rfl
      | some identity => cases herror
    | invalidTicket => cases herror
    | accountDisabled => cases herror
    | deviceNotFound => cases herror
    | deviceNotOwned => cases herror
    | deviceNotActive => cases herror

/-! ### Accounts -/

/-- Has a ticket been issued? -/
def hasTicket (result : LoginServiceResult) : Bool :=
  result.login = .success ∧ result.loginTicket.isSome

theorem serves_loginByEmail (hpast : NoWrites past) (hreceived : HasAnswered past .receive request)
    {email password : String}
    (hread : ChatBackend.UserHandler.readLogin parser request.body = .ok (email, password)) :
    Serves parser hasTicket (LoginService.loginByEmail P
      (ChatBackend.UserHandler.toLower (ChatBackend.UserHandler.conversionInput email))
      (ChatBackend.UserHandler.conversionInput password)) past := by
  refine serves_call (grounded_of_plain rfl rfl trivial) fun found => ?_
  have hfound : NoWrites (past ++ [⟨.findLoginRecordByEmail _, .ok found⟩]) := hpast.concat rfl
  cases found with
  | none => exact serves_ret hfound _
  | some record =>
    refine serves_call (grounded_of_plain rfl rfl trivial) fun verified => ?_
    have hverified := hfound.concat (e := ⟨.strVerify record.passwordHash _, .ok verified⟩) rfl
    split_ifs with hwrong hinactive
    · exact serves_ret hverified _
    · exact serves_ret hverified _
    · obtain rfl : verified = true := Bool.eq_true_of_not_eq_false hwrong
      have hlogin : LoggedIn parser _ record.id :=
        ⟨request, email, password, record, List.mem_append_left _ (List.mem_append_left _ hreceived),
          hread, List.mem_append_left _ (answered_concat past _ _), answered_concat _ _ _, rfl,
          Bool.eq_true_of_not_eq_false hinactive⟩
      refine serves_bind_of (serves_issue hverified hlogin) fun ticket past' hticket => ?_
      cases ticket with
      | none => exact truthful_congr rfl hticket
      | some ticket => exact truthful_congr rfl hticket

/-- Has the user been created? -/
def isCreated (result : Except RegisterError User) : Bool := result.toOption.isSome

theorem serves_registerUserByEmail (hpast : NoWrites past)
    (hreceived : HasAnswered past .receive request) {fields : ChatBackend.UserHandler.Registration}
    (hread : ChatBackend.UserHandler.readRegistration parser request.body = .ok fields)
    {email password displayName username : String}
    (hemail : email = ChatBackend.UserHandler.toLower
      (ChatBackend.UserHandler.conversionInput fields.email))
    (hpassword : password = ChatBackend.UserHandler.conversionInput fields.password)
    (hdisplayName : displayName = ChatBackend.UserHandler.conversionInput fields.displayName)
    (husername : username = ChatBackend.UserHandler.conversionInput fields.username) :
    Serves parser isCreated
      (RegisterService.registerUserByEmail email password displayName username) past := by
  rw [RegisterService.registerUserByEmail]
  split_ifs with hcheckEmail hcheckPassword hcheckDisplayName hcheckUsername
  · exact serves_ret hpast _
  · exact serves_ret hpast _
  · exact serves_ret hpast _
  · exact serves_ret hpast _
  refine serves_catch (serves_call (grounded_of_plain rfl rfl trivial) fun hash => ?_) fun error => ?_
  · have hlater : NoWrites (past ++ [⟨.str (utf8 password), .ok hash⟩]) := hpast.concat rfl
    cases hash with
    | none => exact serves_throw hlater _
    | some hash =>
      have hserved : Serves parser Option.isSome
          (perform (.createNewUserByEmail email hash displayName username))
          (past ++ [⟨.str (utf8 password), .ok (some hash)⟩]) := by
        refine serves_write ⟨fun _ hactor => ?_, fun _ => hlater, ?_⟩ hlater (fun _ => id) ?_
        · cases hactor
        · subst hpassword
          exact ⟨request, fields, List.mem_append_left _ hreceived, hread, hemail, hdisplayName,
            husername, Bool.eq_true_of_not_eq_false hcheckEmail,
            Bool.eq_true_of_not_eq_false hcheckPassword,
            Bool.eq_true_of_not_eq_false hcheckDisplayName,
            Bool.eq_true_of_not_eq_false hcheckUsername, answered_concat _ _ _⟩
        · exact fun _ => id
      refine serves_bind_of hserved fun user past' huser => ?_
      cases user with
      | none => exact truthful_congr rfl huser
      | some user => exact truthful_congr rfl huser
  · cases error with
    | database error =>
      rw [RegisterService.refused]
      cases ChatBackend.RegisterService.registerError error with
      | none => exact Or.inr ⟨_, rfl⟩
      | some reason => exact Or.inl ⟨_, rfl, rfl⟩
    | _ => exact Or.inr ⟨_, rfl⟩

/-! ### Friendships -/

/-- What is known of a friend request that has been stored. -/
def Requested (past : List ServerEvent) (myId friendId : Uuid) (message : String) :
    Except Error (Option FriendshipRequestRecord) → Prop
  | .ok (some record) =>
    Settled past ∧ HasAnswered past (.createNewFriendship myId friendId message) record
  | _ => Clean past → Unchanged past

theorem obeys_requestFriendship (hpast : NoWrites past) (hactor : Authenticated past userId)
    (message : String) : Obeys (Grounded parser)
      (fun past => Requested past userId friendId message)
      (UserService.requestFriendship userId friendId message) past := by
  refine Effects.obeys_tryCatch ⟨grounded_of_write hactor rfl hpast trivial, fun ans => ?_⟩
  cases ans with
  | ok record => exact ⟨hpast.settled.concat fun _ => ⟨_, rfl, rfl⟩, answered_concat _ _ _⟩
  | error error =>
    show Obeys _ _ (UserService.alreadyRequested error) _
    cases error with
    | database error =>
      rw [UserService.alreadyRequested]
      split_ifs
      · exact fun hclean => absurd hclean not_clean_concat
      · exact fun hclean => absurd hclean not_clean_concat
    | _ => exact fun hclean => absurd hclean not_clean_concat

/-- The notification changes nothing any more, and its failure does not either. -/
theorem serves_notify {message : String} {record : FriendshipRequestRecord}
    (h : Requested past userId friendId message (.ok (some record))) :
    Serves parser HttpResponse.isSuccess (UserHandler.notify friendId record) past := by
  obtain ⟨hsettled, hanswered⟩ := h
  have hok (ans : Except Error Unit) : TellsTruth HttpResponse.isSuccess
      (past ++ [⟨.pushToUser friendId (ChatBackend.UserHandler.onlinePush record), ans⟩])
      (.ok ⟨.ok, [], []⟩) := by
    refine truthful_of_settled (fun _ => hsettled.concat fun hwrite => ?_) fun hgood => ?_
    · cases hwrite
    · cases hgood
  refine Effects.obeys_tryCatch ⟨grounded_of_plain rfl rfl ⟨_, _, record, hanswered, rfl⟩,
    fun ans => ?_⟩
  cases ans with
  | ok ans => exact hok _
  | error error => exact hok _

/-- Has the request the status that it was to get? -/
def isProcessed (result : FriendRequestProcessResult) : Bool :=
  result = .success ∨ result = .alreadyProcessed

theorem serves_processFriendshipRequest (hpast : NoWrites past) (hactor : Authenticated past userId)
    (requestId : Uuid) (process : String) : Serves parser isProcessed
      (UserService.processFriendshipRequest userId requestId process) past := by
  rw [UserService.processFriendshipRequest]
  cases UserService.action process with
  | none => exact serves_ret hpast _
  | some action =>
    refine serves_write (grounded_of_write hactor rfl hpast trivial) hpast (fun _ => id) ?_
    exact fun ans hans => decide_eq_false fun hsuccess => of_decide_eq_false hans (Or.inl hsuccess)

/-! ### Revoking a device -/

/-- What is known of a revocation. -/
def Revoked (past : List ServerEvent) (myId deviceId : Uuid) :
    Except Error (Except UserServiceErrorCode Bool) → Prop
  | .ok (.ok true) => Settled past ∧ HasAnswered past (.revokeUserDevice myId deviceId) .success
  | .ok (.error .revokedDevice) =>
    Settled past ∧ HasAnswered past (.revokeUserDevice myId deviceId) .alreadyRevoked
  | _ => Clean past → Unchanged past

theorem obeys_revokeUserDevice (hpast : NoWrites past) (hactor : Authenticated past userId)
    (hreceived : HasAnswered past .receive request) {password : String}
    (hread : ChatBackend.UserHandler.readRevocation parser request.body = .ok (password, deviceId)) :
    Obeys (Grounded parser)
      (fun past r => Authenticated past userId ∧ Revoked past userId deviceId r)
      (UserService.revokeUserDevice userId deviceId password) past := by
  have hthrew {past : List ServerEvent} {op : ServerCall} {error : Error}
      (hactor : Authenticated past userId) :
      Authenticated (past ++ [⟨op, .error error⟩]) userId ∧
        Revoked (past ++ [⟨op, .error error⟩]) userId deviceId (.error error) :=
    ⟨hactor.mono (List.subset_append_left _ _), fun hclean => absurd hclean not_clean_concat⟩
  refine ⟨grounded_of_actor hactor rfl rfl trivial, fun found => ?_⟩
  cases found with
  | error error => exact hthrew hactor
  | ok found =>
    have hactor₁ := hactor.mono
      (List.subset_append_left past [⟨.findLoginRecordByUserId userId, .ok found⟩])
    have hpast₁ := hpast.concat (e := ⟨.findLoginRecordByUserId userId, .ok found⟩) rfl
    cases found with
    | none => exact ⟨hactor₁, fun _ => hpast₁.unchanged⟩
    | some passwordHash =>
      refine ⟨grounded_of_plain rfl rfl trivial, fun verified => ?_⟩
      cases verified with
      | error error => exact hthrew hactor₁
      | ok verified =>
        have hactor₂ := hactor₁.mono (List.subset_append_left _
          [⟨.strVerify passwordHash (utf8 password), .ok verified⟩])
        have hpast₂ := hpast₁.concat
          (e := ⟨.strVerify passwordHash (utf8 password), .ok verified⟩) rfl
        cases verified with
        | false => exact ⟨hactor₂, fun _ => hpast₂.unchanged⟩
        | true =>
          have hgrounds : MayRevoke parser _ userId deviceId :=
            ⟨request, password, passwordHash,
              List.mem_append_left _ (List.mem_append_left _ hreceived), hread,
              List.mem_append_left _ (answered_concat past _ _), answered_concat _ _ _⟩
          refine ⟨grounded_of_write hactor₂ rfl hpast₂ hgrounds, fun result => ?_⟩
          cases result with
          | error error => exact hthrew hactor₂
          | ok result =>
            refine ⟨hactor₂.mono (List.subset_append_left _ _), ?_⟩
            have hunchanged (hresult : result ≠ .success) :
                Unchanged (_ ++ [⟨.revokeUserDevice userId deviceId, .ok result⟩]) :=
              hpast₂.unchanged.concat fun _ => ⟨result, rfl, decide_eq_false hresult⟩
            cases result with
            | success =>
              exact ⟨hpast₂.settled.concat fun _ => ⟨_, rfl, rfl⟩, answered_concat _ _ _⟩
            | alreadyRevoked =>
              exact ⟨hpast₂.settled.concat fun _ => ⟨_, rfl, rfl⟩, answered_concat _ _ _⟩
            | deviceNotFound => exact fun _ => hunchanged (by simp)
            | notYourDevice => exact fun _ => hunchanged (by simp)
            | deviceNotActive => exact fun _ => hunchanged (by simp)

/-! ### Keys -/

/-- Friendship is verified for the user, unless it is about the user. -/
theorem serves_isSelfOrFriend {f : Bool → Server α} (hpast : NoWrites past)
    (hactor : Authenticated past userId)
    (hf : ∀ allowed past', past ⊆ past' → NoWrites past' →
      (allowed = true → SelfOrFriend past' userId friendId) → Serves parser good (f allowed) past') :
    Serves parser good ((KeyService.isSelfOrFriend userId friendId).bind f) past := by
  rw [KeyService.isSelfOrFriend]
  split_ifs with hself
  · exact hf true past (List.Subset.refl _) hpast fun _ => Or.inl hself
  · refine serves_call (grounded_of_actor hactor rfl rfl trivial) fun allowed => ?_
    refine hf allowed _ (List.subset_append_left _ _) (hpast.concat rfl) fun hallowed => ?_
    subst hallowed
    exact Or.inr (answered_concat _ _ _)

/-- So is a device. -/
theorem serves_isActiveDevice {f : Bool → Server α} (hpast : NoWrites past)
    (hf : ∀ active past', past ⊆ past' → NoWrites past' →
      (active = true → ActiveDevice past' userId deviceId) → Serves parser good (f active) past') :
    Serves parser good ((KeyService.isActiveDevice userId deviceId).bind f) past := by
  refine ⟨grounded_of_plain rfl rfl trivial, fun found => ?_⟩
  cases found with
  | error error => exact fun hclean => absurd hclean not_clean_concat
  | ok found =>
    refine hf _ _ (List.subset_append_left _ _) (hpast.concat rfl) fun hactive => ?_
    obtain ⟨device, rfl, hstatus⟩ := (Option.any_eq_true _ _).mp hactive
    exact ⟨device, answered_concat _ _ _, of_decide_eq_true hstatus⟩

theorem serves_fetchUserDevices (hpast : NoWrites past) (hactor : Authenticated past userId) :
    Serves parser Option.isSome (KeyService.fetchUserDevices userId friendId) past := by
  refine serves_isSelfOrFriend hpast hactor fun allowed past' hsub hpast' hallowed => ?_
  split_ifs with hrefused
  · exact serves_ret hpast' _
  · have hfriend := hallowed (Bool.eq_true_of_not_eq_false hrefused)
    refine serves_call (grounded_of_actor (hactor.mono hsub) rfl rfl hfriend) fun devices => ?_
    exact serves_ret (hpast'.concat rfl) _

theorem serves_uploadOneTimePrekeys (hpast : NoWrites past) (hactor : Authenticated past userId)
    (prekeys : List (ℤ × String)) : Serves parser (fun uploaded : Bool => uploaded)
      (KeyService.uploadOneTimePrekeys userId deviceId prekeys) past := by
  rw [KeyService.uploadOneTimePrekeys]
  split_ifs with hcount hinvalid
  · exact serves_throw hpast _
  · exact serves_throw hpast _
  · refine serves_isActiveDevice hpast fun active past' hsub hpast' hactive => ?_
    split_ifs with hrefused
    · exact serves_ret hpast' _
    · have hgrounds := hactive (Bool.eq_true_of_not_eq_false hrefused)
      exact serves_write (grounded_of_write (hactor.mono hsub) rfl hpast'
        ⟨hgrounds, Bool.eq_true_of_not_eq_false hinvalid⟩) hpast' (fun _ => id) fun _ => id

/-- Has a key been claimed? -/
def isClaimed (result : PrekeyClaimResult) : Bool :=
  result.status = .success ∧ result.prekey.isSome

theorem serves_getOneTimePrekey (hpast : NoWrites past) (hactor : Authenticated past userId) :
    Serves parser isClaimed (KeyService.getOneTimePrekey userId friendId deviceId) past := by
  refine serves_isSelfOrFriend hpast hactor fun allowed past₁ hsub₁ hpast₁ hallowed => ?_
  split_ifs with hrefused
  · exact serves_ret hpast₁ _
  · have hfriend := hallowed (Bool.eq_true_of_not_eq_false hrefused)
    refine serves_isActiveDevice hpast₁ fun active past₂ hsub₂ hpast₂ hactive => ?_
    split_ifs with hunavailable
    · exact serves_ret hpast₂ _
    · have hdevice := hactive (Bool.eq_true_of_not_eq_false hunavailable)
      exact serves_write (grounded_of_write ((hactor.mono hsub₁).mono hsub₂) rfl hpast₂
        ⟨hfriend.mono hsub₂, hdevice⟩) hpast₂ (fun _ => id) fun _ => id

end Server

/-! ### Responses -/

theorem isSuccess_failure (code message : String) (error : Error) :
    (ChatHandler.failure code message error).isSuccess = false := by
  cases error with
  | database error =>
    rw [ChatHandler.failure]
    split_ifs <;> rfl
  | _ => rfl

theorem isSuccess_uploadFailure (error : Error) :
    (ChatHandler.uploadFailure error).isSuccess = false := by
  cases error with
  | database error =>
    rw [ChatHandler.uploadFailure]
    split_ifs
    · rfl
    · exact isSuccess_failure _ _ _
  | _ => exact isSuccess_failure _ _ _

theorem isSuccess_verificationFailure (error : Error) :
    (UserHandler.verificationFailure error).isSuccess = false := by
  cases error with
  | database error =>
    rw [UserHandler.verificationFailure]
    split_ifs <;> rfl
  | _ => rfl

theorem isSuccess_loginResponse_error (error : Error) :
    (UserHandler.loginResponse (.error error)).isSuccess = false := by
  cases error with
  | database error =>
    rw [UserHandler.loginResponse]
    split_ifs <;> rfl
  | _ => rfl

theorem isSuccess_revocationResponse_error (error : Error) :
    (UserHandler.revocationResponse deviceId false (.error error)).isSuccess = false := by
  cases error with
  | database error =>
    rw [UserHandler.revocationResponse]
    split_ifs <;> rfl
  | _ => rfl

theorem isSuccess_failureResponse (error : Error) : (failureResponse error).isSuccess = false := by
  cases error with
  | database error =>
    rw [failureResponse]
    cases error.kind <;> rfl
  | _ => rfl

theorem isSuccess_claimResponse {result : PrekeyClaimResult} {response : HttpResponse}
    (h : ChatHandler.claimResponse userId friendId result = .ok response) :
    response.isSuccess = Server.isClaimed result := by
  obtain ⟨status, prekey⟩ := result
  cases status with
  | success =>
    cases prekey with
    | none => cases h
    | some prekey =>
      obtain rfl := Except.ok.inj h
      rfl
  | notFriends => obtain rfl := Except.ok.inj h; rfl
  | deviceUnavailable => obtain rfl := Except.ok.inj h; rfl
  | noPrekey => obtain rfl := Except.ok.inj h; rfl

theorem isClaimed_of_error {result : PrekeyClaimResult} {error : Error}
    (h : ChatHandler.claimResponse userId friendId result = .error error) :
    Server.isClaimed result = false := by
  obtain ⟨status, prekey⟩ := result
  cases status with
  | success =>
    cases prekey with
    | none => rfl
    | some prekey => cases h
  | notFriends => cases h
  | deviceUnavailable => cases h
  | noPrekey => cases h

/-! ### Handlers -/

namespace Server

theorem serves_catchDatabase {handled : Server HttpResponse} {failure : Error → HttpResponse}
    (h : Serves parser HttpResponse.isSuccess handled past)
    (hfailure : ∀ error, (failure error).isSuccess = false) :
    Serves parser HttpResponse.isSuccess (catchDatabase handled failure) past := by
  refine serves_catch h fun error => ?_
  cases error with
  | database error => exact Or.inl ⟨_, rfl, hfailure _⟩
  | _ => exact Or.inr ⟨_, rfl⟩

theorem serves_registerDevice (hpast : NoWrites past) :
    Serves parser HttpResponse.isSuccess (ChatHandler.registerNewDevice P parser request) past := by
  rw [ChatHandler.registerNewDevice]
  cases ChatBackend.ChatHandler.registerNewDevice parser request.body with
  | error response => exact serves_ret hpast _
  | ok fields =>
    exact serves_catchAll (serves_loginTicketResponse (serves_complete hpast) true)
      (isSuccess_failure _ _)

theorem serves_upload (hpast : NoWrites past) (hactor : Authenticated past userId) :
    Serves parser HttpResponse.isSuccess
      (ChatHandler.uploadOneTimePrekeys parser request userId) past := by
  rw [ChatHandler.uploadOneTimePrekeys]
  cases ChatBackend.ChatHandler.readUpload parser request.body with
  | error response => exact serves_ret hpast _
  | ok fields =>
    refine serves_catchAll (serves_map (serves_uploadOneTimePrekeys hpast hactor _) fun uploaded => ?_)
      isSuccess_uploadFailure
    cases uploaded <;> rfl

theorem serves_claim (hpast : NoWrites past) (hactor : Authenticated past userId) :
    Serves parser HttpResponse.isSuccess
      (ChatHandler.getOneTimePrekey parser request userId) past := by
  rw [ChatHandler.getOneTimePrekey]
  cases ChatBackend.ChatHandler.readTargetDevice parser request.body userId with
  | error response => exact serves_ret hpast _
  | ok fields =>
    refine serves_catchAll (serves_mapExcept (serves_getOneTimePrekey hpast hactor)
      (fun _ _ => isSuccess_claimResponse) fun _ _ => isClaimed_of_error) (isSuccess_failure _ _)

theorem serves_devices (hpast : NoWrites past) (hactor : Authenticated past userId) :
    Serves parser HttpResponse.isSuccess
      (ChatHandler.fetchUserDevices parser request userId) past := by
  rw [ChatHandler.fetchUserDevices]
  cases ChatBackend.ChatHandler.readDeviceOwner parser request userId with
  | error response => exact serves_ret hpast _
  | ok friendId =>
    refine serves_catchAll (serves_map (serves_fetchUserDevices hpast hactor) fun devices => ?_)
      (isSuccess_failure _ _)
    cases devices <;> rfl

theorem serves_bundle (hpast : NoWrites past) (hactor : Authenticated past userId) :
    Serves parser HttpResponse.isSuccess
      (ChatHandler.getDeviceKeyBundle parser request userId) past := by
  rw [ChatHandler.getDeviceKeyBundle]
  cases ChatBackend.ChatHandler.readTargetDevice parser request.body userId with
  | error response => exact serves_ret hpast _
  | ok fields =>
    refine serves_catchAll (serves_call (grounded_of_actor hactor rfl rfl trivial) fun bundle => ?_)
      (isSuccess_failure _ _)
    exact serves_ret (hpast.concat rfl) _

theorem serves_verifyRefreshToken (hpast : NoWrites past) :
    Serves parser HttpResponse.isSuccess
      (RefreshTokenHandler.verifyRefreshToken parser request) past := by
  rw [RefreshTokenHandler.verifyRefreshToken]
  cases ChatBackend.RefreshTokenHandler.readRefreshToken parser request.body with
  | error response => exact serves_ret hpast _
  | ok refreshToken =>
    refine serves_call (grounded_of_plain rfl rfl trivial) fun validated => ?_
    have hlater : NoWrites (past ++ [⟨.validate refreshToken, .ok validated⟩]) := hpast.concat rfl
    cases validated with
    | error status =>
      cases status with
      | invalid => exact serves_ret hlater _
      | expired => exact serves_ret hlater _
    | ok user =>
      have hgrounds : ServerCall.Grounds parser
          (past ++ [⟨.validate refreshToken, .ok (.ok user)⟩]) (.generateAccessToken user) :=
        Or.inl ⟨refreshToken, answered_concat _ _ _⟩
      refine serves_call (grounded_of_plain rfl rfl hgrounds) fun accessToken => ?_
      exact serves_ret (hlater.concat rfl) _

theorem serves_register (hpast : NoWrites past) (hreceived : HasAnswered past .receive request) :
    Serves parser HttpResponse.isSuccess (UserHandler.register parser request) past := by
  rw [UserHandler.register]
  cases hread : ChatBackend.UserHandler.readRegistration parser request.body with
  | error response => exact serves_ret hpast _
  | ok fields =>
    dsimp only
    generalize hemail : ChatBackend.UserHandler.toLower
      (ChatBackend.UserHandler.conversionInput fields.email) = email
    generalize hpassword : ChatBackend.UserHandler.conversionInput fields.password = password
    generalize hdisplayName : ChatBackend.UserHandler.conversionInput fields.displayName = displayName
    generalize husername : ChatBackend.UserHandler.conversionInput fields.username = username
    refine serves_bind_of (serves_registerUserByEmail hpast hreceived hread hemail.symm
      hpassword.symm hdisplayName.symm husername.symm) fun result past' hresult => ?_
    cases result with
    | ok user => exact truthful_congr rfl hresult
    | error reason =>
      refine truthful_congr ?_ hresult
      cases reason <;> rfl

theorem serves_login (hpast : NoWrites past) (hreceived : HasAnswered past .receive request) :
    Serves parser HttpResponse.isSuccess (UserHandler.loginByEmail P parser request) past := by
  rw [UserHandler.loginByEmail]
  cases hread : ChatBackend.UserHandler.readLogin parser request.body with
  | error response => exact serves_ret hpast _
  | ok fields =>
    refine serves_catchAll (serves_map (serves_loginByEmail hpast hreceived hread) fun result => ?_)
      isSuccess_loginResponse_error
    obtain ⟨login, ticket⟩ := result
    cases login <;> cases ticket <;> rfl

theorem serves_deviceVerification (hpast : NoWrites past) :
    Serves parser HttpResponse.isSuccess (UserHandler.deviceVerification P parser request) past := by
  rw [UserHandler.deviceVerification]
  cases ChatBackend.UserHandler.readVerification parser request.body with
  | error response => exact serves_ret hpast _
  | ok fields =>
    exact serves_catchAll (serves_loginTicketResponse (serves_verifyDevice hpast) false)
      isSuccess_verificationFailure

/-- The response to a revocation, after the connections have been closed. -/
theorem serves_revoked (hactor : Authenticated past userId) (hsettled : Settled past)
    (hrevoked : HasAnswered past (.revokeUserDevice userId deviceId) .success ∨
      HasAnswered past (.revokeUserDevice userId deviceId) .alreadyRevoked) (already : Bool) :
    Serves parser HttpResponse.isSuccess (UserHandler.revoked userId deviceId already) past := by
  refine serves_call (grounded_of_actor hactor rfl rfl hrevoked) fun closed => ?_
  refine truthful_of_settled (fun _ => hsettled.concat fun hwrite => ?_) fun hgood => ?_
  · cases hwrite
  · cases closed <;> cases hgood

theorem serves_revokeDevice (hpast : NoWrites past) (hreceived : HasAnswered past .receive request)
    (hactor : Authenticated past userId) : Serves parser HttpResponse.isSuccess
      (UserHandler.revokeDevice parser request userId) past := by
  rw [UserHandler.revokeDevice]
  cases hread : ChatBackend.UserHandler.readRevocation parser request.body with
  | error response => exact serves_ret hpast _
  | ok fields =>
    refine serves_catchAll (Effects.obeys_bind
      ((obeys_revokeUserDevice hpast hactor hreceived hread).mono fun past' r hr => ?_))
      isSuccess_revocationResponse_error
    obtain ⟨hactor', hr⟩ := hr
    cases r with
    | error error => exact hr
    | ok result =>
      cases result with
      | ok success =>
        cases success with
        | true => exact serves_revoked hactor' hr.1 (Or.inl hr.2) false
        | false => exact truthful_of_refused rfl hr
      | error code =>
        cases code with
        | revokedDevice => exact serves_revoked hactor' hr.1 (Or.inr hr.2) true
        | userNotFound => exact truthful_of_refused rfl hr
        | invalidPassword => exact truthful_of_refused rfl hr
        | deviceNotFound => exact truthful_of_refused rfl hr
        | notYourDevice => exact truthful_of_refused rfl hr
        | deviceNotActive => exact truthful_of_refused rfl hr

theorem serves_getUser (hpast : NoWrites past) :
    Serves parser HttpResponse.isSuccess (UserHandler.getUser request) past := by
  rw [UserHandler.getUser]
  cases request.headers (utf8 "X-User-Email") with
  | none => exact serves_ret hpast _
  | some email =>
    dsimp only
    split_ifs
    · exact serves_ret hpast _
    · refine serves_call (grounded_of_plain rfl rfl trivial) fun user => ?_
      exact serves_ret (hpast.concat rfl) _

theorem serves_findUserByUsername (hpast : NoWrites past) : Serves parser HttpResponse.isSuccess
    (UserHandler.findUserByUsername parser request userId) past := by
  rw [UserHandler.findUserByUsername]
  cases ChatBackend.UserHandler.readUsername parser request.body with
  | error response => exact serves_ret hpast _
  | ok username =>
    refine serves_call (grounded_of_plain rfl rfl trivial) fun user => ?_
    exact serves_ret (hpast.concat rfl) _

theorem serves_fetchUnprocessed (hpast : NoWrites past) (hactor : Authenticated past userId) :
    Serves parser HttpResponse.isSuccess
      (UserHandler.fetchUnprocessedFriendship userId) past := by
  refine serves_catchAll (serves_call (grounded_of_actor hactor rfl rfl trivial) fun records => ?_)
    fun _ => rfl
  exact serves_ret (hpast.concat rfl) _

theorem serves_fetchFriends (hpast : NoWrites past) (hactor : Authenticated past userId) :
    Serves parser HttpResponse.isSuccess (UserHandler.fetchFriends userId) past := by
  refine serves_catchDatabase (serves_call (grounded_of_actor hactor rfl rfl trivial)
    fun friends => ?_) (isSuccess_failure _ _)
  exact serves_ret (hpast.concat rfl) _

theorem serves_requestFriendship (hpast : NoWrites past) (hactor : Authenticated past userId) :
    Serves parser HttpResponse.isSuccess
      (UserHandler.requestFriendship parser request userId) past := by
  rw [UserHandler.requestFriendship]
  cases ChatBackend.UserHandler.readFriendRequest parser request.body with
  | error response => exact serves_ret hpast _
  | ok fields =>
    obtain ⟨text, message⟩ := fields
    dsimp only
    cases Uuid.ofString text with
    | none => exact serves_throw hpast _
    | some friendId =>
      dsimp only
      split_ifs with hself
      · exact serves_ret hpast _
      · refine serves_catchAll (Effects.obeys_bind
          ((obeys_requestFriendship hpast hactor message).mono fun past' r hr => ?_)) fun _ => rfl
        cases r with
        | error error => exact hr
        | ok record =>
          cases record with
          | none => exact truthful_of_refused rfl hr
          | some record => exact serves_notify hr

theorem serves_process (hpast : NoWrites past) (hactor : Authenticated past userId) :
    Serves parser HttpResponse.isSuccess
      (UserHandler.processFriendshipRequest parser request userId) past := by
  rw [UserHandler.processFriendshipRequest]
  cases ChatBackend.UserHandler.readProcessing parser request.body with
  | error response => exact serves_ret hpast _
  | ok fields =>
    refine serves_catchDatabase (serves_map
      (serves_processFriendshipRequest hpast hactor _ _) fun result => ?_) (isSuccess_failure _ _)
    cases result <;> rfl

/-! ### Routes -/

theorem serves_withContentType {handled : Server HttpResponse}
    (h : Serves parser HttpResponse.isSuccess handled past) :
    Serves parser HttpResponse.isSuccess (withContentType handled) past :=
  serves_map h fun _ => rfl

end Server

/-- **All handlers serve on good grounds.** -/
structure Router.Sound (parser : JsonParser) (router : Router) : Prop where
  routes : ∀ route ∈ router.routes, ∀ request past, NoWrites past →
    HasAnswered past .receive request →
      Serves parser HttpResponse.isSuccess (route.handler request) past
  protectedRoutes : ∀ route ∈ router.protectedRoutes, ∀ request userId past, NoWrites past →
    HasAnswered past .receive request → Authenticated past userId →
      Serves parser HttpResponse.isSuccess (route.handler request userId) past

namespace Router.Sound

variable {router : Router} {method : HttpMethod} {path : String}

theorem empty : Router.empty.Sound parser :=
  ⟨fun _ hroute => absurd hroute List.not_mem_nil, fun _ hroute => absurd hroute List.not_mem_nil⟩

theorem addRoute (h : router.Sound parser) {handler : HttpRequest → Server HttpResponse}
    (hhandler : ∀ {request past}, NoWrites past → HasAnswered past .receive request →
      Serves parser HttpResponse.isSuccess (handler request) past) :
    (router.addRoute method path handler).Sound parser := by
  refine ⟨fun route hroute request past hpast hreceived => ?_, h.protectedRoutes⟩
  rcases List.mem_append.mp hroute with hroute | hroute
  · exact h.routes route hroute request past hpast hreceived
  · rw [List.mem_singleton.mp hroute]
    exact hhandler hpast hreceived

theorem addProtectedRoute (h : router.Sound parser)
    {handler : HttpRequest → Uuid → Server HttpResponse}
    (hhandler : ∀ {request userId past}, NoWrites past → HasAnswered past .receive request →
      Authenticated past userId →
        Serves parser HttpResponse.isSuccess (handler request userId) past) :
    (router.addProtectedRoute method path handler).Sound parser := by
  refine ⟨h.routes, fun route hroute request userId past hpast hreceived hactor => ?_⟩
  rcases List.mem_append.mp hroute with hroute | hroute
  · exact h.protectedRoutes route hroute request userId past hpast hreceived hactor
  · rw [List.mem_singleton.mp hroute]
    exact hhandler hpast hreceived hactor

/-- A protected handler is called with the user of the request's access token. -/
theorem protectedRoute (h : router.Sound parser) (hpast : NoWrites past)
    (hreceived : HasAnswered past .receive request) :
    Serves parser HttpResponse.isSuccess (router.protectedRoute request) past := by
  rw [Router.protectedRoute]
  cases hfound : router.protectedRoutes.find? (Router.matches' request) with
  | none => exact serves_ret hpast _
  | some route =>
    rw [AuthMiddleWare.authenticate]
    cases htoken : AuthMiddleWare.accessTokenOf request with
    | none => exact serves_ret hpast _
    | some accessToken =>
      refine ⟨grounded_of_plain rfl rfl trivial, fun ans => ?_⟩
      cases ans with
      | error error => exact fun hclean => absurd hclean not_clean_concat
      | ok result =>
        have hlater : NoWrites (past ++ [⟨.verify accessToken, .ok result⟩]) := hpast.concat rfl
        cases result with
        | error error =>
          cases error with
          | invalid => exact serves_ret hlater _
          | expired => exact serves_ret hlater _
        | ok userId =>
          have hreceived' : HasAnswered (past ++ [⟨.verify accessToken, .ok (.ok userId)⟩]) .receive
              request := List.mem_append_left _ hreceived
          exact h.protectedRoutes route (List.mem_of_find?_eq_some hfound) request userId _ hlater
            hreceived' ⟨request, accessToken, hreceived', htoken, answered_concat _ _ _⟩

theorem route (h : router.Sound parser) (hpast : NoWrites past)
    (hreceived : HasAnswered past .receive request) :
    Serves parser HttpResponse.isSuccess (router.route request) past := by
  rw [Router.route]
  cases hfound : router.routes.find? (Router.matches' request) with
  | none => exact h.protectedRoute hpast hreceived
  | some route =>
    exact h.routes route (List.mem_of_find?_eq_some hfound) request past hpast hreceived

end Router.Sound

namespace Server

/-- **The routes of the server are sound.** -/
theorem sound_router (P : Platform) (parser : JsonParser) : (router P parser).Sound parser :=
  Router.Sound.empty
  |>.addProtectedRoute (fun hpast hreceived hactor => serves_revokeDevice hpast hreceived hactor)
  |>.addRoute (fun hpast _ => serves_registerDevice hpast)
  |>.addProtectedRoute (fun hpast _ hactor => serves_upload hpast hactor)
  |>.addProtectedRoute (fun hpast _ hactor => serves_claim hpast hactor)
  |>.addProtectedRoute (fun hpast _ hactor => serves_devices hpast hactor)
  |>.addProtectedRoute (fun hpast _ hactor => serves_devices hpast hactor)
  |>.addProtectedRoute (fun hpast _ hactor => serves_bundle hpast hactor)
  |>.addRoute (fun hpast _ => serves_verifyRefreshToken hpast)
  |>.addRoute (fun hpast _ => serves_getUser hpast)
  |>.addProtectedRoute (fun hpast _ _ => serves_withContentType (serves_ret hpast _))
  |>.addProtectedRoute (fun hpast _ _ => serves_withContentType (serves_findUserByUsername hpast))
  |>.addProtectedRoute (fun hpast _ hactor =>
    serves_withContentType (serves_fetchUnprocessed hpast hactor))
  |>.addProtectedRoute (fun hpast _ hactor =>
    serves_withContentType (serves_requestFriendship hpast hactor))
  |>.addRoute (fun hpast hreceived => serves_withContentType (serves_register hpast hreceived))
  |>.addRoute (fun hpast hreceived => serves_withContentType (serves_login hpast hreceived))
  |>.addProtectedRoute (fun hpast _ hactor => serves_process hpast hactor)
  |>.addProtectedRoute (fun hpast _ hactor =>
    serves_withContentType (serves_fetchFriends hpast hactor))
  |>.addRoute (fun hpast _ => serves_withContentType (serves_deviceVerification hpast))

/-- **A response is sent**: what is sent tells the truth if the response does. -/
theorem serves_send {response : HttpResponse}
    (h : TellsTruth HttpResponse.isSuccess past (.ok response)) :
    Serves parser HttpResponse.isSuccess (HttpSession.send response) past := by
  refine serves_call (grounded_of_plain rfl rfl trivial) fun _ => ?_
  have hsent := h.concat (e := ⟨.sendAll response.closing, .ok ()⟩) rfl
  exact hsent

/-- **Every request is served on good grounds**, and its response tells the truth. -/
theorem serves_handle (P : Platform) (parser : JsonParser) :
    Serves parser HttpResponse.isSuccess (HttpSession.handle (router P parser)) [] := by
  refine serves_call (grounded_of_plain rfl rfl rfl) fun request => ?_
  have hpast : NoWrites [⟨.receive, .ok request⟩] := by
    intro e he
    rw [List.mem_singleton.mp he]
    rfl
  have hreceived : HasAnswered [⟨.receive, .ok request⟩] .receive request := List.mem_singleton_self _
  have hrouted := (sound_router P parser).route hpast hreceived
  refine serves_catch_of (serves_bind_of hrouted fun response past hr => serves_send hr)
    fun error past hr => serves_send ?_
  exact truthful_of_refused (isSuccess_failureResponse error) hr

end Server

end ChatBackend
