import ChatBackend.Websocket.Dispatcher

/-!
# Requests act as their session

Whatever a client writes into a frame, the calls that its request makes to `ChatService` are made in
the name of the user and the device of the session it came in on, and only after the token and the
session have been checked.

## Main definitions

* `DispatcherCall.isStorage`, `DispatcherCall.ActsAs`
* `Verified` — the session has been checked
* `TaskOf` — the tasks of a session

## Main results

* `requests_act_as_session`
-/

namespace ChatBackend

open Effects (Runs Obeys Event)
open WebSocketDispatcher

variable {user device : Uuid}

/-! ### What is asked of a call -/

/-- The calls of `ChatService` that use the store. -/
def DispatcherCall.isStorage : DispatcherCall → Bool
  | newTextMessage _ _ _ | syncEnvelopePage _ _ | ackEnvelopes _ _ => true
  | _ => false

/-- The user and the device in whose name such a call is made. -/
def DispatcherCall.ActsAs (user device : Uuid) : DispatcherCall → Prop
  | newTextMessage userId senderDeviceId _ => userId = user ∧ senderDeviceId = device
  | syncEnvelopePage userId request => userId = user ∧ request.deviceId = device
  | ackEnvelopes userId request => userId = user ∧ request.deviceId = device
  | _ => True

/-- The session has been checked, with success. -/
def Verified (user device : Uuid) (past : List DispatcherEvent) : Prop :=
  (⟨.verifySessionIdentity user device, .ok .success⟩ : DispatcherEvent) ∈ past

/-- Storage calls are made in the name of the session, after it has been checked. -/
def Permitted (user device : Uuid) (past : List DispatcherEvent) (op : DispatcherCall) : Prop :=
  op.isStorage → op.ActsAs user device ∧ Verified user device past

theorem obeys_reply {message : Json} {past : List DispatcherEvent}
    {Q : List DispatcherEvent → Except Error Unit → Prop}
    (h : ∀ ans, Q (past ++ [⟨.reply message, ans⟩]) ans) :
    Obeys (Permitted user device) Q (reply message) past :=
  Effects.obeys_perform (by intro hop; cases hop) h

/-! ### The device of a request -/

/-- The device that a payload names is the session's, if its type is one that names a device. -/
def NamesDevice (device : Uuid) (payload : Json) : Prop :=
  ∀ type deviceField responseType, payload.find "type" = some (.string type) →
    deviceFieldOf type = some (deviceField, responseType) →
    requireUuid payload deviceField = .ok device

/-- The device field belongs to the route. -/
theorem deviceFieldOf_eq (type : String) :
    deviceFieldOf type =
      match parseType type with
      | .newTextMessage => some ("sender_device_id", "newTextMessage.result")
      | .syncEnvelope => some ("device_id", "chat.sync.envelope.result")
      | .ackEnvelope => some ("device_id", "chat.envelopes.ack.result")
      | _ => none := by
  by_cases htest : type = "chat.newTextMessage_Test"
  · subst htest
    decide
  · rw [parseType, deviceFieldOf, if_neg htest]
    split_ifs <;> rfl

theorem sender_of_parseNewMessage {sodium : Sodium} {payload : Json} {parsed : ParsedNewMessage}
    (h : parseNewMessage sodium payload = .ok parsed) :
    requireUuid payload "sender_device_id" = .ok parsed.senderDeviceId := by
  unfold parseNewMessage at h
  split_ifs at h with hobject
  obtain ⟨sender, hsender, h⟩ := bind_eq_ok.mp h
  obtain ⟨messageId, -, h⟩ := bind_eq_ok.mp h
  obtain ⟨recipient, -, h⟩ := bind_eq_ok.mp h
  obtain ⟨version, -, h⟩ := bind_eq_ok.mp h
  split_ifs at h with hversion
  obtain ⟨packet, -, h⟩ := bind_eq_ok.mp h
  obtain rfl := Except.ok.inj h
  exact hsender

theorem device_of_parseSyncEnvelope {payload : Json} {request : SyncEnvelopeRequest}
    (h : parseSyncEnvelope payload = .ok request) :
    requireUuid payload "device_id" = .ok request.deviceId := by
  unfold parseSyncEnvelope at h
  split_ifs at h with hobject
  obtain ⟨deviceId, hdevice, h⟩ := bind_eq_ok.mp h
  split_ifs at h with hnil
  split at h
  · split_ifs at h with hlen
    obtain ⟨cursors, -, h⟩ := bind_eq_ok.mp h
    obtain rfl := Except.ok.inj h
    exact hdevice
  · cases h

theorem device_of_parseAckEnvelope {payload : Json} {request : AckEnvelopeRequest}
    (h : parseAckEnvelope payload = .ok request) :
    requireUuid payload "device_id" = .ok request.deviceId := by
  unfold parseAckEnvelope at h
  split_ifs at h with hobject
  obtain ⟨deviceId, hdevice, h⟩ := bind_eq_ok.mp h
  split_ifs at h with hnil
  split at h
  · split_ifs at h with hlen
    obtain ⟨ids, -, h⟩ := bind_eq_ok.mp h
    obtain rfl := Except.ok.inj h
    exact hdevice
  · cases h

/-! ### The session check -/

/-- What a request that goes on has been checked for. -/
def Checked (user device : Uuid) (payload : Json) (past : List DispatcherEvent)
    (result : Except Error Bool) : Prop :=
  result = .ok true → Verified user device past ∧ NamesDevice device payload

/-- A reply that ends the check. -/
theorem obeys_refused {message payload : Json} {past : List DispatcherEvent} :
    Obeys (Permitted user device) (Checked user device payload)
      ((reply message).bind fun _ => .ret false) past := by
  refine Effects.obeys_bind (obeys_reply fun ans => ?_)
  rcases ans with error | _
  · intro h
    cases h
  · intro h
    cases h

theorem obeys_validateDevice {payload : Json} {past : List DispatcherEvent}
    (hpast : Verified user device past) :
    Obeys (Permitted user device) (Checked user device payload)
      (validateDevice device payload) past := by
  rw [validateDevice]
  split
  · next type htype =>
    split
    · next hfield =>
      intro _
      refine ⟨hpast, fun type' deviceField responseType htype' hfield' => ?_⟩
      rw [htype] at htype'
      cases htype'
      rw [hfield] at hfield'
      cases hfield'
    · next deviceField responseType hfield =>
      split
      · exact obeys_refused
      · next requestDeviceId hrequire =>
        split
        · exact obeys_refused
        · next hsame =>
          intro _
          refine ⟨hpast, fun type' deviceField' responseType' htype' hfield' => ?_⟩
          rw [htype] at htype'
          cases htype'
          rw [hfield] at hfield'
          cases hfield'
          rw [hrequire, not_not.mp hsame]
  · exact obeys_refused

/-- A request passes the session check only after the session has been looked up, and names its
device. -/
theorem obeys_validateSessionRequest {authResult : AuthResult} {payload : Json}
    {past : List DispatcherEvent} :
    Obeys (Permitted user device) (Checked user device payload)
      (validateSessionRequest authResult user device payload) past := by
  unfold validateSessionRequest
  split
  · exact obeys_refused
  · next userId =>
    split
    · exact obeys_refused
    · next hsame =>
      obtain rfl : userId = user := not_not.mp hsame
      refine ⟨fun h => (by cases h), fun ans => ?_⟩
      rcases ans with error | identity
      · exact obeys_refused
      · rw [validateIdentity]
        split
        · exact obeys_refused
        · next hidentity =>
          obtain rfl : identity = .success := not_not.mp hidentity
          exact obeys_validateDevice (List.mem_append_right _ (List.mem_singleton_self _))

/-! ### The routes -/

/-- The task belongs to the session: it has the identity that the dispatcher gave it, and the route
of its payload's type. -/
structure TaskOf (user device : Uuid) (task : Task) : Prop where
  userId : task.userId = user
  authResult : task.authResult = .ok user
  sessionUserId : task.sessionUserId = user
  sessionDeviceId : task.sessionDeviceId = device
  router : ∃ type, task.payload.find "type" = some (.string type) ∧ parseType type = task.router

/-- A call of `ChatService`, with whatever is replied after it. -/
theorem obeys_request {op : DispatcherCall} {past : List DispatcherEvent}
    {respond : op.Answer → Dispatcher Json} {failed : Error → Json}
    (hop : Permitted user device past op)
    (hrespond : ∀ answer past, Obeys (Permitted user device) (fun _ _ => True) (respond answer) past) :
    Obeys (Permitted user device) (fun _ _ => True)
      ((((perform op).bind respond).tryCatch fun error => .ret (failed error)).bind reply) past := by
  have hreply : ∀ (past : List DispatcherEvent) (r : Except Error Json),
      match r with
      | .ok message => Obeys (Permitted user device) (fun _ _ => True) (reply message) past
      | .error _ => True := by
    intro past r
    rcases r with error | message
    · trivial
    · exact obeys_reply fun _ => trivial
  refine Effects.obeys_bind (Effects.obeys_tryCatch (Effects.obeys_bind
    (Effects.obeys_perform hop fun ans => ?_)))
  rcases ans with error | answer
  · exact hreply _ (.ok (failed error))
  · refine (hrespond answer _).mono fun past r _ => ?_
    rcases r with error | message
    · exact hreply _ (.ok (failed error))
    · exact hreply _ (.ok message)

theorem obeys_messageResponse (result : NewTextMessageResult) (past : List DispatcherEvent) :
    Obeys (Permitted user device) (fun _ _ => True) (messageResponse result) past := by
  rw [messageResponse]
  split
  · refine Effects.obeys_bind (Effects.obeys_tryCatch (obeys_reply fun ans => ?_))
    rcases ans with error | _
    · trivial
    · trivial
  all_goals trivial

theorem obeys_route {sodium : Sodium} {task : Task} {past : List DispatcherEvent}
    (htask : TaskOf user device task) (hpast : Verified user device past)
    (hnames : NamesDevice device task.payload) :
    Obeys (Permitted user device) (fun _ _ => True) (route sodium task) past := by
  obtain ⟨type, htype, hrouter⟩ := htask.router
  have hfield := deviceFieldOf_eq type
  rw [hrouter] at hfield
  rw [route]
  split
  · rw [newTextMessageTest]
    refine Effects.obeys_bind (Effects.obeys_ofExcept ?_)
    rcases stringOf (task.payload.entry "id") with error | id
    · trivial
    · refine Effects.obeys_bind (Effects.obeys_ofExcept ?_)
      rcases stringOf (task.payload.entry "message") with error | message
      · trivial
      · refine Effects.obeys_bind (Effects.obeys_perform (fun h => by cases h) fun ans => ?_)
        rcases ans with error | _
        · trivial
        · exact obeys_reply fun _ => trivial
  · next hroute =>
    rw [hroute] at hfield
    rw [newTextMessage]
    split
    · exact obeys_reply fun _ => trivial
    · next parsed hparsed =>
      refine obeys_request (fun _ => ⟨⟨htask.userId, ?_⟩, hpast⟩) obeys_messageResponse
      have hnamed := hnames type _ _ htype hfield
      rw [sender_of_parseNewMessage hparsed] at hnamed
      exact Except.ok.inj hnamed
  · next hroute =>
    rw [hroute] at hfield
    rw [syncEnvelope]
    split
    · exact obeys_reply fun _ => trivial
    · next request hparsed =>
      refine obeys_request (fun _ => ⟨⟨htask.userId, ?_⟩, hpast⟩) fun _ _ => trivial
      have hnamed := hnames type _ _ htype hfield
      rw [device_of_parseSyncEnvelope hparsed] at hnamed
      exact Except.ok.inj hnamed
  · next hroute =>
    rw [hroute] at hfield
    rw [ackEnvelope]
    split
    · exact obeys_reply fun _ => trivial
    · next request hparsed =>
      refine obeys_request (fun _ => ⟨⟨htask.userId, ?_⟩, hpast⟩) fun _ _ => trivial
      have hnamed := hnames type _ _ htype hfield
      rw [device_of_parseAckEnvelope hparsed] at hnamed
      exact Except.ok.inj hnamed
  · trivial

/-- A task of a session makes its storage calls in the session's name. -/
theorem obeys_runTask {sodium : Sodium} {task : Task} {past : List DispatcherEvent}
    (htask : TaskOf user device task) :
    Obeys (Permitted user device) (fun _ _ => True) (runTask sodium task) past := by
  rw [runTask, htask.sessionUserId, htask.sessionDeviceId]
  refine Effects.obeys_bind (obeys_validateSessionRequest.mono fun past r hr => ?_)
  rcases r with error | valid
  · trivial
  · dsimp only
    split
    · next hvalid =>
      obtain ⟨hpast, hnames⟩ := hr (congrArg Except.ok hvalid)
      exact obeys_route htask hpast hnames
    · trivial

/-! ### Dispatching -/

/-- The token of the frame has been found to be the user's. -/
def TokenOf (user : Uuid) (past : List DispatcherEvent) : Prop :=
  ∃ token, (⟨.verifyToken token, .ok (.ok user)⟩ : DispatcherEvent) ∈ past

/-- `dispatch` itself does not use the store, and queues only tasks of the session, after it has
found the token to be the user's. -/
def Queued (user device : Uuid) (past : List DispatcherEvent) (op : DispatcherCall) : Prop :=
  op.isStorage = false ∧
    ∀ task, op = .receiveTask task → TokenOf user past ∧ TaskOf user device task

theorem obeys_reply_queued {message : Json} {past : List DispatcherEvent} :
    Obeys (Queued user device) (fun _ _ => True) (reply message) past :=
  Effects.obeys_perform ⟨rfl, fun task h => by cases h⟩ fun _ => trivial

theorem obeys_dispatchAs {payload : Json} {past : List DispatcherEvent} (hpast : TokenOf user past) :
    Obeys (Queued user device) (fun _ _ => True)
      (dispatchAs device user user (.ok user) payload) past := by
  rw [dispatchAs]
  split
  · next type htype =>
    split
    · trivial
    · refine Effects.obeys_tryCatch (Effects.obeys_perform ⟨rfl, fun task h => ?_⟩ fun ans => ?_)
      · cases h
        exact ⟨hpast, rfl, rfl, rfl, rfl, type, htype, rfl⟩
      · rcases ans with error | _
        · exact obeys_reply_queued
        · trivial
  · exact obeys_reply_queued

theorem obeys_authenticate {authorization : String} {past : List DispatcherEvent} :
    Obeys (Queued user device) (fun past r => r = .ok (.ok user) → TokenOf user past)
      (authenticate authorization) past := by
  rw [authenticate]
  split
  · intro h
    cases h
  · refine ⟨⟨rfl, fun task h => by cases h⟩, fun ans => ?_⟩
    rcases ans with error | (_ | _) | userId
    · intro h
      cases h
    · intro h
      cases h
    · intro h
      cases h
    · intro h
      cases h
      exact ⟨_, List.mem_append_right _ (List.mem_singleton_self _)⟩

theorem obeys_dispatch {frame : ApplicationMessage} {past : List DispatcherEvent} :
    Obeys (Queued user device) (fun _ _ => True) (dispatch device user frame) past := by
  rw [dispatch]
  split
  · split
    · exact obeys_reply_queued
    · split
      · exact obeys_reply_queued
      · refine Effects.obeys_bind (obeys_authenticate.mono fun past r hr => ?_)
        rcases r with error | error | userId
        · trivial
        · exact obeys_reply_queued
        · dsimp only
          split
          · exact obeys_reply_queued
          · next hsame =>
            obtain rfl : userId = user := not_not.mp hsame
            exact obeys_dispatchAs (hr rfl)
  · exact obeys_reply_queued

/-- **Requests act only as their session's identity.** Dispatching a frame, whatever it contains,
makes no storage call itself. A task that it queues is queued after the token was found to be the
session user's, and each storage call of the task, in every one of its runs, is made for the user and
the device of the session, after that very task has found the session to be in order. -/
theorem requests_act_as_session (sodium : Sodium) (frame : ApplicationMessage)
    {trace : List DispatcherEvent} {result : Except Error Unit}
    (h : Runs (dispatch device user frame) trace result) :
    (∀ e ∈ trace, e.op.isStorage = false) ∧
      ∀ before task answer after,
        trace = before ++ (⟨.receiveTask task, answer⟩ : DispatcherEvent) :: after →
          TokenOf user before ∧
          ∀ trace' result', Runs (runTask sodium task) trace' result' →
            ∀ before' e after', trace' = before' ++ e :: after' → e.op.isStorage →
              e.op.ActsAs user device ∧ Verified user device before' := by
  have hdispatch : Obeys (Queued user device) (fun _ _ => True) (dispatch device user frame) [] :=
    obeys_dispatch
  obtain ⟨hcalls, -⟩ := hdispatch.of_runs h
  constructor
  · intro e he
    obtain ⟨before, after, hsplit⟩ := List.append_of_mem he
    exact (hcalls before e after hsplit).1
  · intro before task answer after hsplit
    obtain ⟨-, htask⟩ := hcalls before _ after hsplit
    obtain ⟨htoken, htask⟩ := htask task rfl
    refine ⟨htoken, fun trace' result' hruns before' e after' hsplit' hstorage => ?_⟩
    have hrun : Obeys (Permitted user device) (fun _ _ => True) (runTask sodium task) [] :=
      obeys_runTask htask
    exact (hrun.of_runs hruns).1 before' e after' hsplit' hstorage

namespace Sample

/-- The text of a synchronization request of device 2. -/
def syncText : String := "\x7b\"type\":\"chat.sync.envelope\",\"authorization\":\"Bearer t\"," ++
  "\"device_id\":\"00000000-0000-0000-0000-000000000002\",\"cursors\":[]\x7d"

/-- The parser, as far as that text goes. -/
def parser : JsonParser :=
  ⟨fun text => if text = utf8 syncText then some (syncPayload "Bearer t" ⟨2, []⟩) else none⟩

/-- The frame of the request. -/
def syncFrame : Frame := ⟨true, .text, utf8 syncText⟩

theorem parse_syncFrame : parser.parse syncFrame.payload = some (syncPayload "Bearer t" ⟨2, []⟩) := by
  simp only [parser, syncFrame, if_true]

theorem payload_syncFrame :
    (applicationParse parser syncFrame).payload = .json (syncPayload "Bearer t" ⟨2, []⟩) := by
  have htext : syncFrame.opcode = .text := rfl
  rw [applicationParse, if_pos htext, parse_syncFrame]

/-- The task that it becomes in a session of user 1. -/
def syncTask : Task := ⟨.syncEnvelope, syncPayload "Bearer t" ⟨2, []⟩, 1, .ok 1, 1, 2⟩

theorem dispatch_syncFrame : Runs (dispatch 2 1 (applicationParse parser syncFrame))
    [⟨.verifyToken "t", .ok (.ok 1)⟩, ⟨.receiveTask syncTask, .ok ()⟩] (.ok ()) := by
  have hbearer : ¬ (bearer.isPrefixOf "Bearer t".toList = false ∨ "Bearer t".toList = bearer) := by
    decide
  have htoken : String.ofList ("Bearer t".toList.drop bearer.length) = "t" := by decide
  rw [dispatch, payload_syncFrame]
  change Runs ((authenticate "Bearer t").bind _) _ _
  rw [authenticate, if_neg hbearer, htoken]
  exact .call _ (.call _ .ret)

theorem runTask_syncTask (sodium : Sodium) : Runs (runTask sodium syncTask)
    [⟨.verifySessionIdentity 1 2, .ok .success⟩, ⟨.syncEnvelopePage 1 ⟨2, []⟩, .ok none⟩,
      ⟨.reply (pageResponse ⟨2, []⟩ none), .ok ()⟩] (.ok ()) := by
  have hformed : WellFormed ⟨2, []⟩ :=
    ⟨by decide, List.nodup_nil, fun c hc => absurd hc List.not_mem_nil⟩
  have hparse := parseSyncEnvelope_syncPayload "Bearer t" hformed
  have hfield : deviceFieldOf "chat.sync.envelope" =
      some ("device_id", "chat.sync.envelope.result") := by decide
  have htype : (syncPayload "Bearer t" ⟨2, []⟩).find "type" = some (.string "chat.sync.envelope") := rfl
  have hdevice : requireUuid (syncPayload "Bearer t" ⟨2, []⟩) "device_id" = .ok 2 :=
    requireUuid_toString rfl
  have hvalid : validateDevice 2 (syncPayload "Bearer t" ⟨2, []⟩) = .ret true := by
    rw [validateDevice, htype]
    simp only [hfield, hdevice, ne_eq, not_true_eq_false, if_false]
  have hroute : route sodium syncTask = syncEnvelope 1 (syncPayload "Bearer t" ⟨2, []⟩) := rfl
  have hidentity : validateIdentity 2 (syncPayload "Bearer t" ⟨2, []⟩) (.ok .success) = .ret true := by
    rw [validateIdentity, if_neg (not_not.mpr rfl), hvalid]
  have htask : runTask sodium syncTask = (validateSessionRequest (.ok 1) 1 2
      (syncPayload "Bearer t" ⟨2, []⟩)).bind fun valid =>
        if valid then route sodium syncTask else .ret () := rfl
  rw [htask, validateSessionRequest_ok]
  refine .call _ ?_
  rw [hidentity]
  show Runs (syncEnvelope 1 (syncPayload "Bearer t" ⟨2, []⟩)) _ _
  rw [syncEnvelope, hparse]
  exact .call _ (.call _ .ret)

end Sample

/-- The synchronization request of device 2 is made for device 2, after its session was checked. -/
theorem requests_act_as_session_sync :
    DispatcherCall.ActsAs 1 2 (.syncEnvelopePage 1 ⟨2, []⟩) ∧
      Verified 1 2 [⟨.verifySessionIdentity 1 2, .ok .success⟩] :=
  ((requests_act_as_session ⟨fun _ _ => none⟩ _ Sample.dispatch_syncFrame).2
    [⟨.verifyToken "t", .ok (.ok 1)⟩] Sample.syncTask (.ok ()) [] rfl).2 _ _
      (Sample.runTask_syncTask _) [⟨.verifySessionIdentity 1 2, .ok .success⟩] _ _ rfl rfl

end ChatBackend
