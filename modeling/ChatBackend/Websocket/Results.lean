import ChatBackend.Websocket.SessionIdentity

/-!
# One request, one result

Whatever becomes of a request that has a valid token, its session gets exactly one answer; and a
message that was stored by it, and only that, is pushed to its recipient, before the answer.

## Main definitions

* `replies`, `stored` — the replies, and the envelopes that `ChatService` reported as new
* `Carries` — the fields of a push
* `OneResult`

## Main results

* `one_result_per_request`
-/

namespace ChatBackend

open Effects (Runs Obeys Event)
open WebSocketDispatcher

variable {user device : Uuid}

/-! ### What is observed -/

/-- The message of a reply. -/
def replyOf : DispatcherEvent → Option Json
  | ⟨.reply message, _⟩ => some message
  | _ => none

/-- The envelope that a successful call of `newTextMessage` has returned. -/
def storedOf : DispatcherEvent → Option Envelope
  | ⟨.newTextMessage _ _ _, .ok ⟨.success, envelope⟩⟩ => envelope
  | _ => none

/-- The task that was queued. -/
def acceptedOf : DispatcherEvent → Option Task
  | ⟨.receiveTask task, .ok _⟩ => some task
  | _ => none

/-- The reply threw. -/
def replyFailed : DispatcherEvent → Bool
  | ⟨.reply _, .error _⟩ => true
  | _ => false

/-- The messages replied, in order. -/
def replies (trace : List DispatcherEvent) : List Json := trace.filterMap replyOf

/-- The envelopes stored, in order. -/
def stored (trace : List DispatcherEvent) : List Envelope := trace.filterMap storedOf

/-- The tasks queued, in order. -/
def accepted (trace : List DispatcherEvent) : List Task := trace.filterMap acceptedOf

/-- No reply threw. -/
def Delivered (trace : List DispatcherEvent) : Prop := ∀ e ∈ trace, replyFailed e = false

/-- The reply is a push: the worker sends it to another device. -/
def IsPush (message : Json) : Prop :=
  message.find "type" = some (.string "Online_Sync") ∨
    message.find "type" = some (.string "online_sync")

/-- **The push carries the envelope**: every field of it. -/
structure Carries (push : Json) (envelope : Envelope) : Prop where
  type : push.find "type" = some (.string "Online_Sync")
  recipient : push.find "recipientDeviceId" = some (uuidJson envelope.recipientDeviceId)
  seq : push.find "seq" = some (int64Json envelope.seq)
  body : ∃ body, push.find "envelope" = some body ∧
    body.find "message_id" = some (uuidJson envelope.messageId) ∧
    body.find "envelope_id" = some (uuidJson envelope.envelopeId) ∧
    body.find "sender_device_id" = some (uuidJson envelope.senderDeviceId) ∧
    body.find "recipient_device_id" = some (uuidJson envelope.recipientDeviceId) ∧
    body.find "protocol_version" = some (.string envelope.protocolVersion) ∧
    body.find "packet_base64" = some (.string (encodePacketBase64 envelope.packet)) ∧
    body.find "seq" = some (int64Json envelope.seq)

theorem carries_onlineSync (envelope : Envelope) : Carries (onlineSync envelope) envelope where
  type := rfl
  recipient := rfl
  seq := rfl
  body := ⟨envelopeBody envelope, rfl, rfl, rfl, rfl, rfl, rfl, rfl, rfl⟩

/-- Nothing has been replied or stored. -/
def Silent (trace : List DispatcherEvent) : Prop := replies trace = [] ∧ stored trace = []

/-- What has been stored has been pushed, and nothing else replied. -/
def Pushed (trace : List DispatcherEvent) : Prop :=
  replies trace = (stored trace).map onlineSync ∧ (stored trace).length ≤ 1

/-- **One result**: what has been stored has been pushed, and then one message that is no push has
been replied. -/
def OneResult (trace : List DispatcherEvent) : Prop :=
  ∃ result, ¬ IsPush result ∧ replies trace = (stored trace).map onlineSync ++ [result] ∧
    (stored trace).length ≤ 1

@[simp] theorem replies_append (s t : List DispatcherEvent) : replies (s ++ t) = replies s ++ replies t :=
  List.filterMap_append

@[simp] theorem stored_append (s t : List DispatcherEvent) : stored (s ++ t) = stored s ++ stored t :=
  List.filterMap_append

theorem Delivered.append_iff {s t : List DispatcherEvent} :
    Delivered (s ++ t) ↔ Delivered s ∧ Delivered t := by
  simp only [Delivered, List.mem_append, or_imp, forall_and]

theorem Silent.pushed {trace : List DispatcherEvent} (h : Silent trace) : Pushed trace := by
  rw [Pushed, h.1, h.2]
  exact ⟨rfl, Nat.zero_le _⟩

/-- A call that is neither a reply nor stores anything leaves it quiet. -/
theorem Silent.snoc {trace : List DispatcherEvent} (h : Silent trace) {e : DispatcherEvent}
    (hreply : replyOf e = none) (hstored : storedOf e = none) : Silent (trace ++ [e]) := by
  constructor
  · rw [replies_append, h.1]
    simp [replies, hreply]
  · rw [stored_append, h.2]
    simp [stored, hstored]

/-- The result, after what was pushed. -/
theorem Pushed.oneResult {trace : List DispatcherEvent} (h : Pushed trace) {message : Json}
    (hmessage : ¬ IsPush message) (answer : Except Error Unit) :
    OneResult (trace ++ [⟨.reply message, answer⟩]) := by
  refine ⟨message, hmessage, ?_, ?_⟩
  · have hone : replies [(⟨.reply message, answer⟩ : DispatcherEvent)] = [message] := rfl
    have hnone : stored [(⟨.reply message, answer⟩ : DispatcherEvent)] = [] := rfl
    rw [replies_append, stored_append, h.1, hone, hnone, List.append_nil]
  · have hnone : stored [(⟨.reply message, answer⟩ : DispatcherEvent)] = [] := rfl
    rw [stored_append, hnone, List.append_nil]
    exact h.2

/-! ### Replies that are no pushes -/

theorem not_isPush_errorReply (code : String) : ¬ IsPush (errorReply code) := by
  have htype : (errorReply code).find "type" = some (.string "error") := rfl
  rw [IsPush, htype]
  simp

/-- The types of results. -/
def IsResultType (type : String) : Prop := type ≠ "Online_Sync" ∧ type ≠ "online_sync"

theorem not_isPush_failure {type : String} (h : IsResultType type) (code message : String) :
    ¬ IsPush (failure type code message) := by
  have htype : (failure type code message).find "type" = some (.string type) := rfl
  rw [IsPush, htype]
  simpa [IsResultType] using h

theorem not_isPush_success {type : String} (h : IsResultType type) (fields : List (String × Json)) :
    ¬ IsPush (success type fields) := by
  have htype : (success type fields).find "type" = some (.string type) := rfl
  rw [IsPush, htype]
  simpa [IsResultType] using h

theorem isResultType_message : IsResultType "newTextMessage.result" := by
  constructor <;> decide

theorem isResultType_sync : IsResultType "chat.sync.envelope.result" := by
  constructor <;> decide

theorem isResultType_ack : IsResultType "chat.envelopes.ack.result" := by
  constructor <;> decide

theorem isResultType_responseType (router : WebsocketRouter) : IsResultType (responseType router) := by
  cases router
  · exact isResultType_message
  · exact isResultType_message
  · exact isResultType_sync
  · exact isResultType_ack
  · exact isResultType_message

theorem isResultType_deviceFieldOf {type deviceField responseType : String}
    (h : deviceFieldOf type = some (deviceField, responseType)) : IsResultType responseType := by
  unfold deviceFieldOf at h
  split_ifs at h
  · cases h
    exact isResultType_message
  · cases h
    exact isResultType_sync
  · cases h
    exact isResultType_ack

/-! ### Rules -/

/-- Every call is allowed. -/
def AnyCall (_ : List DispatcherEvent) (_ : DispatcherCall) : Prop := True

/-- `Q` holds if no reply threw. -/
def Given {α : Type} (Q : List DispatcherEvent → Except Error α → Prop)
    (trace : List DispatcherEvent) (result : Except Error α) : Prop :=
  Delivered trace → Q trace result

section Rules

variable {α : Type} {Q : List DispatcherEvent → Except Error α → Prop} {p : Dispatcher α}
  {past : List DispatcherEvent}

/-- Once a reply has thrown, nothing is claimed. -/
theorem obeys_of_failed (h : ¬ Delivered past) : Obeys AnyCall (Given Q) p past :=
  Effects.obeys_of_forall (fun _ _ => trivial)
    fun _ _ hdelivered => absurd (Delivered.append_iff.mp hdelivered).1 h

theorem not_delivered_snoc {message : Json} {error : Error} :
    ¬ Delivered (past ++ [⟨.reply message, .error error⟩]) := by
  intro h
  have hfailed := (Delivered.append_iff.mp h).2 _ (List.mem_singleton_self _)
  cases hfailed

theorem obeys_given_reply {Q : List DispatcherEvent → Except Error Unit → Prop} {message : Json}
    (h : Q (past ++ [⟨.reply message, .ok ()⟩]) (.ok ())) :
    Obeys AnyCall (Given Q) (reply message) past := by
  refine Effects.obeys_perform trivial fun ans => ?_
  rcases ans with error | _
  · intro hdelivered
    exact absurd hdelivered not_delivered_snoc
  · exact fun _ => h

theorem obeys_given_reply_bind {message : Json} {f : Unit → Dispatcher α}
    (h : Obeys AnyCall (Given Q) (f ()) (past ++ [⟨.reply message, .ok ()⟩])) :
    Obeys AnyCall (Given Q) ((reply message).bind f) past := by
  refine Effects.obeys_bind (Effects.obeys_perform trivial fun ans => ?_)
  rcases ans with error | _
  · intro hdelivered
    exact absurd hdelivered not_delivered_snoc
  · exact h

/-- A reply whose exceptions are let go. -/
theorem obeys_given_reply_tryCatch {message : Json} {f : Unit → Dispatcher α}
    (h : Obeys AnyCall (Given Q) (f ()) (past ++ [⟨.reply message, .ok ()⟩])) :
    Obeys AnyCall (Given Q) (((reply message).tryCatch fun _ => .ret ()).bind f) past := by
  refine Effects.obeys_bind (Effects.obeys_tryCatch (Effects.obeys_perform trivial fun ans => ?_))
  rcases ans with error | _
  · exact obeys_of_failed not_delivered_snoc
  · exact h

/-- A call of `ChatService`, what is made of its answer, and the reply with that. -/
theorem obeys_request_oneResult {op : DispatcherCall} {respond : op.Answer → Dispatcher Json}
    {failed : Error → Json} (hpast : Silent past) (hop : ∀ ans, replyOf ⟨op, ans⟩ = none)
    (hstored : ∀ error, storedOf ⟨op, .error error⟩ = none) (hfailed : ∀ error, ¬ IsPush (failed error))
    (hrespond : ∀ answer, Obeys AnyCall
      (Given fun trace r => ∃ message, r = .ok message ∧ ¬ IsPush message ∧ Pushed trace)
      (respond answer) (past ++ [⟨op, .ok answer⟩])) :
    Obeys AnyCall (Given fun trace _ => OneResult trace)
      ((((perform op).bind respond).tryCatch fun error => .ret (failed error)).bind reply) past := by
  refine Effects.obeys_bind (Effects.obeys_tryCatch (Effects.obeys_bind
    (Effects.obeys_perform trivial fun ans => ?_)))
  rcases ans with error | answer
  · exact obeys_given_reply ((hpast.snoc (hop _) (hstored error)).pushed.oneResult (hfailed error) _)
  · refine (hrespond answer).mono fun trace r hr => ?_
    by_cases hdelivered : Delivered trace
    · obtain ⟨message, rfl, hmessage, hpushed⟩ := hr hdelivered
      exact obeys_given_reply (hpushed.oneResult hmessage _)
    · rcases r with error | message
      · exact obeys_of_failed hdelivered
      · exact obeys_of_failed hdelivered

end Rules

/-! ### The session check -/

/-- Either the request goes on and nothing has been replied, or it has had its one answer. -/
def CheckedOnce (trace : List DispatcherEvent) (r : Except Error Bool) : Prop :=
  r = .ok true ∧ Silent trace ∨ r = .ok false ∧ OneResult trace

theorem obeys_answered {message : Json} {past : List DispatcherEvent} (hpast : Silent past)
    (hmessage : ¬ IsPush message) :
    Obeys AnyCall (Given CheckedOnce) ((reply message).bind fun _ => .ret false) past :=
  obeys_given_reply_bind fun _ => Or.inr ⟨rfl, hpast.pushed.oneResult hmessage _⟩

theorem obeys_validateDevice_once {payload : Json} {past : List DispatcherEvent}
    (hpast : Silent past) :
    Obeys AnyCall (Given CheckedOnce) (validateDevice device payload) past := by
  rw [validateDevice]
  split
  · split
    · exact fun _ => Or.inl ⟨rfl, hpast⟩
    · next hfield =>
      have htype := isResultType_deviceFieldOf hfield
      split
      · exact obeys_answered hpast (not_isPush_failure htype _ _)
      · split
        · exact obeys_answered hpast (not_isPush_failure htype _ _)
        · exact fun _ => Or.inl ⟨rfl, hpast⟩
  · exact obeys_answered hpast (not_isPush_errorReply _)

theorem obeys_validateIdentity_once {payload : Json} {past : List DispatcherEvent}
    (hpast : Silent past) (ans : Except Error IdentityState) :
    Obeys AnyCall (Given CheckedOnce) (validateIdentity device payload ans) past := by
  rcases ans with error | identity
  · exact obeys_answered hpast (not_isPush_errorReply _)
  · rw [validateIdentity]
    split
    · exact obeys_answered hpast (not_isPush_errorReply _)
    · exact obeys_validateDevice_once hpast

/-! ### The routes -/

/-- Storing a message and pushing it leaves what has been stored pushed. -/
theorem Silent.stored_then_pushed {past : List DispatcherEvent} (hpast : Silent past)
    (userId senderDeviceId : Uuid) (request : NewTextMessageRequest) (envelope : Envelope)
    (answer : Except Error Unit) :
    Pushed (past ++ [⟨.newTextMessage userId senderDeviceId request, .ok ⟨.success, some envelope⟩⟩] ++
      [⟨.reply (onlineSync envelope), answer⟩]) := by
  rw [Pushed, replies_append, replies_append, stored_append, stored_append, hpast.1, hpast.2]
  exact ⟨rfl, le_refl 1⟩

theorem obeys_messageResponse_once {userId senderDeviceId : Uuid} {request : NewTextMessageRequest}
    {past : List DispatcherEvent} (hpast : Silent past) (result : NewTextMessageResult) :
    Obeys AnyCall (Given fun trace r => ∃ message, r = .ok message ∧ ¬ IsPush message ∧ Pushed trace)
      (messageResponse result)
      (past ++ [⟨.newTextMessage userId senderDeviceId request, .ok result⟩]) := by
  have hfailure := not_isPush_failure isResultType_message
  have hsuccess := not_isPush_success isResultType_message
  obtain ⟨status, envelope⟩ := result
  have hnothing : storedOf ⟨.newTextMessage userId senderDeviceId request, .ok ⟨status, envelope⟩⟩ = none →
      Pushed (past ++ [⟨.newTextMessage userId senderDeviceId request, .ok ⟨status, envelope⟩⟩]) :=
    fun h => (hpast.snoc rfl h).pushed
  cases status with
  | success =>
    cases envelope with
    | none => exact fun _ => ⟨_, rfl, hfailure _ _, hnothing rfl⟩
    | some envelope =>
      exact obeys_given_reply_tryCatch fun _ =>
        ⟨_, rfl, hsuccess _, hpast.stored_then_pushed userId senderDeviceId request envelope _⟩
  | duplicateRequest =>
    cases envelope with
    | none => exact fun _ => ⟨_, rfl, hfailure _ _, hnothing rfl⟩
    | some envelope => exact fun _ => ⟨_, rfl, hsuccess _, hnothing rfl⟩
  | invalidRequest => exact fun _ => ⟨_, rfl, hfailure _ _, hnothing rfl⟩
  | permissionDenied => exact fun _ => ⟨_, rfl, hfailure _ _, hnothing rfl⟩
  | conflict => exact fun _ => ⟨_, rfl, hfailure _ _, hnothing rfl⟩
  | databaseUnavailable => exact fun _ => ⟨_, rfl, hfailure _ _, hnothing rfl⟩
  | retryLater => exact fun _ => ⟨_, rfl, hfailure _ _, hnothing rfl⟩
  | internalError => exact fun _ => ⟨_, rfl, hfailure _ _, hnothing rfl⟩

theorem not_isPush_pageResponse (request : SyncEnvelopeRequest) (page : Option EnvelopePage) :
    ¬ IsPush (pageResponse request page) := by
  cases page with
  | none => exact not_isPush_failure isResultType_sync _ _
  | some page => exact not_isPush_success isResultType_sync _

theorem not_isPush_syncFailure (error : Error) : ¬ IsPush (syncFailure error) := by
  cases error <;> exact not_isPush_failure isResultType_sync _ _

theorem not_isPush_ackResponse (request : AckEnvelopeRequest) (ids : Option (List Uuid)) :
    ¬ IsPush (ackResponse request ids) := by
  cases ids with
  | none => exact not_isPush_failure isResultType_ack _ _
  | some ids => exact not_isPush_success isResultType_ack _

theorem not_isPush_ackFailure (error : Error) : ¬ IsPush (ackFailure error) := by
  cases error <;> exact not_isPush_failure isResultType_ack _ _

/-- The three types of request that are answered once; the test route may not answer at all. -/
def Answered (router : WebsocketRouter) : Prop :=
  router = .newTextMessage ∨ router = .syncEnvelope ∨ router = .ackEnvelope

theorem obeys_route_once {sodium : Sodium} {task : Task} {past : List DispatcherEvent}
    (hrouter : Answered task.router) (hpast : Silent past) :
    Obeys AnyCall (Given fun trace _ => OneResult trace) (route sodium task) past := by
  rcases hrouter with h | h | h
  · simp only [route, h]
    rw [newTextMessage]
    split
    · exact obeys_given_reply (hpast.pushed.oneResult (not_isPush_failure isResultType_message _ _) _)
    · exact obeys_request_oneResult hpast (fun _ => rfl) (fun _ => rfl)
        (fun _ => not_isPush_failure isResultType_message _ _) (obeys_messageResponse_once hpast)
  · simp only [route, h]
    rw [syncEnvelope]
    split
    · exact obeys_given_reply (hpast.pushed.oneResult (not_isPush_failure isResultType_sync _ _) _)
    · exact obeys_request_oneResult hpast (fun _ => rfl) (fun _ => rfl) not_isPush_syncFailure
        fun page _ => ⟨_, rfl, not_isPush_pageResponse _ page, (hpast.snoc rfl rfl).pushed⟩
  · simp only [route, h]
    rw [ackEnvelope]
    split
    · exact obeys_given_reply (hpast.pushed.oneResult (not_isPush_failure isResultType_ack _ _) _)
    · exact obeys_request_oneResult hpast (fun _ => rfl) (fun _ => rfl) not_isPush_ackFailure
        fun ids _ => ⟨_, rfl, not_isPush_ackResponse _ ids, (hpast.snoc rfl rfl).pushed⟩

/-- A task of one of the three types gives its one result. -/
theorem obeys_runTask_once {sodium : Sodium} {task : Task} (htask : TaskOf user device task)
    (hrouter : Answered task.router) :
    Obeys AnyCall (Given fun trace _ => OneResult trace) (runTask sodium task) [] := by
  rw [runTask, htask.authResult, htask.sessionUserId, htask.sessionDeviceId, validateSessionRequest_ok]
  refine Effects.obeys_bind ⟨trivial, fun ans => ?_⟩
  have hsilent : Silent [(⟨.verifySessionIdentity user device, ans⟩ : DispatcherEvent)] := ⟨rfl, rfl⟩
  refine (obeys_validateIdentity_once hsilent ans).mono fun trace r hr => ?_
  by_cases hdelivered : Delivered trace
  · rcases hr hdelivered with ⟨rfl, hquiet⟩ | ⟨rfl, hone⟩
    · exact obeys_route_once hrouter hquiet
    · exact fun _ => hone
  · rcases r with error | valid
    · exact fun h => absurd h hdelivered
    · exact obeys_of_failed hdelivered

/-! ### Dispatching -/

/-- What has happened when `dispatch` returns: it queued one task of the session and replied nothing,
or it replied itself. -/
def DispatchedOnce (user device : Uuid) (router : WebsocketRouter) (trace : List DispatcherEvent) : Prop :=
  (∃ task, accepted trace = [task] ∧ TaskOf user device task ∧ task.router = router ∧ Silent trace) ∨
    accepted trace = [] ∧ OneResult trace

theorem obeys_dispatchAs_once {payload : Json} {type : String}
    (htype : payload.find "type" = some (.string type)) (hrouter : parseType type ≠ .unknown)
    {past : List DispatcherEvent} (hpast : Silent past) (haccepted : accepted past = []) :
    Obeys AnyCall (Given fun trace _ => DispatchedOnce user device (parseType type) trace)
      (dispatchAs device user user (.ok user) payload) past := by
  rw [dispatchAs, htype]
  simp only [if_neg hrouter]
  refine Effects.obeys_tryCatch (Effects.obeys_perform trivial fun ans => ?_)
  rcases ans with error | _
  · refine obeys_given_reply (Or.inr ⟨?_, ?_⟩)
    · rw [accepted, List.filterMap_append, List.filterMap_append]
      rw [accepted] at haccepted
      rw [haccepted]
      rfl
    · exact (hpast.snoc rfl rfl).pushed.oneResult
        (not_isPush_failure (isResultType_responseType _) _ _) _
  · refine fun _ => Or.inl ⟨⟨parseType type, payload, user, .ok user, user, device⟩, ?_,
      ⟨rfl, rfl, rfl, rfl, type, htype, rfl⟩, rfl, hpast.snoc rfl rfl⟩
    rw [accepted, List.filterMap_append]
    rw [accepted] at haccepted
    rw [haccepted]
    rfl

/-- A token that has not been found to be the user's is not found so by a reply. -/
theorem obeys_reply_without_token {message : Json} {past : List DispatcherEvent}
    {P : List DispatcherEvent → Prop} (h : ¬ TokenOf user past) :
    Obeys AnyCall (Given fun trace _ => TokenOf user trace → P trace) (reply message) past := by
  refine obeys_given_reply fun htoken => absurd ?_ h
  obtain ⟨token, hmem⟩ := htoken
  rcases List.mem_append.mp hmem with hmem | hmem
  · exact ⟨token, hmem⟩
  · cases List.mem_singleton.mp hmem

theorem not_tokenOf_nil : ¬ TokenOf user [] := fun ⟨_, h⟩ => List.not_mem_nil h

theorem not_tokenOf_singleton {token : String} {ans : Except Error (Except AccessTokenError Uuid)}
    (h : ans ≠ .ok (.ok user)) : ¬ TokenOf user [⟨.verifyToken token, ans⟩] := by
  rintro ⟨token', hmem⟩
  cases List.mem_singleton.mp hmem
  exact h rfl

/-- With a token of the session's user, `dispatch` queues the request or answers it. -/
theorem obeys_dispatch_once {frame : ApplicationMessage} {payload : Json} {type : String}
    (hpayload : frame.payload = .json payload) (hobject : payload.isObject)
    (htype : payload.find "type" = some (.string type)) (hrouter : parseType type ≠ .unknown) :
    Obeys AnyCall
      (Given fun trace _ => TokenOf user trace →
        DispatchedOnce user device (parseType type) trace)
      (dispatch device user frame) [] := by
  simp only [dispatch, hpayload, hobject, Bool.true_eq_false, if_false]
  split
  · exact obeys_reply_without_token not_tokenOf_nil
  · refine Effects.obeys_bind ?_
    rw [authenticate]
    split
    · exact obeys_reply_without_token not_tokenOf_nil
    · refine ⟨trivial, fun ans => ?_⟩
      rcases ans with error | (_ | _) | userId
      · exact fun _ htoken => absurd htoken (not_tokenOf_singleton (by simp))
      · exact obeys_reply_without_token (not_tokenOf_singleton (by simp))
      · exact obeys_reply_without_token (not_tokenOf_singleton (by simp))
      · change Obeys _ _ (if userId ≠ user then _ else _) _
        split
        · next hother =>
          exact obeys_reply_without_token (not_tokenOf_singleton (by simpa using hother))
        · next hsame =>
          obtain rfl : userId = user := not_not.mp hsame
          exact (obeys_dispatchAs_once htype hrouter ⟨rfl, rfl⟩ rfl).mono
            fun trace r hr hdelivered _ => hr hdelivered

/-- **One request, one result; one new envelope, one push.** Take a text frame with a JSON object of
one of the three types, whose token is found to be the session user's, and let no reply throw. Then
`dispatch` and the task it may have queued reply with one message that is no push, after one push for
each envelope that `ChatService` has reported as newly stored, of which there is at most one, and the
push carries that envelope. -/
theorem one_result_per_request (sodium : Sodium) (parser : JsonParser) {frame : Frame} {payload : Json}
    {type : String} (htext : frame.opcode = .text) (hparse : parser.parse frame.payload = some payload)
    (hobject : payload.isObject) (htype : payload.find "type" = some (.string type))
    (hthree : type ∈ ["chat.newTextMessage", "chat.sync.envelope", "chat.envelopes.ack"])
    {dispatching : List DispatcherEvent} {result : Except Error Unit}
    (hdispatch : Runs (dispatch device user (applicationParse parser frame)) dispatching result)
    (htoken : TokenOf user dispatching) {running : List (List DispatcherEvent)}
    (hrunning : List.Forall₂ (fun task trace => ∃ r, Runs (runTask sodium task) trace r)
      (accepted dispatching) running)
    (hreplies : Delivered (dispatching ++ running.flatten)) :
    ∃ pushes answer, replies (dispatching ++ running.flatten) = pushes ++ [answer] ∧ ¬ IsPush answer ∧
      List.Forall₂ Carries pushes (stored (dispatching ++ running.flatten)) ∧
      (stored (dispatching ++ running.flatten)).length ≤ 1 := by
  have hanswered : Answered (parseType type) := by
    have hall : ∀ type ∈ ["chat.newTextMessage", "chat.sync.envelope", "chat.envelopes.ack"],
        parseType type = .newTextMessage ∨ parseType type = .syncEnvelope ∨
          parseType type = .ackEnvelope := by decide
    exact hall type hthree
  have hknown : parseType type ≠ .unknown := by
    rcases hanswered with h | h | h <;> rw [h] <;> decide
  have hpayload : (applicationParse parser frame).payload = .json payload := by
    rw [applicationParse, if_pos htext, hparse]
  obtain ⟨hdelivered, hrest⟩ := Delivered.append_iff.mp hreplies
  have hone : OneResult (dispatching ++ running.flatten) := by
    have hobeys : Obeys AnyCall (Given fun trace _ => TokenOf user trace →
        DispatchedOnce user device (parseType type) trace)
          (dispatch device user (applicationParse parser frame)) [] :=
      obeys_dispatch_once hpayload hobject htype hknown
    have hdispatched := (hobeys.of_runs hdispatch).2
    rw [List.nil_append] at hdispatched
    rcases hdispatched hdelivered htoken with
      ⟨task, htask, hsession, hrouter, hsilent⟩ | ⟨hnone, hone⟩
    · rw [htask] at hrunning
      obtain ⟨trace, rest, ⟨r, hruns⟩, hnil, rfl⟩ := List.forall₂_cons_left_iff.mp hrunning
      obtain rfl := List.forall₂_nil_left_iff.mp hnil
      rw [List.flatten_cons, List.flatten_nil, List.append_nil] at hrest ⊢
      have hbody : Obeys AnyCall (Given fun trace _ => OneResult trace) (runTask sodium task) [] :=
        obeys_runTask_once hsession (hrouter ▸ hanswered)
      have hanswer := (hbody.of_runs hruns).2
      rw [List.nil_append] at hanswer
      obtain ⟨message, hmessage, hreply, hlength⟩ := hanswer hrest
      refine ⟨message, hmessage, ?_, ?_⟩
      · rw [replies_append, stored_append, hsilent.1, hsilent.2, List.nil_append, List.nil_append]
        exact hreply
      · rw [stored_append, hsilent.2]
        exact hlength
    · rw [hnone] at hrunning
      obtain rfl := List.forall₂_nil_left_iff.mp hrunning
      rw [List.flatten_nil, List.append_nil]
      exact hone
  obtain ⟨answer, hanswer, hreply, hlength⟩ := hone
  refine ⟨_, answer, hreply, hanswer, ?_, hlength⟩
  rw [List.forall₂_map_left_iff]
  exact List.forall₂_same.mpr fun envelope _ => carries_onlineSync envelope

/-- The synchronization request gets the one answer that its page was denied. -/
theorem one_result_per_request_sync :
    ∃ pushes answer, replies ([⟨.verifyToken "t", .ok (.ok 1)⟩, ⟨.receiveTask Sample.syncTask, .ok ()⟩] ++
        [[⟨.verifySessionIdentity 1 2, .ok .success⟩, ⟨.syncEnvelopePage 1 ⟨2, []⟩, .ok none⟩,
          ⟨.reply (pageResponse ⟨2, []⟩ none), .ok ()⟩]].flatten) = pushes ++ [answer] ∧
      ¬ IsPush answer := by
  obtain ⟨pushes, answer, hreplies, hanswer, -⟩ := one_result_per_request ⟨fun _ _ => none⟩ Sample.parser
    rfl Sample.parse_syncFrame rfl rfl (by decide) Sample.dispatch_syncFrame
    ⟨"t", List.mem_cons_self⟩ (.cons ⟨_, Sample.runTask_syncTask _⟩ .nil) (by
      intro e he
      simp only [List.flatten_cons, List.flatten_nil, List.append_nil, List.cons_append,
        List.nil_append, List.mem_cons, List.not_mem_nil, or_false] at he
      rcases he with rfl | rfl | rfl | rfl | rfl <;> rfl)
  exact ⟨pushes, answer, hreplies, hanswer⟩

end ChatBackend
