import ChatBackend.Effects
import ChatBackend.Store.Calls
import ChatBackend.Websocket.Json

/-!
# ChatService

`src/service/ChatService.cpp`: `newTextMessage` checks a request and stores it in up to three
attempts. It is a program whose calls are those of `EnvelopeRepository::saveNewMessage`; `Called`
says which runs of it a history of the store contains.

## Main definitions

* `ChatService.newTextMessage`
* `Called` — a run of `newTextMessage` whose attempts are calls in a history

## Main results

* `ChatService.newTextMessage_runs` — the result is that of the last attempt
-/

namespace ChatBackend

open Effects (Runs Obeys)

/-! ### Database errors -/

namespace DatabaseError

/-- The transaction was rolled back because of others and can be tried again. -/
def isTransactionRetry (error : DatabaseError) : Bool :=
  error.code = "40001" ∨ error.code = "40P01"

/-- The envelope id drawn was taken. -/
def isUuidCollision (error : DatabaseError) : Bool :=
  error.code = "23505" ∧ error.constraint = some "message_envelopes_pkey"

/-- The connection is broken: `kind() == Connection || code().starts_with("08")`. -/
def isConnectionFailure (error : DatabaseError) : Bool :=
  error.kind = .connection || "08".toList.isPrefixOf error.code.toList

end DatabaseError

/-! ### Storing a message -/

/-- `NewTextMessageStatus`. -/
inductive NewTextMessageStatus where
  | success
  | duplicateRequest
  | invalidRequest
  | permissionDenied
  | conflict
  | databaseUnavailable
  | retryLater
  | internalError
  deriving DecidableEq

/-- The statuses that report a failed attempt. -/
def NewTextMessageStatus.isFailure : NewTextMessageStatus → Bool
  | .databaseUnavailable | .retryLater | .internalError => true
  | _ => false

/-- `NewTextMessageResult`. -/
structure NewTextMessageResult where
  status : NewTextMessageStatus
  envelope : Option Envelope := none
  deriving DecidableEq

/-- A call of `EnvelopeRepository::saveNewMessage`. -/
structure SaveNewMessage where
  userId : Uuid
  sender : Uuid
  request : NewTextMessageRequest
  deriving DecidableEq

namespace ChatService

/-- Programs that call `EnvelopeRepository::saveNewMessage`. -/
abbrev Service (α : Type) := Effects.Prog (fun _ : SaveNewMessage => NewMessageResult) Error α

/-- A call of `EnvelopeRepository::saveNewMessage`, with its result. -/
abbrev Attempt := Effects.Event (fun _ : SaveNewMessage => NewMessageResult) Error

/-- The first check of `newTextMessage`. -/
def validRequest (userId senderDeviceId : Uuid) (request : NewTextMessageRequest) : Bool :=
  !(userId.isNil || senderDeviceId.isNil || request.messageId.isNil ||
    request.recipientDeviceId.isNil || senderDeviceId = request.recipientDeviceId ||
    request.packet.isEmpty || 64 * 1024 < request.packet.length ||
    128 < (utf8 request.protocolVersion).length || isBlank request.protocolVersion)

/-- The result of an attempt that returned. -/
def ofResult (result : NewMessageResult) : NewTextMessageResult :=
  match result.status with
  | .success =>
    if result.envelope.isNone then ⟨.internalError, none⟩ else ⟨.success, result.envelope⟩
  | .duplicateRequest =>
    if result.envelope.isNone then ⟨.internalError, none⟩ else ⟨.duplicateRequest, result.envelope⟩
  | .permissionDenied => ⟨.permissionDenied, none⟩
  | .conflict => ⟨.conflict, none⟩

/-- The loop of `newTextMessage`, with the number of attempts left. -/
def attempts (userId senderDeviceId : Uuid) (request : NewTextMessageRequest) :
    ℕ → Service NewTextMessageResult
  | 0 => .ret ⟨.retryLater, none⟩
  | left + 1 => .call ⟨userId, senderDeviceId, request⟩ fun
    | .ok result => .ret (ofResult result)
    | .error (.database error) =>
      if error.isTransactionRetry || error.isUuidCollision then
        -- the whole operation again, after its rollback
        if left = 0 then .ret ⟨.retryLater, none⟩ else attempts userId senderDeviceId request left
      else if error.isConnectionFailure then .ret ⟨.databaseUnavailable, none⟩
      else .ret ⟨.internalError, none⟩
    | .error _ => .ret ⟨.internalError, none⟩

/-- `ChatService::newTextMessage`. -/
def newTextMessage (userId senderDeviceId : Uuid) (request : NewTextMessageRequest) :
    Service NewTextMessageResult :=
  if validRequest userId senderDeviceId request = false then .ret ⟨.invalidRequest, none⟩
  else attempts userId senderDeviceId request 3

variable {userId sender : Uuid} {request : NewTextMessageRequest} {trace : List Attempt}
  {result : NewTextMessageResult}

/-- The result that the last attempt leads to. -/
def Concludes (x : Attempt) (result : NewTextMessageResult) : Prop :=
  match x.answer with
  | .ok r => result = ofResult r
  | .error _ => result.status.isFailure ∧ result.envelope = none

theorem ofResult_eq_success {r : NewMessageResult} {E : Envelope}
    (h : ofResult r = ⟨.success, some E⟩) : r = ⟨.success, some E⟩ := by
  obtain ⟨status, envelope⟩ := r
  cases status <;> cases envelope <;> simp_all [ofResult]

/-- What holds at the end of the loop. -/
def Concluded (past : List Attempt) (r : Except Error NewTextMessageResult) : Prop :=
  ∃ x result, past.getLast? = some x ∧ r = .ok result ∧ Concludes x result

/-- The loop only repeats its one call, and ends as its last attempt says. -/
theorem obeys_attempts (left : ℕ) (past : List Attempt) :
    Obeys (fun _ op => op = ⟨userId, sender, request⟩) Concluded
      (attempts userId sender request (left + 1)) past := by
  have returned : ∀ (past : List Attempt) op r,
      Concluded (past ++ [⟨op, .ok r⟩]) (.ok (ofResult r)) :=
    fun past op r => ⟨⟨op, .ok r⟩, _, List.getLast?_concat, rfl, rfl⟩
  have failed : ∀ (past : List Attempt) op e (status : NewTextMessageStatus), status.isFailure →
      Concluded (past ++ [⟨op, .error e⟩]) (.ok ⟨status, none⟩) :=
    fun past op e status h => ⟨⟨op, .error e⟩, _, List.getLast?_concat, rfl, h, rfl⟩
  induction left generalizing past with
  | zero =>
    refine ⟨rfl, fun ans => ?_⟩
    rcases ans with e | r
    · cases e with
      | database error =>
        dsimp only
        split_ifs <;> exact failed past _ _ _ rfl
      | _ => exact failed past _ _ _ rfl
    · exact returned past _ r
  | succ left ih =>
    refine ⟨rfl, fun ans => ?_⟩
    rcases ans with e | r
    · cases e with
      | database error =>
        dsimp only
        split_ifs <;> first | exact failed past _ _ _ rfl | exact ih _
      | _ => exact failed past _ _ _ rfl
    · exact returned past _ r

/-- **The result of `newTextMessage` is that of its last attempt**; an invalid request is not
attempted. -/
theorem newTextMessage_runs (h : Runs (newTextMessage userId sender request) trace (.ok result)) :
    (∀ x ∈ trace, x.op = ⟨userId, sender, request⟩) ∧
      if validRequest userId sender request then
        ∃ x, trace.getLast? = some x ∧ Concludes x result
      else result = ⟨.invalidRequest, none⟩ := by
  unfold newTextMessage at h
  by_cases hvalid : validRequest userId sender request = false
  · rw [if_pos hvalid] at h
    rw [hvalid, if_neg (by decide)]
    cases h
    exact ⟨by simp, rfl⟩
  · rw [if_neg hvalid] at h
    rw [if_pos (by simpa using hvalid)]
    obtain ⟨hops, x, result', hlast, heq, hx⟩ := (obeys_attempts 2 []).of_runs h
    obtain rfl := Except.ok.inj heq
    refine ⟨fun y hy => ?_, x, hlast, hx⟩
    obtain ⟨before, after, hsplit⟩ := List.append_of_mem hy
    exact hops before y after hsplit

/-- A valid request whose first attempt returns gets that result. -/
theorem newTextMessage_runs_of_ok {r : NewMessageResult} (h : validRequest userId sender request) :
    Runs (newTextMessage userId sender request) [⟨⟨userId, sender, request⟩, .ok r⟩]
      (.ok (ofResult r)) := by
  rw [newTextMessage, if_neg (by simp [h])]
  exact .call _ .ret

end ChatService

/-! ### Attempts in a history of the store -/

/-- The finished call `e` as an attempt. A caller that lost the connection during the commit has an
exception too. -/
def IsAttempt (e : StoreEvent) (x : ChatService.Attempt) : Prop :=
  e.call = .saveNewMessage x.op.userId x.op.sender x.op.request ∧
    match e.outcome with
    | .returned reply => ∃ r, reply = .message r ∧ x.answer = .ok r
    | .threw error => x.answer = .error error
    | .lost => ∃ error, x.answer = .error error

/-- The history contains a run of `newTextMessage` with this result: its attempts are among the
finished calls, in order. -/
def Called (log : List StoreEvent) (userId sender : Uuid) (request : NewTextMessageRequest)
    (result : NewTextMessageResult) : Prop :=
  ∃ events trace, events.Sublist log ∧ List.Forall₂ IsAttempt events trace ∧
    Runs (ChatService.newTextMessage userId sender request) trace (.ok result)

theorem exists_attempt {events : List StoreEvent} {trace : List ChatService.Attempt}
    (h : List.Forall₂ IsAttempt events trace) : ∀ x ∈ trace, ∃ e ∈ events, IsAttempt e x := by
  induction h with
  | nil => simp
  | cons he _ ih =>
    intro x hx
    rcases List.mem_cons.mp hx with rfl | hx
    · exact ⟨_, List.mem_cons_self .., he⟩
    · exact (ih x hx).imp fun e h => ⟨List.mem_cons_of_mem _ h.1, h.2⟩

/-- The message and the result of a call of `saveNewMessage` that returned. -/
def savedMessage (e : StoreEvent) : Option (SaveNewMessage × NewMessageResult) :=
  match e.call, e.outcome with
  | .saveNewMessage userId sender request, .returned (.message r) =>
    some (⟨userId, sender, request⟩, r)
  | _, _ => none

theorem call_of_savedMessage {e : StoreEvent} {x : SaveNewMessage × NewMessageResult}
    (h : savedMessage e = some x) : e.call = .saveNewMessage x.1.userId x.1.sender x.1.request := by
  unfold savedMessage at h
  split at h
  · next hcall houtcome =>
    obtain rfl := Option.some.inj h
    exact hcall
  · cases h

/-- A call that returned is a whole run of `newTextMessage`. -/
theorem Called.single {e : StoreEvent} {userId sender : Uuid} {request : NewTextMessageRequest}
    {r : NewMessageResult} (h : savedMessage e = some (⟨userId, sender, request⟩, r))
    (hvalid : ChatService.validRequest userId sender request) :
    Called [e] userId sender request (ChatService.ofResult r) := by
  refine ⟨[e], [⟨⟨userId, sender, request⟩, .ok r⟩], .refl _, .cons ?_ .nil,
    ChatService.newTextMessage_runs_of_ok hvalid⟩
  obtain ⟨call, outcome, seen, before, ws⟩ := e
  unfold savedMessage at h
  split at h
  · next hcall houtcome =>
    obtain ⟨⟨rfl, rfl, rfl⟩, rfl⟩ : (_ ∧ _ ∧ _) ∧ _ := by simpa using h
    refine ⟨hcall, ?_⟩
    rw [houtcome]
    exact ⟨_, rfl, rfl⟩
  · cases h

/-- Only valid requests are answered with anything but `invalidRequest`. -/
theorem Called.valid {log : List StoreEvent} {userId sender : Uuid}
    {request : NewTextMessageRequest} {result : NewTextMessageResult}
    (h : Called log userId sender request result) (hresult : result.status ≠ .invalidRequest) :
    ChatService.validRequest userId sender request := by
  obtain ⟨events, trace, -, -, hruns⟩ := h
  have hlast := (ChatService.newTextMessage_runs hruns).2
  by_contra hvalid
  rw [if_neg hvalid] at hlast
  exact hresult (by rw [hlast])

/-- **A run of `newTextMessage` in a history** has a call in it that decided its result. -/
theorem Called.last {log : List StoreEvent} {userId sender : Uuid}
    {request : NewTextMessageRequest} {result : NewTextMessageResult}
    (h : Called log userId sender request result)
    (hvalid : ChatService.validRequest userId sender request) :
    ∃ e ∈ log, e.call = .saveNewMessage userId sender request ∧
      ((∃ r, e.outcome = .returned (.message r) ∧ result = ChatService.ofResult r) ∨
        (∀ reply, e.outcome ≠ .returned reply) ∧ result.status.isFailure) := by
  obtain ⟨events, trace, hsub, hattempts, hruns⟩ := h
  obtain ⟨hops, hlast⟩ := ChatService.newTextMessage_runs hruns
  rw [if_pos hvalid] at hlast
  obtain ⟨x, hx, hconcludes⟩ := hlast
  obtain ⟨e, he, hcall, houtcome⟩ := exists_attempt hattempts x (List.mem_of_getLast? hx)
  rw [hops x (List.mem_of_getLast? hx)] at hcall
  refine ⟨e, hsub.subset he, hcall, ?_⟩
  rw [ChatService.Concludes] at hconcludes
  cases ho : e.outcome with
  | returned reply =>
    obtain ⟨r, rfl, hr⟩ : ∃ r, reply = .message r ∧ x.answer = .ok r := by simpa [ho] using houtcome
    rw [hr] at hconcludes
    exact Or.inl ⟨r, rfl, hconcludes⟩
  | threw error =>
    have hr : x.answer = .error error := by simpa [ho] using houtcome
    rw [hr] at hconcludes
    exact Or.inr ⟨by simp, hconcludes.1⟩
  | lost =>
    obtain ⟨error, hr⟩ : ∃ error, x.answer = .error error := by simpa [ho] using houtcome
    rw [hr] at hconcludes
    exact Or.inr ⟨by simp, hconcludes.1⟩

end ChatBackend
