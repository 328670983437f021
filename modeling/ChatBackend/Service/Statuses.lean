import ChatBackend.Service.Retries

/-!
# What a status says

All that a caller of `newTextMessage` learns about the store is a status. What it says is compared here
with what the attempts of the call have committed, however each of them ended: an attempt may return, be
rolled back with any error, or be committed and throw nevertheless.

The row that is added is the one that the status speaks of, unless `protocol_version` contains a NUL
character: then the row has only what stands before it.

## Main definitions

* `Attempted` — a finished call as an attempt of `newTextMessage`
* `Truthful` — what a status says

## Main results

* `ChatService.newTextMessage_attempts` — when there is another attempt, and what the last one leads to
* `status_is_truthful_iff`
-/

namespace ChatBackend

open Effects (Runs)
open ReadCommitted EnvelopeRepository

/-! ### The loop -/

/-- After this error the whole operation is tried again. -/
def DatabaseError.isRetried (error : DatabaseError) : Bool :=
  error.isTransactionRetry || error.isUuidCollision

namespace ChatService

variable {userId sender : Uuid} {request : NewTextMessageRequest} {trace : List Attempt}
  {result : NewTextMessageResult} {left : ℕ}

/-- There may be another attempt. -/
def isRetried : Except Error NewMessageResult → Bool
  | .error (.database error) => error.isRetried
  | _ => false

theorem isRetried_iff {answer : Except Error NewMessageResult} :
    isRetried answer ↔ ∃ error : DatabaseError, answer = .error (.database error) ∧ error.isRetried := by
  rcases answer with error | r
  · cases error <;> simp [isRetried]
  · simp [isRetried]

/-- What the last attempt leads to. -/
def ofAnswer : Except Error NewMessageResult → NewTextMessageResult
  | .ok r => ofResult r
  | .error (.database error) =>
    if error.isRetried then ⟨.retryLater, none⟩
    else if error.isConnectionFailure then ⟨.databaseUnavailable, none⟩
    else ⟨.internalError, none⟩
  | .error _ => ⟨.internalError, none⟩

/-- What an error leads to in the end. -/
theorem ofAnswer_error (error : Error) :
    isRetried (.error error) ∧ ofAnswer (.error error) = ⟨.retryLater, none⟩ ∨
      isRetried (.error error) = false ∧ (ofAnswer (.error error) = ⟨.databaseUnavailable, none⟩ ∨
        ofAnswer (.error error) = ⟨.internalError, none⟩) := by
  cases error with
  | database e =>
    rw [ofAnswer]
    by_cases hretried : e.isRetried
    · exact .inl ⟨hretried, if_pos hretried⟩
    · refine .inr ⟨Bool.not_eq_true _ ▸ hretried, ?_⟩
      rw [if_neg hretried]
      by_cases hconnection : e.isConnectionFailure
      · exact .inl (if_pos hconnection)
      · exact .inr (if_neg hconnection)
  | _ => exact .inr ⟨rfl, .inr rfl⟩

/-- **One turn of the loop.** -/
theorem attempts_succ (userId sender : Uuid) (request : NewTextMessageRequest) (left : ℕ) :
    attempts userId sender request (left + 1) = .call ⟨userId, sender, request⟩ fun answer =>
      if isRetried answer ∧ left ≠ 0 then attempts userId sender request left
      else .ret (ofAnswer answer) := by
  rw [attempts]
  congr 1
  funext answer
  rcases answer with error | r
  · cases error with
    | database error =>
      simp only [isRetried, ofAnswer, DatabaseError.isRetried]
      by_cases hretried : (error.isTransactionRetry || error.isUuidCollision) = true
      · by_cases hleft : left = 0
        · simp [hretried, hleft]
        · simp [hretried, hleft]
      · by_cases hconnection : error.isConnectionFailure
        · simp [hretried, hconnection]
        · simp [hretried, hconnection]
    | _ => simp [isRetried, ofAnswer]
  · simp [isRetried, ofAnswer]

/-- **The loop**: all attempts but the last have failed with errors after which there is another one,
there are not more of them than allowed, and the last one decides. -/
theorem attempts_runs (h : Runs (attempts userId sender request (left + 1)) trace (.ok result)) :
    ∃ before x, trace = before ++ [x] ∧ before.length ≤ left ∧ (∀ y ∈ before, isRetried y.answer) ∧
      result = ofAnswer x.answer := by
  induction left generalizing trace with
  | zero =>
    rw [attempts_succ] at h
    cases h with
    | call answer h =>
      simp only [ne_eq, not_true_eq_false, and_false, if_false] at h
      cases h
      exact ⟨[], ⟨_, answer⟩, rfl, le_rfl, by simp, rfl⟩
  | succ left ih =>
    rw [attempts_succ] at h
    cases h with
    | call answer h =>
      beta_reduce at h
      split at h
      · next hagain =>
        obtain ⟨before, x, rfl, hlength, hbefore, hresult⟩ := ih h
        refine ⟨⟨_, answer⟩ :: before, x, rfl, ?_, List.forall_mem_cons.2 ⟨hagain.1, hbefore⟩, hresult⟩
        rw [List.length_cons]
        omega
      · cases h
        exact ⟨[], ⟨_, answer⟩, rfl, Nat.zero_le _, by simp, rfl⟩

/-- **The attempts of a call.** -/
theorem newTextMessage_attempts
    (h : Runs (newTextMessage userId sender request) trace (.ok result)) :
    if validRequest userId sender request then
      ∃ before x, trace = before ++ [x] ∧ before.length ≤ 2 ∧ (∀ y ∈ before, isRetried y.answer) ∧
        result = ofAnswer x.answer
    else trace = [] ∧ result = ⟨.invalidRequest, none⟩ := by
  rw [newTextMessage] at h
  by_cases hvalid : validRequest userId sender request = false
  · rw [if_pos hvalid] at h
    rw [hvalid, if_neg Bool.false_ne_true]
    cases h
    exact ⟨rfl, rfl⟩
  · rw [if_neg hvalid] at h
    rw [if_pos (by simpa using hvalid)]
    exact attempts_runs h

/-- There is another attempt only after one of these errors. -/
theorem newTextMessage_again (h : Runs (newTextMessage userId sender request) trace (.ok result))
    {before after : List Attempt} {x y : Attempt} (htrace : trace = before ++ x :: y :: after) :
    isRetried x.answer := by
  have hattempts := newTextMessage_attempts h
  split at hattempts
  · obtain ⟨before', last, heq, -, hretried, -⟩ := hattempts
    have hdrop : before ++ x :: (y :: after).dropLast = before' := by
      have hlast := congrArg List.dropLast (htrace.symm.trans heq)
      rwa [List.dropLast_concat, List.dropLast_append_of_ne_nil (by simp), List.dropLast_cons_of_ne_nil
        (by simp)] at hlast
    exact hretried x (hdrop ▸ by simp)
  · rw [hattempts.1] at htrace
    simp at htrace

end ChatService

/-! ### What a call has committed -/

/-- A finished call as an attempt. The server sends the SQLSTATEs after which there is another attempt
only with a rollback, so they do not come from a `COMMIT` that was carried out. -/
structure Attempted (e : StoreEvent) (x : ChatService.Attempt) : Prop where
  attempt : IsAttempt e x
  lost : e.outcome = .lost → ChatService.isRetried x.answer = false

/-- What the attempts of a call have committed together. -/
def committedBy (events : List StoreEvent) : List Write := events.flatMap fun e => e.writes

/-- **What a status says** about the row of the message: that the call has added it, that it was there
before, that the call has changed nothing, or that the call may have added it. -/
def Truthful (sender : Uuid) (request : NewTextMessageRequest) (events : List StoreEvent)
    (result : NewTextMessageResult) : Prop :=
  match result.status with
  | .success => ∃ E, result.envelope = some E ∧ E = answered sender request E.envelopeId E.seq ∧
      committedBy events = [.insertEnvelope ⟨E, none⟩]
  | .duplicateRequest => ∃ E, result.envelope = some E ∧
      E = answered sender request E.envelopeId E.seq ∧ committedBy events = [] ∧
      ∃ e ∈ events, ∃ row ∈ e.before.messageEnvelopes, row.toEnvelope = E
  | .invalidRequest | .permissionDenied | .conflict | .retryLater => committedBy events = []
  | .databaseUnavailable | .internalError => committedBy events = [] ∨
      ∃ id seq, committedBy events = [.insertEnvelope ⟨answered sender request id seq, none⟩]

variable {P : Platform} {allows : List StoreEvent → Call → Prop} {db₀ : Db} {c : StoreConfig}
  {userId sender : Uuid} {request : NewTextMessageRequest} {e : StoreEvent} {events : List StoreEvent}
  {x : ChatService.Attempt} {trace : List ChatService.Attempt} {result : NewTextMessageResult}

theorem committedBy_concat (events : List StoreEvent) (e : StoreEvent) :
    committedBy (events ++ [e]) = committedBy events ++ e.writes := by
  simp [committedBy]

/-- An attempt after which there may be another one has left nothing. -/
theorem Attempted.writes_of_retried (h : Attempted e x) (hcommits : Serial.Commits (Committed P) e)
    (hretried : ChatService.isRetried x.answer) : e.writes = [] := by
  have houtcome := h.attempt.2
  rw [Serial.Commits] at hcommits
  cases ho : e.outcome with
  | returned reply =>
    rw [ho] at houtcome
    obtain ⟨r, -, hr⟩ := houtcome
    rw [hr] at hretried
    cases hretried
  | threw error => simpa [ho] using hcommits
  | lost =>
    rw [h.lost ho] at hretried
    cases hretried

/-- What is stored for a text without NUL character. -/
theorem stored_of_nulFree (hnul : NulFree request.protocolVersion) (id : Uuid) (seq : ℤ) :
    stored sender request id seq = answered sender request id seq := by
  rw [stored, answered, cString_eq_self hnul]

/-- The row that a look-up finds first. -/
theorem row_of_head {db : Db} {recipient messageId : Uuid} {existing : Envelope}
    (h : (db.envelopesFor sender recipient messageId).head? = some existing) :
    (∃ row ∈ db.messageEnvelopes, row.toEnvelope = existing) ∧ existing.senderDeviceId = sender ∧
      existing.recipientDeviceId = recipient ∧ existing.messageId = messageId := by
  have hmem := List.mem_of_mem_head? (Option.mem_def.2 h)
  rw [Db.envelopesFor, List.mem_filter] at hmem
  exact ⟨List.mem_map.1 hmem.1, of_decide_eq_true hmem.2⟩

/-- **The last attempt**, alone, with a text that has no NUL character. -/
theorem Attempted.truthful (h : Attempted e x) (hcommits : Serial.Commits (Committed P) e)
    (hop : x.op = ⟨userId, sender, request⟩) (hnul : NulFree request.protocolVersion) :
    Truthful sender request [e] (ChatService.ofAnswer x.answer) := by
  have hwrites : committedBy [e] = e.writes := by simp [committedBy]
  obtain ⟨hcall, houtcome⟩ := h.attempt
  rw [hop] at hcall
  rw [Serial.Commits] at hcommits
  cases ho : e.outcome with
  | returned reply =>
    rw [ho] at houtcome hcommits
    obtain ⟨r, rfl, hr⟩ := houtcome
    rw [hcall] at hcommits
    obtain ⟨r', heq, hspec⟩ := hcommits.save
    obtain rfl := Reply.message.inj heq
    rw [hr]
    generalize hws : e.writes = ws at hspec
    rw [hws] at hwrites
    cases hspec with
    | success id =>
      refine ⟨_, rfl, rfl, ?_⟩
      rw [hwrites, stored_of_nulFree hnul]
    | duplicate existing hpermits hhead hversion hpacket =>
      obtain ⟨hrow, hsender, hrecipient, hmessage⟩ := row_of_head hhead
      refine ⟨_, rfl, rfl, hwrites, e, List.mem_singleton_self e, hrow.imp fun row hrow => ?_⟩
      obtain ⟨id, m, s, r, v, p, seq⟩ := existing
      obtain ⟨rfl, rfl, rfl, rfl, rfl⟩ : s = _ ∧ r = _ ∧ m = _ ∧ v = _ ∧ p = _ :=
        ⟨hsender, hrecipient, hmessage, hversion, hpacket⟩
      exact hrow
    | conflict => exact hwrites
    | permissionDenied => exact hwrites
  | threw error =>
    rw [ho] at houtcome hcommits
    have hnone : committedBy [e] = [] := hwrites.trans hcommits
    rw [show x.answer = .error error from houtcome]
    rcases ChatService.ofAnswer_error error with ⟨-, heq⟩ | ⟨-, heq | heq⟩
    · rw [heq]
      exact hnone
    · rw [heq]
      exact .inl hnone
    · rw [heq]
      exact .inl hnone
  | lost =>
    have hretried := h.lost ho
    rw [ho] at houtcome hcommits
    obtain ⟨error, hanswer⟩ := houtcome
    rw [hcall] at hcommits
    -- it may have committed, and no status that denies it is given
    have hmaybe : committedBy [e] = [] ∨ ∃ id seq,
        committedBy [e] = [.insertEnvelope ⟨answered sender request id seq, none⟩] := by
      obtain ⟨r, hspec⟩ := hcommits
      obtain ⟨r', -, hspec⟩ := hspec.save
      rw [hwrites]
      generalize e.writes = ws at hspec
      cases hspec with
      | success id => exact .inr ⟨id, _, by rw [stored_of_nulFree hnul]⟩
      | duplicate => exact .inl rfl
      | conflict => exact .inl rfl
      | permissionDenied => exact .inl rfl
    rw [hanswer] at hretried ⊢
    rcases ChatService.ofAnswer_error error with ⟨hyes, -⟩ | ⟨-, heq | heq⟩
    · rw [hretried] at hyes
      cases hyes
    · rw [heq]
      exact hmaybe
    · rw [heq]
      exact hmaybe

/-- Attempts before the last one that have left nothing. -/
theorem Truthful.of_last (h : Truthful sender request [e] result) (hnone : committedBy events = []) :
    Truthful sender request (events ++ [e]) result := by
  have hsame : committedBy (events ++ [e]) = committedBy [e] := by
    rw [committedBy_concat, hnone]
    simp [committedBy]
  rw [Truthful] at h ⊢
  rw [hsame]
  cases hstatus : result.status with
  | duplicateRequest =>
    rw [hstatus] at h
    obtain ⟨E, hE, hcontent, hwrites, f, hf, hrow⟩ := h
    exact ⟨E, hE, hcontent, hwrites, f, List.mem_append_right _ hf, hrow⟩
  | _ =>
    rw [hstatus] at h
    exact h

/-- What is claimed of the calls with one request: whatever else goes on, and however their attempts
end, their statuses tell the truth, there are at most three attempts, and another one only after a
rollback that tells to try again or a collision of the envelope's id. -/
def TellsTheTruth (P : Platform) (userId sender : Uuid) (request : NewTextMessageRequest) : Prop :=
  ∀ (allows : List StoreEvent → Call → Prop) (db₀ : Db) (c : StoreConfig) (events : List StoreEvent)
    (trace : List ChatService.Attempt) (result : NewTextMessageResult),
    Reachable (store P allows) db₀ c → events.Sublist c.log → List.Forall₂ Attempted events trace →
    Runs (ChatService.newTextMessage userId sender request) trace (.ok result) →
      Truthful sender request events result ∧ trace.length ≤ 3 ∧
        ∀ before x y after, trace = before ++ x :: y :: after →
          ∃ error : DatabaseError, x.answer = .error (.database error) ∧ error.isRetried

/-- The calls of a history that are the attempts of a run, up to the last of them. -/
theorem forall₂_concat {before : List ChatService.Attempt}
    (h : List.Forall₂ Attempted events (before ++ [x])) :
    ∃ events' e, events = events' ++ [e] ∧ List.Forall₂ Attempted events' before ∧ Attempted e x := by
  induction before generalizing events with
  | nil =>
    obtain ⟨e, rest, he, hrest, rfl⟩ := List.forall₂_cons_right_iff.1 h
    obtain rfl := List.forall₂_nil_right_iff.1 hrest
    exact ⟨[], e, rfl, .nil, he⟩
  | cons y before ih =>
    obtain ⟨f, rest, hf, hrest, rfl⟩ := List.forall₂_cons_right_iff.1 h
    obtain ⟨events', e, rfl, hevents, he⟩ := ih hrest
    exact ⟨f :: events', e, rfl, .cons hf hevents, he⟩

/-- Attempts after which there may be another one have left nothing. -/
theorem committedBy_retried (h : List.Forall₂ Attempted events trace)
    (hcommits : ∀ e ∈ events, Serial.Commits (Committed P) e)
    (hretried : ∀ x ∈ trace, ChatService.isRetried x.answer) : committedBy events = [] := by
  induction h with
  | nil => rfl
  | @cons e x events trace he _ ih =>
    rw [List.forall_mem_cons] at hcommits hretried
    rw [committedBy, List.flatMap_cons, he.writes_of_retried hcommits.1 hretried.1]
    exact ih hcommits.2 hretried.2

/-- **A request without NUL character**: every call tells the truth. -/
theorem tellsTheTruth_of_nulFree (hnul : ChatService.validRequest userId sender request →
    NulFree request.protocolVersion) : TellsTheTruth P userId sender request := by
  intro allows db₀ c events trace result h hsub hattempted hruns
  have hagain : ∀ before x y after, trace = before ++ x :: y :: after →
      ∃ error : DatabaseError, x.answer = .error (.database error) ∧ error.isRetried :=
    fun before x y after htrace =>
      ChatService.isRetried_iff.1 (ChatService.newTextMessage_again hruns htrace)
  have hattempts := ChatService.newTextMessage_attempts hruns
  split at hattempts
  · next hvalid =>
    obtain ⟨before, x, rfl, hlength, hretried, rfl⟩ := hattempts
    obtain ⟨events', e, rfl, hevents, he⟩ := forall₂_concat hattempted
    have hcommits : ∀ f ∈ events' ++ [e], Serial.Commits (Committed P) f := by
      intro f hf
      obtain ⟨u, -, hu, -⟩ := (serial h).split_mem (hsub.subset hf)
      exact hu.commits
    have hnone := committedBy_retried hevents (fun f hf => hcommits f (List.mem_append_left _ hf)) hretried
    have hop := (ChatService.newTextMessage_runs hruns).1 x (List.mem_append_right _ (List.mem_singleton_self x))
    refine ⟨?_, ?_, hagain⟩
    · exact (he.truthful (hcommits e (List.mem_append_right _ (List.mem_singleton_self e))) hop
        (hnul hvalid)).of_last hnone
    · rw [List.length_append, List.length_singleton]
      omega
  · obtain ⟨rfl, rfl⟩ := hattempts
    obtain rfl := List.forall₂_nil_right_iff.1 hattempted
    exact ⟨rfl, Nat.zero_le _, hagain⟩

/-! ### With a NUL character -/

/-- Alone, the first envelope of a store gets number 1. -/
theorem solo_insertEnvelope_first {db : Db} {s : Local Db Write Key} (hs : s.writes = [])
    (hempty : db.messageEnvelopes = []) (sender recipient messageId id : Uuid) (version : String)
    (packet : Bytes) :
    ∃ s', (insertEnvelope sender recipient messageId version (encodeHex packet)).solo (schema P) db s
        [id] = some (.ok (id, 1), s', []) ∧
      s'.writes = [.insertEnvelope ⟨⟨id, messageId, sender, recipient, version, packet, 1⟩, none⟩] := by
  have hmax : db.maxSeq (pairOf sender recipient) = 0 := by
    simp [Db.maxSeq, Db.pairEnvelopes, hempty]
  let row : EnvelopeRow := ⟨⟨id, messageId, sender, recipient, version, packet, 1⟩, none⟩
  have hviolates : row.violates db = none := by simp [EnvelopeRow.violates, hempty, row]
  obtain ⟨s₁, hlocks, hw₁⟩ : ∃ s', (acquireAll (row.keys.map fun key => (key, Mode.exclusive)) :
      Tx Unit).solo (schema P) db (s.see db) ([] : List Uuid) = some (.ok (), s', []) ∧
        s'.writes = s.writes := solo_acquireAll (s.see db) _
  have hinsert : (insertRow row.keys row.violates (.insertEnvelope row) : Tx Unit).solo (schema P) db
      (s.see db) [] = some (.ok (), (s₁.see db).put (.insertEnvelope row), []) := by
    rw [insertRow, Prog.solo_bind_of_ok hlocks, Prog.solo, Schema.view, hw₁, hs, Schema.applyAll_nil,
      hviolates]
    rfl
  refine ⟨(s₁.see db).put (.insertEnvelope row), ?_, ?_⟩
  · rw [insertEnvelope, Prog.solo, Schema.view, hs, Schema.applyAll_nil, decodeHex_encodeHex]
    simp only [hmax]
    rw [if_neg (by decide)]
    change Prog.solo _ db ((insertRow row.keys row.violates (Write.insertEnvelope row)).bind _) _ _ = _
    rw [Prog.solo_bind_of_ok hinsert]
    rfl
  · rw [Local.writes_put, Local.writes_see, hw₁, hs]
    rfl

/-- Alone, the first message of a store is stored. -/
theorem solo_saveNewMessage_first {db : Db} (hempty : db.messageEnvelopes = [])
    (hp : db.permits userId sender request.recipientDeviceId) (id : Uuid) :
    ∃ s, (saveNewMessage P userId sender request).solo (schema P) db {} [id] =
        some (.ok ⟨.success, some (answered sender request id 1)⟩, s, []) ∧
      s.writes = [.insertEnvelope ⟨stored sender request id 1, none⟩] := by
  obtain ⟨s₁, hpermitted, hw₁⟩ : ∃ s', (permitted userId sender request.recipientDeviceId).solo (schema P)
      db (({} : Local Db Write Key).hold (pairKey P sender request.recipientDeviceId) .exclusive) [id] =
        some (.ok true, s', [id]) ∧ s'.writes = [] := solo_permitted rfl hp
  obtain ⟨s₂, hinsert, hw₂⟩ := solo_insertEnvelope_first (P := P)
    (show (s₁.see db).writes = [] from hw₁) hempty sender request.recipientDeviceId request.messageId id
    (cString request.protocolVersion) request.packet
  refine ⟨s₂, ?_, hw₂⟩
  change Prog.solo _ db ((permitted userId sender request.recipientDeviceId).bind _) _ _ = _
  rw [Prog.solo_bind_of_ok hpermitted, if_neg (by decide), Prog.solo, Schema.view, hw₁,
    Schema.applyAll_nil]
  have hnone : db.envelopesFor sender request.recipientDeviceId request.messageId = [] := by
    simp [Db.envelopesFor, hempty]
  rw [hnone]
  change Prog.solo _ db ((insertEnvelope _ _ _ _ _).bind _) _ _ = _
  rw [Prog.solo_bind_of_ok hinsert]
  rfl

/-- A store in which every device is an active device of one user. -/
def ownedBy (userId : Uuid) : Db where
  clock := 0
  users _ := some ⟨true, "", ""⟩
  userDevices _ := some ⟨userId, "", .active, [], "", none, none⟩
  friendRelation _ _ := false
  friendRequests _ := none
  messageEnvelopes := []
  deviceOneTimePrekeys := []
  deviceKeyBundles := []
  loginTickets _ := none
  refreshTokens := []

/-- The history of one call that stores a message. -/
theorem reachable_stored (P : Platform) (userId : Uuid) (hne : sender ≠ request.recipientDeviceId)
    (id : Uuid) :
    ∃ (c : StoreConfig) (e : StoreEvent),
      Reachable (store P fun _ _ => True) (ownedBy userId) c ∧ c.log = [e] ∧
        Attempted e ⟨⟨userId, sender, request⟩, .ok ⟨.success, some (answered sender request id 1)⟩⟩ ∧
        e.writes = [.insertEnvelope ⟨stored sender request id 1, none⟩] := by
  have hp : (ownedBy userId).permits userId sender request.recipientDeviceId :=
    ⟨hne, rfl, userId, rfl, .inl rfl⟩
  obtain ⟨s, hsolo, hw⟩ := solo_saveNewMessage_first (P := P) rfl hp id
  have hbody : ((store P fun _ _ => True).body (.saveNewMessage userId sender request)).solo (schema P)
      (ownedBy userId) {} [id] =
        some (.ok (.message ⟨.success, some (answered sender request id 1)⟩), s, []) := by
    change Prog.solo _ _ (Prog.bind _ _) _ _ = _
    rw [Prog.solo_bind_of_ok hsolo]
    rfl
  have hquiet : (Config.initial (ownedBy userId) : StoreConfig).Quiet := fun _ => rfl
  refine ⟨_, _, Steps.returned hquiet trivial hbody, rfl, ⟨⟨rfl, _, rfl, rfl⟩, fun hlost => ?_⟩, hw⟩
  cases hlost

/-- **A request with a NUL character**: the row that is added is not the one that is returned. -/
theorem not_tellsTheTruth (hvalid : ChatService.validRequest userId sender request)
    (hnul : ¬ NulFree request.protocolVersion) : ¬ TellsTheTruth P userId sender request := by
  intro htruth
  have hne : sender ≠ request.recipientDeviceId := by
    rintro heq
    simp [ChatService.validRequest, heq] at hvalid
  obtain ⟨c, e, hc, hlog, hattempted, hwrites⟩ := reachable_stored P userId hne 1
  obtain ⟨⟨E, hE, -, hcommitted⟩, -⟩ := htruth _ _ c [e] _ _ hc (by rw [hlog]) (.cons hattempted .nil)
    (ChatService.newTextMessage_runs_of_ok hvalid)
  obtain rfl : answered sender request 1 1 = E := Option.some.inj hE
  have hrow : stored sender request 1 1 = answered sender request 1 1 := by
    have hsame : [Write.insertEnvelope ⟨stored sender request 1 1, none⟩] =
        [.insertEnvelope ⟨answered sender request 1 1, none⟩] := by
      rw [← hcommitted, ← hwrites]
      simp [committedBy]
    simpa using hsame
  exact hnul (cString_eq_self_iff.1 (congrArg Envelope.protocolVersion hrow))

/-- **Statuses tell the truth** exactly for the requests that are refused as invalid and those whose
`protocol_version` has no NUL character. -/
theorem status_is_truthful_iff (P : Platform) (userId sender : Uuid) (request : NewTextMessageRequest) :
    TellsTheTruth P userId sender request ↔
      (ChatService.validRequest userId sender request → NulFree request.protocolVersion) := by
  refine ⟨fun htruth hvalid => ?_, tellsTheTruth_of_nulFree⟩
  by_contra hnul
  exact not_tellsTheTruth hvalid hnul htruth

/-- A message whose version ends at a NUL character for the server. -/
theorem status_is_truthful_fails :
    ChatService.validRequest Sample.alice Sample.phone Sample.nulMessage ∧
      ¬ TellsTheTruth Sample.platform Sample.alice Sample.phone Sample.nulMessage := by
  have hvalid : ChatService.validRequest Sample.alice Sample.phone Sample.nulMessage := by
    decide +kernel
  exact ⟨hvalid, not_tellsTheTruth hvalid (by decide)⟩

end ChatBackend
