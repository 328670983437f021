import ChatBackend.Databases.DatabaseConnection
import ChatBackend.Service.ChatService

/-!
# Losing the connection

What `newTextMessage` answers when the connection to the database breaks while `saveNewMessage` runs on
it. `DatabaseConnection` reports a loss in two ways. Where it finds, before a command, that the connection
is not there any more, the error is of the kind `Connection`, and the answer is that the database is
unavailable. Where the command itself fails, the error is like that of a command that the server refuses;
then the answer depends on the SQLSTATE, which libpq does not give to errors of its own.

## Main definitions

* `EnvelopeRepository.saveOperation` — `saveNewMessage` on a connection
* `Breaks` — how the connection can break

## Main results

* `loss_is_reported_iff` — when the loss is reported
-/

namespace ChatBackend

open Effects (Prog Runs Propagates propagates_perform propagates_ofExcept)

/-! ### saveNewMessage on a connection -/

/-- The queries of `saveNewMessage`. -/
inductive SaveQuery where
  | isolation | pairLock | devices | friendships | existing | insert
  deriving DecidableEq

/-- A query with its parameters. -/
structure SaveStatement where
  query : SaveQuery
  parameters : List String
  deriving DecidableEq

/-- `DatabaseResult`. -/
abbrev DatabaseResult := List (List (Option String))

namespace DatabaseResult

/-- `value`. -/
def value (result : DatabaseResult) (row column : ℕ) : Except Error String :=
  match (result.getD row []).getD column none with
  | some text => .ok text
  | none => .error (.logicError "Cannot read a null database value")

end DatabaseResult

/-- `parseSeq`, of the text. -/
def parseSeqText (text : String) : Except Error ℤ :=
  let digits := text.toList
  let seq : ℤ := digits.foldl (fun n c => 10 * n + (c.toNat - 48 : ℕ)) 0
  if digits ≠ [] ∧ digits.all Char.isDigit ∧ seq ≤ maxBigint then parseSeq seq
  else .error (dataConversion "Invalid stored sequence")

/-- `boost::uuids::string_generator`, which throws. -/
def uuidOfText (text : String) : Except Error Uuid :=
  match Uuid.ofString text with
  | some uuid => .ok uuid
  | none => .error (.runtimeError "invalid uuid string")

namespace EnvelopeRepository

/-- What a callback of `saveNewMessage` is. -/
abbrev SaveOperation (α : Type) := Prog (fun _ : SaveStatement => DatabaseResult) Error α

/-- The loop over `devices`: the owner of the recipient. -/
def recipientUser (devices : DatabaseResult) (recipientId : String) : ℕ → Except Error String
  | 0 => .ok ""
  | count + 1 => do
    let owner ← recipientUser devices recipientId count
    if (← devices.value count 0) = recipientId then devices.value count 1 else .ok owner

/-- Devices of one account need no friendship. -/
def befriended (userId recipientUserId : String) : SaveOperation Bool :=
  if recipientUserId ≠ userId then
    (Prog.perform ⟨.friendships, [userId, recipientUserId]⟩).bind fun friendships =>
      .ret (decide (friendships.length = 2))
  else .ret true

/-- What is stored under the identifier of the message. -/
def ofExisting (existing : DatabaseResult) (senderDeviceId : Uuid) (request : NewTextMessageRequest) :
    Except Error NewMessageResult := do
  if (← existing.value 0 2) ≠ request.protocolVersion then return ⟨.conflict, none⟩
  if (← existing.value 0 3) ≠ encodeHex request.packet then return ⟨.conflict, none⟩
  let envelopeId ← uuidOfText (← existing.value 0 0)
  let seq ← parseSeqText (← existing.value 0 1)
  return ⟨.duplicateRequest, some ⟨envelopeId, request.messageId, senderDeviceId,
    request.recipientDeviceId, request.protocolVersion, request.packet, seq⟩⟩

/-- What has been inserted. -/
def ofInserted (inserted : DatabaseResult) (senderDeviceId : Uuid) (request : NewTextMessageRequest) :
    Except Error NewMessageResult := do
  if inserted.length ≠ 1 then throw (.runtimeError "Insert returned unexpected row count")
  let envelopeId ← uuidOfText (← inserted.value 0 0)
  let seq ← parseSeqText (← inserted.value 0 1)
  return ⟨.success, some ⟨envelopeId, request.messageId, senderDeviceId,
    request.recipientDeviceId, request.protocolVersion, request.packet, seq⟩⟩

/-- The callback of `saveNewMessage`. -/
def saveOperation (user senderDeviceId : Uuid) (request : NewTextMessageRequest) :
    SaveOperation NewMessageResult :=
  let userId := user.toString
  let senderId := senderDeviceId.toString
  let recipientId := request.recipientDeviceId.toString
  let messageId := request.messageId.toString
  (Prog.perform ⟨.isolation, []⟩).bind fun _ =>
  (Prog.perform ⟨.pairLock, [senderId, recipientId]⟩).bind fun _ =>
  (Prog.perform ⟨.devices, [userId, senderId, recipientId]⟩).bind fun devices =>
  if devices.length ≠ 2 then .ret ⟨.permissionDenied, none⟩
  else (Prog.ofExcept (recipientUser devices recipientId devices.length)).bind fun recipientUserId =>
  if recipientUserId = "" then .ret ⟨.permissionDenied, none⟩
  else (befriended userId recipientUserId).bind fun friends =>
  if friends = false then .ret ⟨.permissionDenied, none⟩
  else (Prog.perform ⟨.existing, [senderId, recipientId, messageId]⟩).bind fun existing =>
  if existing.length ≠ 0 then .ofExcept (ofExisting existing senderDeviceId request)
  else (Prog.perform ⟨.insert, [senderId, recipientId, messageId, request.protocolVersion,
      encodeHex request.packet]⟩).bind fun inserted =>
    .ofExcept (ofInserted inserted senderDeviceId request)

/-- **It catches nothing.** -/
theorem propagates_saveOperation (user senderDeviceId : Uuid) (request : NewTextMessageRequest) :
    Propagates (saveOperation user senderDeviceId request) := by
  refine (propagates_perform _).bind fun _ => (propagates_perform _).bind fun _ =>
    (propagates_perform _).bind fun devices => ?_
  split
  · trivial
  · refine (propagates_ofExcept _).bind fun recipientUserId => ?_
    split
    · trivial
    · refine Propagates.bind ?_ fun friends => ?_
      · rw [befriended]
        split
        · exact (propagates_perform _).bind fun _ => trivial
        · trivial
      · split
        · trivial
        · refine (propagates_perform _).bind fun existing => ?_
          split
          · exact propagates_ofExcept _
          · exact (propagates_perform _).bind fun _ => propagates_ofExcept _

end EnvelopeRepository

/-! ### What is thrown -/

namespace DatabaseConnection

variable {σ ρ α : Type} {db db' : DatabaseConnection σ ρ}

/-- What a lost command throws. -/
def lossError : LostResult → DatabaseError
  | .null => ⟨.query, "NULL_RESULT", "DatabaseConnection::execute: ", none⟩
  | .fatal sqlState =>
    ⟨.query, sqlState.getD "QUERY_FAILED", "PostgreSQL query failed: ", some ""⟩

/-- What a call has thrown. -/
def thrown : Except Error α → Option Error
  | .ok _ => none
  | .error error => some error

/-- **What is lost is reported**: what has been sent between two states, and that if the connection was
lost over it, other than over a rollback, that is what has been thrown. -/
def Reports (db db' : DatabaseConnection σ ρ) (error : Option Error) : Prop :=
  ∃ more, db'.sent = db.sent ++ more ∧ ∀ x ∈ more, x.1 ≠ .rollback →
    ∀ loss done, x.2 = .lost loss done → error = some (.database (lossError loss))

theorem Reports.of_sent (h : db'.sent = db.sent) (error : Option Error) : Reports db db' error :=
  ⟨[], h.trans (List.append_nil _).symm, nofun⟩

/-- One thing after another, where the second leaves what the first has thrown. -/
theorem Reports.trans {db₁ db₂ : DatabaseConnection σ ρ} {e₁ e₂ : Option Error}
    (h₁ : Reports db db₁ e₁) (h₂ : Reports db₁ db₂ e₂)
    (hthrow : ∀ error, e₁ = some error → e₂ = some error) : Reports db db₂ e₂ := by
  obtain ⟨more₁, hmore₁, hall₁⟩ := h₁
  obtain ⟨more₂, hmore₂, hall₂⟩ := h₂
  refine ⟨more₁ ++ more₂, by rw [hmore₂, hmore₁, List.append_assoc], fun x hx hcommand loss done hlost => ?_⟩
  rcases List.mem_append.1 hx with hx | hx
  · exact hthrow _ (hall₁ x hx hcommand loss done hlost)
  · exact hall₂ x hx hcommand loss done hlost

/-- One thing after another, where the first has thrown nothing. -/
theorem Reports.next {db₁ db₂ : DatabaseConnection σ ρ} {e₂ : Option Error}
    (h₁ : Reports db db₁ none) (h₂ : Reports db₁ db₂ e₂) : Reports db db₂ e₂ :=
  h₁.trans h₂ fun _ hsome => by cases hsome

/-- `execute` reports the loss of its command. -/
theorem reports_execute (command : Command σ) (db : DatabaseConnection σ ρ) :
    Reports db (db.execute command).2 (thrown (db.execute command).1) := by
  rcases hconn : db.connection with _ | conn
  · rw [execute_of_none hconn]
    exact .of_sent rfl _
  · rcases hstatus : conn.status with _ | _
    · refine ⟨[(command, db.answers 0)], ?_, ?_⟩
      · rw [execute_of_ok hconn hstatus]
        rcases conn.execParams command (db.answers 0) db.committed with ⟨_ | _ | _, conn', committed⟩ <;>
          rfl
      · rintro x hx - loss done hlost
        obtain rfl := List.mem_singleton.1 hx
        rw [execute_of_ok hconn hstatus, show db.answers 0 = .lost loss done from hlost]
        rcases loss with _ | sqlState
        · rfl
        · rfl
    · rw [execute_of_bad hconn hstatus]
      exact .of_sent rfl _

theorem requireConnection_sent (operation : String) (db : DatabaseConnection σ ρ) :
    (db.requireConnection operation).2.sent = db.sent := by
  rw [requireConnection]
  split
  · rfl
  · split <;> rfl

theorem reports_beginTransaction (db : DatabaseConnection σ ρ) :
    Reports db db.beginTransaction.2 (thrown db.beginTransaction.1) := by
  have hsent := requireConnection_sent "DatabaseConnection::beginTransaction" db
  rw [beginTransaction]
  split
  · next heq =>
    rw [heq] at hsent
    exact .of_sent hsent _
  · next conn db₁ heq =>
    rw [heq] at hsent
    have hstart : Reports db db₁ none := .of_sent hsent _
    split
    · exact .of_sent hsent _
    · have hexecute := reports_execute .begin db₁
      split
      · next heq' =>
        rw [heq'] at hexecute
        exact (hstart.next hexecute).trans (.of_sent rfl _) fun _ => id
      · next heq' =>
        rw [heq'] at hexecute
        exact hstart.next hexecute

theorem reports_commitTransaction (db : DatabaseConnection σ ρ) :
    Reports db db.commitTransaction.2 (thrown db.commitTransaction.1) := by
  have hsent := requireConnection_sent "DatabaseConnection::commitTransaction" db
  rw [commitTransaction]
  split
  · next heq =>
    rw [heq] at hsent
    exact .of_sent hsent _
  · next conn db₁ heq =>
    rw [heq] at hsent
    have hstart : Reports db db₁ none := .of_sent hsent _
    split
    · exact .of_sent hsent _
    · have hexecute := reports_execute .commit db₁
      split
      · next heq' =>
        rw [heq'] at hexecute
        exact hstart.next hexecute
      · next heq' =>
        rw [heq'] at hexecute
        exact hstart.next hexecute

/-- A rollback reports nothing, and there is nothing that it must report. -/
theorem reports_rollbackTransactionNoThrow (db : DatabaseConnection σ ρ) (error : Option Error) :
    Reports db db.rollbackTransactionNoThrow error := by
  have hsent : (db.execute .rollback).2.sent = db.sent ∨
      ∃ answer, (db.execute .rollback).2.sent = db.sent ++ [(.rollback, answer)] := by
    rcases hconn : db.connection with _ | conn
    · rw [execute_of_none hconn]
      exact .inl rfl
    · rcases hstatus : conn.status with _ | _
      · refine .inr ⟨db.answers 0, ?_⟩
        rw [execute_of_ok hconn hstatus]
        rcases conn.execParams .rollback (db.answers 0) db.committed with
          ⟨_ | _ | _, conn', committed⟩ <;> rfl
      · rw [execute_of_bad hconn hstatus]
        exact .inl rfl
  have hreports {db' : DatabaseConnection σ ρ} (hsame : db'.sent = (db.execute .rollback).2.sent) :
      Reports db db' error := by
    rcases hsent with hnone | ⟨answer, hone⟩
    · exact .of_sent (hsame.trans hnone) _
    · refine ⟨_, hsame.trans hone, fun x hx hcommand => ?_⟩
      rw [List.mem_singleton.1 hx] at hcommand
      exact absurd rfl hcommand
  rw [rollbackTransactionNoThrow]
  split
  · exact .of_sent rfl _
  · split
    · next heq => exact hreports (by rw [heq]; rfl)
    · next heq =>
      split
      · exact hreports (by rw [heq])
      · exact hreports (by rw [heq]; rfl)

variable {operation : Prog (fun _ : σ => ρ) Error α}

/-- A callback that catches nothing. -/
theorem reports_invoke (h : Propagates operation) (db : DatabaseConnection σ ρ) :
    Reports db (invoke operation db).2 (thrown (invoke operation db).1) := by
  induction operation generalizing db with
  | ret result => exact .of_sent rfl _
  | throw error => exact .of_sent rfl _
  | call statement next ih =>
    have hexecute := reports_execute (.statement statement) db
    rcases hanswer : db.execute (.statement statement) with ⟨error | result, db₁⟩
    all_goals rw [hanswer] at hexecute
    · rw [invoke, hanswer]
      simp only [h.1 error]
      exact hexecute.trans (.of_sent rfl _) fun _ => id
    · rw [invoke, hanswer]
      have hrecord : Reports db₁ (db₁.record statement (.ok result)) none := .of_sent rfl _
      exact (hexecute.next hrecord).next (ih _ (h.2 result) _)

/-- **What is lost in a transaction is what it throws**, if its callback catches nothing. -/
theorem reports_withTransaction (h : Propagates operation) (db : DatabaseConnection σ ρ) :
    Reports db (db.withTransaction operation).2 (thrown (db.withTransaction operation).1) := by
  have hbegin := reports_beginTransaction db
  rw [withTransaction]
  rcases heq : db.beginTransaction with ⟨error | done, db₁⟩
  all_goals rw [heq] at hbegin
  · exact hbegin
  · have hinvoke := reports_invoke h db₁
    rcases heq₁ : invoke operation db₁ with ⟨error | result, db₂⟩
    all_goals rw [heq₁] at hinvoke
    · simp only [heq₁]
      exact (hbegin.next hinvoke).trans (reports_rollbackTransactionNoThrow db₂ _) fun _ => id
    · have hcommit := reports_commitTransaction db₂
      rcases heq₂ : db₂.commitTransaction with ⟨error | done, db₃⟩
      all_goals rw [heq₂] at hcommit
      · simp only [heq₁, heq₂]
        exact ((hbegin.next hinvoke).next hcommit).trans
          (reports_rollbackTransactionNoThrow db₃ _) fun _ => id
      · simp only [heq₁, heq₂]
        exact (hbegin.next hinvoke).next hcommit

/-- What a connection throws that is known not to be there. -/
theorem withTransaction_of_not_alive (operation : Prog (fun _ : σ => ρ) Error α)
    (h : db.isAlive = false) :
    ∃ error : DatabaseError, (db.withTransaction operation).1 = .error (.database error) ∧
      error.kind = .connection ∧
      (error.code = "CONNECTION_UNAVAILABLE" ∨ error.code = "CONNECTION_FAILED") := by
  rw [withTransaction, beginTransaction, requireConnection]
  rcases hconn : db.connection with _ | conn
  · exact ⟨_, rfl, rfl, .inl rfl⟩
  · have hstatus : conn.status ≠ .ok := by
      rw [isAlive, hconn] at h
      simpa using h
    simp only [if_pos hstatus]
    exact ⟨_, rfl, rfl, .inr rfl⟩

end DatabaseConnection

/-! ### What is answered -/

namespace ChatService

variable {userId sender : Uuid} {request : NewTextMessageRequest} {trace : List Attempt}
  {result : NewTextMessageResult}

/-- An attempt that fails and is not repeated decides the answer. -/
theorem attempts_runs_of_error {left : ℕ} {x : Attempt} {error : DatabaseError}
    (h : Runs (attempts userId sender request left) trace (.ok result)) (hx : x ∈ trace)
    (hanswer : x.answer = .error (.database error)) (hretry : error.isTransactionRetry = false)
    (hcollision : error.isUuidCollision = false) :
    result = ⟨if error.isConnectionFailure then .databaseUnavailable else .internalError, none⟩ := by
  induction left generalizing trace with
  | zero =>
    cases h
    cases hx
  | succ left ih =>
    cases h with
    | @call _ _ trace _ answer h =>
      rcases List.mem_cons.1 hx with rfl | hmem
      · obtain rfl : answer = .error (.database error) := hanswer
        simp only [hretry, hcollision, Bool.or_self, Bool.false_eq_true, if_false] at h
        split at h
        · next hfailure =>
          cases h
          rw [if_pos hfailure]
        · next hfailure =>
          cases h
          rw [if_neg hfailure]
      · have hend {result' : NewTextMessageResult}
            (h : Runs (.ret result' : Service NewTextMessageResult) trace (.ok result)) : False := by
          cases h
          cases hmem
        rcases answer with _ | r
        · rename_i e
          cases e with
          | database e =>
            simp only at h
            split_ifs at h
            · exact (hend h).elim
            · exact ih h hmem
            · exact (hend h).elim
            · exact (hend h).elim
          | _ => exact (hend h).elim
        · exact (hend h).elim

theorem newTextMessage_runs_of_error {x : Attempt} {error : DatabaseError}
    (h : Runs (newTextMessage userId sender request) trace (.ok result)) (hx : x ∈ trace)
    (hanswer : x.answer = .error (.database error)) (hretry : error.isTransactionRetry = false)
    (hcollision : error.isUuidCollision = false) :
    result = ⟨if error.isConnectionFailure then .databaseUnavailable else .internalError, none⟩ := by
  rw [newTextMessage] at h
  split at h
  · cases h
    cases hx
  · exact attempts_runs_of_error h hx hanswer hretry hcollision

/-- A valid request whose first attempt fails so. -/
theorem newTextMessage_runs_of_failure {error : DatabaseError}
    (hvalid : validRequest userId sender request) (hretry : error.isTransactionRetry = false)
    (hcollision : error.isUuidCollision = false) :
    Runs (newTextMessage userId sender request)
      [⟨⟨userId, sender, request⟩, .error (.database error)⟩]
      (.ok ⟨if error.isConnectionFailure then .databaseUnavailable else .internalError, none⟩) := by
  rw [newTextMessage, if_neg (by rw [hvalid]; decide)]
  refine .call _ ?_
  simp only [hretry, hcollision, Bool.or_self, Bool.false_eq_true, if_false]
  split
  · exact .ret
  · exact .ret

end ChatService

/-! ### How the connection breaks -/

/-- What libpq leaves of a command whose connection is lost: a null pointer, or an error without an
SQLSTATE or with one of class 08. -/
def LostResult.OfLibpq : LostResult → Prop
  | .null => True
  | .fatal none => True
  | .fatal (some sqlState) => "08".toList.isPrefixOf sqlState.toList

/-- The connection on which `saveNewMessage` runs. -/
abbrev SaveConnection := DatabaseConnection SaveStatement DatabaseResult

/-- A run of `saveNewMessage` on a connection. -/
def SaveConnection.saveNewMessage (db : SaveConnection) (op : SaveNewMessage) :
    Except Error NewMessageResult × SaveConnection :=
  db.withTransaction (EnvelopeRepository.saveOperation op.userId op.sender op.request)

/-- **How the connection breaks** while `saveNewMessage` runs: before `BEGIN`, so that it is known to be
lost, or over `BEGIN`, a statement or `COMMIT`, with what the command leaves. -/
inductive Breaks (db : SaveConnection) (op : SaveNewMessage) : Option LostResult → Prop where
  | before (h : db.isAlive = false) : Breaks db op none
  | during {more command loss done} (hsent : (db.saveNewMessage op).2.sent = db.sent ++ more)
      (hlost : (command, .lost loss done) ∈ more) (hcommand : command ≠ .rollback) :
      Breaks db op (some loss)

/-- The loss is known before a command is sent, or the SQLSTATE of the command tells it. -/
def Recognised : Option LostResult → Prop
  | none => True
  | some .null => False
  | some (.fatal none) => False
  | some (.fatal (some sqlState)) => "08".toList.isPrefixOf sqlState.toList

variable {userId sender : Uuid} {request : NewTextMessageRequest}
  {trace : List ChatService.Attempt} {result : NewTextMessageResult} {x : ChatService.Attempt}
  {db : SaveConnection} {loss : Option LostResult}

/-- What an attempt throws whose connection breaks. -/
theorem error_of_breaks {op : SaveNewMessage} (h : Breaks db op loss)
    (hlibpq : ∀ r, loss = some r → r.OfLibpq) :
    ∃ error : DatabaseError, (db.saveNewMessage op).1 = .error (.database error) ∧
      error.isTransactionRetry = false ∧ error.isUuidCollision = false ∧
      (error.isConnectionFailure ↔ Recognised loss) := by
  cases h with
  | before hnot =>
    obtain ⟨error, hthrown, hkind, hcode⟩ := DatabaseConnection.withTransaction_of_not_alive
      (EnvelopeRepository.saveOperation op.userId op.sender op.request) hnot
    refine ⟨error, hthrown, ?_, ?_, ?_⟩
    · rcases hcode with hcode | hcode <;> simp [DatabaseError.isTransactionRetry, hcode]
    · rcases hcode with hcode | hcode <;> simp [DatabaseError.isUuidCollision, hcode]
    · simp [DatabaseError.isConnectionFailure, hkind, Recognised]
  | @during more command lost done hsent hlost hcommand =>
    have hreports := DatabaseConnection.reports_withTransaction
      (EnvelopeRepository.propagates_saveOperation op.userId op.sender op.request) db
    obtain ⟨more', hmore, hall⟩ := hreports
    obtain rfl := List.append_cancel_left (hsent.symm.trans hmore)
    have hthrown := hall _ hlost hcommand lost done rfl
    refine ⟨DatabaseConnection.lossError lost, ?_, ?_⟩
    · change (db.withTransaction _).1 = _
      rcases hresult : (db.withTransaction (EnvelopeRepository.saveOperation op.userId op.sender
        op.request)).1 with error | r
      · rw [hresult] at hthrown
        rw [Option.some.inj hthrown]
      · rw [hresult] at hthrown
        cases hthrown
    · have hlibpq := hlibpq lost rfl
      rcases lost with _ | _ | sqlState
      · exact ⟨rfl, rfl, iff_of_false (by decide) id⟩
      · exact ⟨rfl, rfl, iff_of_false (by decide) id⟩
      · have hne (code : String) (hcode : "08".toList.isPrefixOf code.toList = false) :
            sqlState ≠ code := by
          rintro rfl
          rw [LostResult.OfLibpq, hcode] at hlibpq
          cases hlibpq
        refine ⟨?_, ?_, ?_⟩
        · simp [DatabaseError.isTransactionRetry, DatabaseConnection.lossError, hne "40001" rfl,
            hne "40P01" rfl]
        · simp [DatabaseError.isUuidCollision, DatabaseConnection.lossError, hne "23505" rfl]
        · simp [DatabaseError.isConnectionFailure, DatabaseConnection.lossError, Recognised]

/-- **A loss is answered with `DatabaseUnavailable`** exactly if it is known before a command is sent, or
the SQLSTATE of the command tells it. -/
theorem loss_is_reported_iff
    (h : Runs (ChatService.newTextMessage userId sender request) trace (.ok result)) (hx : x ∈ trace)
    (hanswer : x.answer = (db.saveNewMessage x.op).1) (hbreak : Breaks db x.op loss)
    (hlibpq : ∀ r, loss = some r → r.OfLibpq) :
    result.status = .databaseUnavailable ↔ Recognised loss := by
  obtain ⟨error, hthrown, hretry, hcollision, hfailure⟩ := error_of_breaks hbreak hlibpq
  rw [ChatService.newTextMessage_runs_of_error h hx (hanswer.trans hthrown) hretry hcollision,
    ← hfailure]
  by_cases hconnection : error.isConnectionFailure
  · simp [hconnection]
  · simp [hconnection]

namespace Sample

/-- A message from Alice's device to Bob's. -/
def firstMessage : SaveNewMessage := ⟨alice, phone, ⟨5, laptop, "v1", [1]⟩⟩

/-- The rows of the queries behind `BEGIN`, for a message that is stored. -/
def storing : ℕ → DatabaseResult
  | 3 => [[some phone.toString, some alice.toString], [some laptop.toString, some bob.toString]]
  | 4 => [[some alice.toString], [some bob.toString]]
  | 6 => [[some (Uuid.toString 9), some "1"]]
  | _ => []

/-- The connection breaks over the `COMMIT`, which is carried out: the server closes it. -/
def breaking (sqlState : Option String) : SaveConnection :=
  ⟨some .connected, [], fun n => if n = 7 then .lost (.fatal sqlState) true else .success (storing n),
    [], []⟩

theorem breaks_breaking : ∀ sqlState ∈ [none, some "08006"],
    Breaks (breaking sqlState) firstMessage (some (.fatal sqlState)) := by
  intro sqlState hsqlState
  have hlost : (Command.commit, Answer.lost (.fatal sqlState) true) ∈
      ((breaking sqlState).saveNewMessage firstMessage).2.sent := by
    revert sqlState
    decide +kernel
  exact .during (List.nil_append _).symm hlost nofun

theorem ofLibpq : ∀ r, some (LostResult.fatal (some "08006")) = some r → r.OfLibpq := by
  rintro r ⟨⟩
  exact (rfl : "08".toList.isPrefixOf "08006".toList = true)

end Sample

theorem loss_is_reported_iff_sqlState : ∃ result,
    Runs (ChatService.newTextMessage Sample.alice Sample.phone Sample.firstMessage.request)
      [⟨Sample.firstMessage, ((Sample.breaking (some "08006")).saveNewMessage Sample.firstMessage).1⟩]
      (.ok result) ∧ result.status = .databaseUnavailable := by
  obtain ⟨error, hthrown, hretry, hcollision, -⟩ :=
    error_of_breaks (Sample.breaks_breaking (some "08006") (by simp)) Sample.ofLibpq
  rw [hthrown]
  refine ⟨_, ChatService.newTextMessage_runs_of_failure (by decide) hretry hcollision, ?_⟩
  exact (loss_is_reported_iff
    (ChatService.newTextMessage_runs_of_failure (by decide) hretry hcollision)
    (List.mem_singleton_self _) hthrown.symm (Sample.breaks_breaking (some "08006") (by simp))
    Sample.ofLibpq).2 rfl

/-- The server closes the connection over the `COMMIT`, and libpq gives no SQLSTATE. -/
theorem loss_is_reported_fails :
    ¬ ∀ (op : SaveNewMessage) (db : SaveConnection) (loss : Option LostResult)
      (result : NewTextMessageResult), Breaks db op loss → (∀ r, loss = some r → r.OfLibpq) →
      Runs (ChatService.newTextMessage op.userId op.sender op.request)
        [⟨op, (db.saveNewMessage op).1⟩] (.ok result) → result.status = .databaseUnavailable := by
  intro h
  have hbreak := Sample.breaks_breaking none (by simp)
  have hlibpq : ∀ r, some (LostResult.fatal none) = some r → r.OfLibpq := by
    intro r hr
    cases hr
    trivial
  obtain ⟨error, hthrown, hretry, hcollision, hfailure⟩ := error_of_breaks hbreak hlibpq
  have hruns := ChatService.newTextMessage_runs_of_failure
    (show ChatService.validRequest Sample.firstMessage.userId Sample.firstMessage.sender
      Sample.firstMessage.request by decide) hretry hcollision
  have hstatus := h Sample.firstMessage (Sample.breaking none) _ _ hbreak hlibpq (hthrown ▸ hruns)
  have hnot : error.isConnectionFailure = false := by
    rw [← Bool.not_eq_true, hfailure]
    exact id
  rw [hnot] at hstatus
  cases hstatus

end ChatBackend
