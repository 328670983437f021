import ChatBackend.Domain
import ChatBackend.Effects

/-!
# DatabaseConnection

`src/databases/DatabaseConnection.cpp`: one connection to the database, and `withTransaction`, which runs
a callback between `BEGIN` and `COMMIT`. What libpq does is not known here, only how a command can end:
it succeeds, the server refuses it, or the connection is lost. How the commands to come end is part of
the state, so that what is proved holds however they do.

The statements of callbacks are opaque. None of them is a transaction command itself.

## Main definitions

* `PGconn`, `PGconn.execParams` — libpq
* `DatabaseConnection.execute`, `withTransaction`, `reset`

## Main results

* `DatabaseConnection.withTransaction_cases` — how a transaction ends
* `DatabaseConnection.reset_isIdle` — what a connection is after a reset
-/

namespace ChatBackend

open Effects (Prog Runs)

/-! ### libpq -/

/-- `ConnStatusType`, as far as it is looked at. -/
inductive ConnStatus where
  | ok | bad
  deriving DecidableEq, Repr

/-- `PGTransactionStatusType`. -/
inductive TransactionStatus where
  | idle | active | inTrans | inError | unknown
  deriving DecidableEq, Repr

/-- A command, and what it is to the transaction. -/
inductive Command (σ : Type) where
  | begin
  | commit
  | rollback
  | statement (statement : σ)
  deriving DecidableEq

/-- `PGresult`: `PGRES_TUPLES_OK` or `PGRES_COMMAND_OK`, or any other status, with the fields
`PG_DIAG_SQLSTATE` and `PG_DIAG_CONSTRAINT_NAME`. -/
inductive PGresult (ρ : Type) where
  | ok (result : ρ)
  | failed (sqlState constraint : Option String)

/-- What a command whose connection is lost leaves: a null pointer, or an error. -/
inductive LostResult where
  | null
  | fatal (sqlState : Option String)
  deriving DecidableEq

/-- How a command ends. A transaction whose `COMMIT` is refused may be over or may have failed; a command
that is lost may have been carried out. -/
inductive Answer (ρ : Type) where
  | success (result : ρ)
  | refused (sqlState : String) (constraint : Option String) (isOver : Bool)
  | lost (result : LostResult) (done : Bool)
  deriving DecidableEq

/-- A `PGconn`; the statements of the open transaction are a history variable. -/
structure PGconn (σ : Type) where
  status : ConnStatus
  transactionStatus : TransactionStatus
  transaction : List σ

namespace PGconn

variable {σ ρ : Type}

/-- A new connection. -/
def connected : PGconn σ := ⟨.ok, .idle, []⟩

/-- What is committed once a command has been carried out. -/
def carryOut (conn : PGconn σ) (command : Command σ) (committed : List σ) : List σ :=
  match conn.transactionStatus, command with
  | .idle, .statement s => committed ++ [s]
  | .inTrans, .commit => committed ++ conn.transaction
  | _, _ => committed

/-- The connection once a command has succeeded, or the error with which it cannot. -/
def succeed (conn : PGconn σ) (command : Command σ) : Except String (PGconn σ) :=
  match conn.transactionStatus, command with
  | .idle, .begin => .ok { conn with transactionStatus := .inTrans, transaction := [] }
  | .idle, _ => .ok conn
  | .inTrans, .begin => .ok conn
  | .inTrans, .statement s => .ok { conn with transaction := conn.transaction ++ [s] }
  | .inTrans, _ => .ok { conn with transactionStatus := .idle, transaction := [] }
  | .inError, .commit => .ok { conn with transactionStatus := .idle, transaction := [] }
  | .inError, .rollback => .ok { conn with transactionStatus := .idle, transaction := [] }
  | .inError, _ => .error "25P02"
  | _, _ => .error ""

/-- The connection once a command has been refused. -/
def refuse (conn : PGconn σ) (command : Command σ) (isOver : Bool) : PGconn σ :=
  match conn.transactionStatus, command with
  | .inTrans, .commit =>
    { conn with transactionStatus := if isOver then .idle else .inError, transaction := [] }
  | .inTrans, _ => { conn with transactionStatus := .inError, transaction := [] }
  | _, _ => conn

/-- `PQexecParams`, on a connection that is there: the result or a null pointer, the connection, and
what is committed. -/
def execParams (conn : PGconn σ) (command : Command σ) (answer : Answer ρ) (committed : List σ) :
    Option (PGresult ρ) × PGconn σ × List σ :=
  match answer with
  | .success result =>
    match conn.succeed command with
    | .ok conn' => (some (.ok result), conn', conn.carryOut command committed)
    | .error sqlState => (some (.failed (some sqlState) none), conn, committed)
  | .refused sqlState constraint isOver =>
    (some (.failed (some sqlState) constraint), conn.refuse command isOver, committed)
  | .lost result done =>
    (match result with
      | .null => none
      | .fatal sqlState => some (.failed sqlState none),
      ⟨.bad, .unknown, []⟩, if done then conn.carryOut command committed else committed)

end PGconn

/-! ### The connection -/

/-- A call of `execute` with a statement, and how it ended. -/
abbrev Executed (σ ρ : Type) := Effects.Event (fun _ : σ => ρ) Error

/-- `DatabaseConnection`, with what the database has committed, how the commands to come end, and as
history variables the commands that have been sent and the statements that callbacks have executed. -/
structure DatabaseConnection (σ ρ : Type) where
  connection : Option (PGconn σ)
  committed : List σ
  answers : ℕ → Answer ρ
  sent : List (Command σ × Answer ρ)
  executed : List (Executed σ ρ)

namespace DatabaseConnection

variable {σ ρ α : Type}

/-- `connection_.reset()`, which also closes it. -/
def drop (db : DatabaseConnection σ ρ) : DatabaseConnection σ ρ := { db with connection := none }

/-- `requireConnection`, and the connection if it is there. -/
def requireConnection (operation : String) (db : DatabaseConnection σ ρ) :
    Except Error (PGconn σ) × DatabaseConnection σ ρ :=
  match db.connection with
  | none =>
    (.error (.database ⟨.connection, "CONNECTION_UNAVAILABLE", operation ++ ": connection is null",
      none⟩), db)
  | some conn =>
    if conn.status ≠ .ok then
      (.error (.database ⟨.connection, "CONNECTION_FAILED", operation ++ ": ", none⟩), db.drop)
    else (.ok conn, db)

/-- `isAlive`. -/
def isAlive (db : DatabaseConnection σ ρ) : Bool :=
  match db.connection with
  | none => false
  | some conn => conn.status = .ok

/-- `execute`. -/
def execute (command : Command σ) (db : DatabaseConnection σ ρ) :
    Except Error ρ × DatabaseConnection σ ρ :=
  match db.requireConnection "DatabaseConnection::execute" with
  | (.error error, db) => (.error error, db)
  | (.ok conn, db) =>
    let (result, conn, committed) := conn.execParams command (db.answers 0) db.committed
    let db := { db with
      connection := some conn
      committed := committed
      answers := fun n => db.answers (n + 1)
      sent := db.sent ++ [(command, db.answers 0)] }
    match result with
    | none =>
      (.error (.database ⟨.query, "NULL_RESULT", "DatabaseConnection::execute: ", none⟩), db)
    | some (.failed sqlState constraint) =>
      (.error (queryError (sqlState.getD "QUERY_FAILED") (constraint.getD "")), db)
    | some (.ok result) => (.ok result, db)

/-- `beginTransaction`. -/
def beginTransaction (db : DatabaseConnection σ ρ) : Except Error Unit × DatabaseConnection σ ρ :=
  match db.requireConnection "DatabaseConnection::beginTransaction" with
  | (.error error, db) => (.error error, db)
  | (.ok conn, db) =>
    if conn.transactionStatus ≠ .idle then
      (.error (.database ⟨.query, "TRANSACTION_NOT_IDLE", "DatabaseConnection::beginTransaction: " ++
        "connection already has an active or failed transaction", some ""⟩), db)
    else match db.execute .begin with
      | (.error error, db) => (.error error, db.drop)
      | (.ok _, db) => (.ok (), db)

/-- `commitTransaction`. -/
def commitTransaction (db : DatabaseConnection σ ρ) : Except Error Unit × DatabaseConnection σ ρ :=
  match db.requireConnection "DatabaseConnection::commitTransaction" with
  | (.error error, db) => (.error error, db)
  | (.ok conn, db) =>
    if conn.transactionStatus ≠ .inTrans then
      (.error (.database ⟨.query, "TRANSACTION_NOT_COMMITTABLE",
        "DatabaseConnection::commitTransaction: transaction is not in a committable state",
        some ""⟩), db)
    else match db.execute .commit with
      | (.error error, db) => (.error error, db)
      | (.ok _, db) => (.ok (), db)

/-- `PQstatus` and `PQtransactionStatus` say that nothing is open. -/
def isIdle (db : DatabaseConnection σ ρ) : Bool :=
  match db.connection with
  | none => false
  | some conn => conn.status = .ok ∧ conn.transactionStatus = .idle

/-- `rollbackTransactionNoThrow`. -/
def rollbackTransactionNoThrow (db : DatabaseConnection σ ρ) : DatabaseConnection σ ρ :=
  if db.connection.isNone then db
  else match db.execute .rollback with
    | (.error _, db) => db.drop
    | (.ok _, db) => if db.isIdle then db else db.drop

/-- A callback has been told how a statement ended. -/
def record (db : DatabaseConnection σ ρ) (statement : σ) (answer : Except Error ρ) :
    DatabaseConnection σ ρ :=
  { db with executed := db.executed ++ [⟨statement, answer⟩] }

/-- A callback runs: each of its statements is executed, and it is told how that ended. -/
def invoke : Prog (fun _ : σ => ρ) Error α → DatabaseConnection σ ρ →
    Except Error α × DatabaseConnection σ ρ
  | .ret result, db => (.ok result, db)
  | .throw error, db => (.error error, db)
  | .call statement next, db =>
    let (answer, db) := db.execute (.statement statement)
    invoke (next answer) (db.record statement answer)

/-- `withTransaction`. -/
def withTransaction (operation : Prog (fun _ : σ => ρ) Error α) (db : DatabaseConnection σ ρ) :
    Except Error α × DatabaseConnection σ ρ :=
  match db.beginTransaction with
  | (.error error, db) => (.error error, db)
  | (.ok (), db) =>
    match invoke operation db with
    | (.error error, db) => (.error error, db.rollbackTransactionNoThrow)
    | (.ok result, db) =>
      match db.commitTransaction with
      | (.error error, db) => (.error error, db.rollbackTransactionNoThrow)
      | (.ok (), db) => (.ok result, db)

/-- `reset`. -/
def reset (db : DatabaseConnection σ ρ) : Bool × DatabaseConnection σ ρ :=
  match db.connection with
  | none => (false, db)
  | some conn =>
    if conn.status ≠ .ok then (false, db.drop)
    else match conn.transactionStatus with
      | .idle => (true, db)
      | .inTrans | .inError =>
        let db := db.rollbackTransactionNoThrow
        if db.isIdle then (true, db) else (false, db.drop)
      | .active | .unknown => (false, db.drop)

/-! ### Connections that are at rest -/

/-- **At rest**: closed, or idle without a transaction. -/
def Settled (db : DatabaseConnection σ ρ) : Prop := db.connection = none ∨ db.isIdle

/-- The connection of a session that is idle. -/
theorem connection_of_isIdle {db : DatabaseConnection σ ρ} (h : db.isIdle) :
    ∃ statements, db.connection = some ⟨.ok, .idle, statements⟩ := by
  rw [isIdle] at h
  split at h
  · cases h
  · next conn hconn =>
    obtain ⟨status, transactionStatus, statements⟩ := conn
    obtain ⟨rfl, rfl⟩ : status = .ok ∧ transactionStatus = .idle := by simpa using h
    exact ⟨statements, hconn⟩

variable {db db' : DatabaseConnection σ ρ} {conn : PGconn σ} {statements : List σ}

/-- What `execute` does on a connection that is there. -/
theorem execute_of_ok (h : db.connection = some conn) (hok : conn.status = .ok)
    (command : Command σ) :
    db.execute command =
      match conn.execParams command (db.answers 0) db.committed with
      | (none, conn', committed) =>
        (.error (.database ⟨.query, "NULL_RESULT", "DatabaseConnection::execute: ", none⟩),
          ⟨some conn', committed, fun n => db.answers (n + 1),
            db.sent ++ [(command, db.answers 0)], db.executed⟩)
      | (some (.failed sqlState constraint), conn', committed) =>
        (.error (queryError (sqlState.getD "QUERY_FAILED") (constraint.getD "")),
          ⟨some conn', committed, fun n => db.answers (n + 1),
            db.sent ++ [(command, db.answers 0)], db.executed⟩)
      | (some (.ok result), conn', committed) =>
        (.ok result, ⟨some conn', committed, fun n => db.answers (n + 1),
            db.sent ++ [(command, db.answers 0)], db.executed⟩) := by
  have hrequire : db.requireConnection "DatabaseConnection::execute" = (.ok conn, db) := by
    rw [requireConnection, h]
    simp [hok]
  rw [execute, hrequire]
  simp only
  rcases conn.execParams command (db.answers 0) db.committed with ⟨_ | _ | _, conn', committed⟩ <;> rfl

/-- `execute` without a connection. -/
theorem execute_of_none (h : db.connection = none) (command : Command σ) :
    db.execute command = (.error (.database ⟨.connection, "CONNECTION_UNAVAILABLE",
      "DatabaseConnection::execute: connection is null", none⟩), db) := by
  rw [execute, requireConnection, h]
  rfl

/-- `execute` on a connection that is known to be lost. -/
theorem execute_of_bad (h : db.connection = some conn) (hbad : conn.status = .bad)
    (command : Command σ) :
    db.execute command = (.error (.database ⟨.connection, "CONNECTION_FAILED",
      "DatabaseConnection::execute: ", none⟩), db.drop) := by
  rw [execute, requireConnection, h]
  simp [hbad]

/-- Only callbacks record what they execute. -/
theorem execute_executed (command : Command σ) (db : DatabaseConnection σ ρ) :
    (db.execute command).2.executed = db.executed := by
  rcases hconn : db.connection with _ | conn
  · rw [execute_of_none hconn]
  · rcases hstatus : conn.status with _ | _
    · rw [execute_of_ok hconn hstatus]
      rcases conn.execParams command (db.answers 0) db.committed with ⟨_ | _ | _, conn', committed⟩ <;> rfl
    · rw [execute_of_bad hconn hstatus]
      rfl

/-- **However the rollback goes**, the connection is at rest. -/
theorem rollbackTransactionNoThrow_settled (db : DatabaseConnection σ ρ) :
    db.rollbackTransactionNoThrow.Settled := by
  rw [rollbackTransactionNoThrow]
  split
  · next hnone => exact .inl (Option.isNone_iff_eq_none.1 hnone)
  · split
    · exact .inl rfl
    · split
      · next hidle => exact .inr hidle
      · exact .inl rfl

/-- A rollback commits nothing. -/
theorem execute_rollback_committed (db : DatabaseConnection σ ρ) :
    (db.execute .rollback).2.committed = db.committed := by
  rcases hconn : db.connection with _ | conn
  · rw [execute_of_none hconn]
  · rcases hstatus : conn.status with _ | _
    · have hcarry : conn.carryOut .rollback db.committed = db.committed := by
        rw [PGconn.carryOut.eq_def]
        cases conn.transactionStatus <;> rfl
      rw [execute_of_ok hconn hstatus]
      rcases db.answers 0 with result | ⟨sqlState, constraint, isOver⟩ | ⟨_ | sqlState, done⟩
      · rw [PGconn.execParams.eq_def]
        rcases conn.succeed (.rollback : Command σ) with _ | conn'
        · rfl
        · exact hcarry
      · rfl
      · simp [PGconn.execParams, hcarry]
      · simp [PGconn.execParams, hcarry]
    · rw [execute_of_bad hconn hstatus]
      rfl

theorem rollbackTransactionNoThrow_committed (db : DatabaseConnection σ ρ) :
    db.rollbackTransactionNoThrow.committed = db.committed := by
  have hcommitted := execute_rollback_committed db
  rw [rollbackTransactionNoThrow]
  split
  · rfl
  · split
    · next heq =>
      rw [heq] at hcommitted
      exact hcommitted
    · next heq =>
      rw [heq] at hcommitted
      split
      · exact hcommitted
      · exact hcommitted

/-! ### Transactions -/

/-- A connection on which nothing can be committed any more. -/
def Doomed : Option (PGconn σ) → Prop
  | none => True
  | some conn => conn.status = .bad ∨ (conn.status = .ok ∧ conn.transactionStatus = .inError)

/-- **Inside a transaction** that began on `start`: nothing has been committed, and either all of its
statements have succeeded, or nothing will be. -/
structure Within (start db : DatabaseConnection σ ρ) : Prop where
  committed : db.committed = start.committed
  connection : (∃ trace, db.executed = start.executed ++ trace ∧
      (∀ x ∈ trace, ∃ result, x.answer = .ok result) ∧
      db.connection = some ⟨.ok, .inTrans, trace.map Effects.Event.op⟩) ∨
    Doomed db.connection

/-- `BEGIN` on an idle connection. -/
theorem beginTransaction_of_isIdle (h : db.isIdle) :
    (∃ db', db.beginTransaction = (.ok (), db') ∧ Within db db' ∧ db'.executed = db.executed) ∨
      ∃ error db', db.beginTransaction = (.error error, db') ∧ db'.connection = none ∧
        db'.committed = db.committed := by
  obtain ⟨statements, hconn⟩ := connection_of_isIdle h
  have hrequire : db.requireConnection "DatabaseConnection::beginTransaction" =
      (.ok ⟨.ok, .idle, statements⟩, db) := by
    rw [requireConnection, hconn]
    rfl
  rw [beginTransaction, hrequire]
  simp only [ne_eq, not_true_eq_false, if_false]
  rw [execute_of_ok hconn rfl]
  rcases db.answers 0 with result | ⟨sqlState, constraint, isOver⟩ | ⟨_ | sqlState, done⟩
  · exact .inl ⟨_, rfl, ⟨rfl, .inl ⟨[], (List.append_nil _).symm, nofun, rfl⟩⟩, rfl⟩
  · exact .inr ⟨_, _, rfl, rfl, rfl⟩
  · refine .inr ⟨_, _, rfl, rfl, ?_⟩
    cases done <;> rfl
  · refine .inr ⟨_, _, rfl, rfl, ?_⟩
    cases done <;> rfl

/-- **A statement keeps the transaction what it is**, or dooms it. -/
theorem Within.execute {start : DatabaseConnection σ ρ} (h : Within start db) (statement : σ) :
    Within start ((db.execute (.statement statement)).2.record statement
      (db.execute (.statement statement)).1) := by
  obtain ⟨hcommitted, ⟨trace, hexecuted, hall, hconn⟩ | hdoomed⟩ := h
  · rw [execute_of_ok hconn rfl]
    rcases db.answers 0 with result | ⟨sqlState, constraint, isOver⟩ | ⟨_ | sqlState, done⟩
    · refine ⟨hcommitted, .inl ⟨trace ++ [⟨statement, .ok result⟩], ?_, ?_, ?_⟩⟩
      · change db.executed ++ _ = _
        rw [hexecuted, List.append_assoc]
        rfl
      · intro x hx
        rcases List.mem_append.1 hx with hx | hx
        · exact hall x hx
        · rw [List.mem_singleton.1 hx]
          exact ⟨result, rfl⟩
      · rw [List.map_append]
        rfl
    · exact ⟨hcommitted, .inr (.inr ⟨rfl, rfl⟩)⟩
    · refine ⟨?_, .inr (.inl rfl)⟩
      cases done <;> exact hcommitted
    · refine ⟨?_, .inr (.inl rfl)⟩
      cases done <;> exact hcommitted
  · rcases hconn : db.connection with _ | conn
    · rw [execute_of_none hconn]
      exact ⟨hcommitted, .inr hdoomed⟩
    · rw [hconn] at hdoomed
      obtain ⟨status, transactionStatus, statements⟩ := conn
      rcases hdoomed with rfl | ⟨rfl, rfl⟩
      · rw [execute_of_bad hconn rfl]
        exact ⟨hcommitted, .inr trivial⟩
      · rw [execute_of_ok hconn rfl]
        rcases db.answers 0 with result | ⟨sqlState, constraint, isOver⟩ | ⟨_ | sqlState, done⟩
        · exact ⟨hcommitted, .inr (.inr ⟨rfl, rfl⟩)⟩
        · exact ⟨hcommitted, .inr (.inr ⟨rfl, rfl⟩)⟩
        · refine ⟨?_, .inr (.inl rfl)⟩
          cases done <;> exact hcommitted
        · refine ⟨?_, .inr (.inl rfl)⟩
          cases done <;> exact hcommitted

theorem Within.invoke {start : DatabaseConnection σ ρ}
    {operation : Prog (fun _ : σ => ρ) Error α} (h : Within start db) :
    Within start (DatabaseConnection.invoke operation db).2 := by
  induction operation generalizing db with
  | ret result => exact h
  | throw error => exact h
  | call statement next ih => exact ih _ (h.execute statement)

/-- What a callback has executed is a run of it. -/
theorem runs_invoke (operation : Prog (fun _ : σ => ρ) Error α) (db : DatabaseConnection σ ρ) :
    ∃ trace, (invoke operation db).2.executed = db.executed ++ trace ∧
      Runs operation trace (invoke operation db).1 := by
  induction operation generalizing db with
  | ret result => exact ⟨[], (List.append_nil _).symm, .ret⟩
  | throw error => exact ⟨[], (List.append_nil _).symm, .throw⟩
  | call statement next ih =>
    obtain ⟨trace, htrace, hruns⟩ := ih (db.execute (.statement statement)).1
      ((db.execute (.statement statement)).2.record statement (db.execute (.statement statement)).1)
    refine ⟨⟨statement, (db.execute (.statement statement)).1⟩ :: trace, ?_, .call _ hruns⟩
    have hrecord (answer : Except Error ρ) :
        ((db.execute (.statement statement)).2.record statement answer).executed =
          db.executed ++ [⟨statement, answer⟩] := by
      rw [record, execute_executed]
    rw [hrecord] at htrace
    rw [List.append_cons]
    exact htrace

/-- `COMMIT`. If it returns, everything has succeeded and is committed; if not, nothing is committed,
unless it was sent in the open transaction and the connection was lost over it. -/
theorem Within.commitTransaction {start : DatabaseConnection σ ρ} (h : Within start db) :
    (∃ db', db.commitTransaction = (.ok (), db') ∧ db'.isIdle ∧ db'.executed = db.executed ∧
      ∃ trace, db.executed = start.executed ++ trace ∧
        (∀ x ∈ trace, ∃ result, x.answer = .ok result) ∧
        db'.committed = start.committed ++ trace.map Effects.Event.op) ∨
      ∃ error db', db.commitTransaction = (.error error, db') ∧
        (db'.committed = start.committed ∨ ∃ statements result done,
          db.connection = some ⟨.ok, .inTrans, statements⟩ ∧ db.answers 0 = .lost result done ∧
          db'.committed = start.committed ++ statements) := by
  obtain ⟨hcommitted, ⟨trace, hexecuted, hall, hconn⟩ | hdoomed⟩ := h
  · have hrequire : db.requireConnection "DatabaseConnection::commitTransaction" =
        (.ok ⟨.ok, .inTrans, trace.map Effects.Event.op⟩, db) := by
      rw [requireConnection, hconn]
      rfl
    rw [DatabaseConnection.commitTransaction, hrequire]
    simp only [ne_eq, not_true_eq_false, if_false]
    rw [execute_of_ok hconn rfl]
    rcases hanswer : db.answers 0 with result | ⟨sqlState, constraint, isOver⟩ | ⟨result, done⟩
    · refine .inl ⟨_, rfl, rfl, rfl, trace, hexecuted, hall, ?_⟩
      change db.committed ++ _ = _
      rw [hcommitted]
    · exact .inr ⟨_, _, rfl, .inl hcommitted⟩
    · -- the server has carried the `COMMIT` out, or has not
      have hended (db' : DatabaseConnection σ ρ) (hdb' : db'.committed =
          if done then db.committed ++ trace.map Effects.Event.op else db.committed) :
          db'.committed = start.committed ∨ ∃ statements result' done',
            db.connection = some ⟨.ok, .inTrans, statements⟩ ∧
            (.lost result done : Answer ρ) = .lost result' done' ∧
            db'.committed = start.committed ++ statements := by
        rw [hdb', hcommitted]
        cases done with
        | false => exact .inl rfl
        | true => exact .inr ⟨_, result, true, hconn, rfl, rfl⟩
      rcases result with _ | sqlState
      · exact .inr ⟨_, _, rfl, hended _ rfl⟩
      · exact .inr ⟨_, _, rfl, hended _ rfl⟩
  · rcases hconn : db.connection with _ | conn
    · refine .inr ⟨.database ⟨.connection, "CONNECTION_UNAVAILABLE",
        "DatabaseConnection::commitTransaction: connection is null", none⟩, db, ?_, .inl hcommitted⟩
      rw [DatabaseConnection.commitTransaction, requireConnection, hconn]
      rfl
    · rw [hconn] at hdoomed
      obtain ⟨status, transactionStatus, statements⟩ := conn
      rcases hdoomed with rfl | ⟨rfl, rfl⟩
      · refine .inr ⟨.database ⟨.connection, "CONNECTION_FAILED",
          "DatabaseConnection::commitTransaction: ", none⟩, db.drop, ?_, .inl hcommitted⟩
        rw [DatabaseConnection.commitTransaction, requireConnection, hconn]
        rfl
      · refine .inr ⟨.database ⟨.query, "TRANSACTION_NOT_COMMITTABLE",
          "DatabaseConnection::commitTransaction: transaction is not in a committable state",
          some ""⟩, db, ?_, .inl hcommitted⟩
        rw [DatabaseConnection.commitTransaction, requireConnection, hconn]
        rfl

/-! ### withTransaction -/

/-- What is thrown first: by `BEGIN`, by the callback, or by `COMMIT`. -/
def original (operation : Prog (fun _ : σ => ρ) Error α) (db : DatabaseConnection σ ρ) :
    Option Error :=
  match db.beginTransaction with
  | (.error error, _) => some error
  | (.ok (), db) =>
    match invoke operation db with
    | (.error error, _) => some error
    | (.ok _, db) =>
      match db.commitTransaction with
      | (.error error, _) => some error
      | (.ok (), _) => none

/-- **The connection is lost over the `COMMIT`**: the callback has returned, with its transaction open
and these statements in it, so that `COMMIT` is the next command that is sent; and that one is lost. -/
def LostInCommit (operation : Prog (fun _ : σ => ρ) Error α) (db : DatabaseConnection σ ρ)
    (statements : List σ) : Prop :=
  ∃ db₁ result db₂ lost done, db.beginTransaction = (.ok (), db₁) ∧
    invoke operation db₁ = (.ok result, db₂) ∧
    db₂.connection = some ⟨.ok, .inTrans, statements⟩ ∧ db₂.answers 0 = .lost lost done

variable {operation : Prog (fun _ : σ => ρ) Error α}

/-- **How `withTransaction` ends.** It returns, and then everything has succeeded and is committed; or it
throws what was thrown first, and then nothing is committed, unless the connection was lost over the
`COMMIT`, and then everything may be. -/
theorem withTransaction_cases (operation : Prog (fun _ : σ => ρ) Error α) (h : db.isIdle) :
    (∃ result db' trace, db.withTransaction operation = (.ok result, db') ∧
      db.original operation = none ∧ db'.isIdle ∧ db'.executed = db.executed ++ trace ∧
      Runs operation trace (.ok result) ∧ (∀ x ∈ trace, ∃ result, x.answer = .ok result) ∧
      db'.committed = db.committed ++ trace.map Effects.Event.op) ∨
    ∃ error db', db.withTransaction operation = (.error error, db') ∧
      db.original operation = some error ∧ db'.Settled ∧
      (db'.committed = db.committed ∨ ∃ statements, db.LostInCommit operation statements ∧
        db'.committed = db.committed ++ statements) := by
  rcases beginTransaction_of_isIdle h with ⟨db₁, hbegin, hwithin, hexecuted₁⟩ |
    ⟨error, db', hbegin, hnone, hcommitted⟩
  · obtain ⟨trace, htrace, hruns⟩ := runs_invoke operation db₁
    have hwithin : Within db (invoke operation db₁).2 := hwithin.invoke
    rcases hinvoke : invoke operation db₁ with ⟨error | result, db₂⟩
    all_goals rw [hinvoke] at htrace hruns hwithin
    · refine .inr ⟨error, db₂.rollbackTransactionNoThrow, ?_, ?_, ?_, .inl ?_⟩
      · rw [withTransaction, hbegin]
        simp only [hinvoke]
      · rw [original, hbegin]
        simp only [hinvoke]
      · exact rollbackTransactionNoThrow_settled db₂
      · rw [rollbackTransactionNoThrow_committed]
        exact hwithin.committed
    · rcases hwithin.commitTransaction with
        ⟨db', hcommit, hidle, hsame, trace', hexecuted, hall, hcommitted⟩ |
        ⟨error, db', hcommit, hcommitted⟩
      · rw [hexecuted₁] at htrace
        obtain rfl := List.append_cancel_left (hexecuted.symm.trans htrace)
        refine .inl ⟨result, db', trace', ?_, ?_, hidle, hsame.trans hexecuted, hruns, hall, hcommitted⟩
        · rw [withTransaction, hbegin]
          simp only [hinvoke, hcommit]
        · rw [original, hbegin]
          simp only [hinvoke, hcommit]
      · refine .inr ⟨error, db'.rollbackTransactionNoThrow, ?_, ?_, ?_, ?_⟩
        · rw [withTransaction, hbegin]
          simp only [hinvoke, hcommit]
        · rw [original, hbegin]
          simp only [hinvoke, hcommit]
        · exact rollbackTransactionNoThrow_settled db'
        · rw [rollbackTransactionNoThrow_committed]
          exact hcommitted.imp_right fun ⟨statements, lost, done, hconn, hlost, hall⟩ =>
            ⟨statements, ⟨db₁, result, db₂, lost, done, hbegin, hinvoke, hconn, hlost⟩, hall⟩
  · refine .inr ⟨error, db', ?_, ?_, .inl hnone, .inl hcommitted⟩
    · rw [withTransaction, hbegin]
    · rw [original, hbegin]

/-- **A connection that can be reset is idle**, whatever has been done to it. -/
theorem reset_isIdle (h : (reset db).1) : (reset db).2.isIdle := by
  have hback (db₁ : DatabaseConnection σ ρ)
      (h : (if db₁.isIdle then (true, db₁) else (false, db₁.drop)).1 = true) :
      (if db₁.isIdle then (true, db₁) else (false, db₁.drop)).2.isIdle := by
    split at h
    · next hidle =>
      rw [if_pos hidle]
      exact hidle
    · cases h
  rcases hconn : db.connection with _ | ⟨status, transactionStatus, statements⟩
  · rw [reset, hconn] at h
    cases h
  · rw [reset, hconn] at h ⊢
    cases status with
    | bad => cases h
    | ok =>
      cases transactionStatus with
      | idle =>
        change db.isIdle
        rw [isIdle, hconn]
        rfl
      | inTrans => exact hback _ h
      | inError => exact hback _ h
      | active => cases h
      | unknown => cases h

end DatabaseConnection

end ChatBackend
