import Mathlib.Data.List.FinRange
import Mathlib.Logic.Relation
import ChatBackend.Websocket.Ownership

/-!
# The pool

`WebSocketPool` has several workers, each a thread of its own. Between them go tasks: replies to what
a worker has dispatched, pushes, and the scans of revocations, each into the queue of the worker that
is to run it. A push goes by the directory of online devices, which the workers keep up to date; the
calls that they make to the pool in the course of a step are executed one by one before their next
step. A worker that accepts a connection asks the database about the device and then registers the
session, with no other step of its own in between; but other threads take theirs.

## Main definitions

* `WorkerThread`, `WorkerThread.Step` — a worker with its queue, and what its thread does
* `CloseCall`, `CloseCall.Step` — a call of `closeSession`
* `WebSocketPool`, `WebSocketPool.Step`, `WebSocketPool.Reaches`
-/

namespace ChatBackend

open Function (update)

/-! ### Threads -/

/-- A task in the queue of a worker. -/
inductive WorkerTask where
  | reply (request : Request) (response : Json)
  | push (task : PushTask)
  /-- `enqueuecloseSession`. -/
  | close (fd : Fd) (sessionId : ℕ) (deviceId : Uuid)
  /-- `revokeDeviceConnections`. -/
  | revocation (scan : ScanId) (userId deviceId : Uuid)

/-- The task is run as this step of the worker, with what it learns from outside. -/
inductive WorkerTask.RunsAs : WorkerTask → WorkerInput → Prop where
  | reply (request : Request) (response : Json) (modOk : Bool) :
      RunsAs (.reply request response) (.reply request response modOk)
  | push (task : PushTask) (modOk : Bool) : RunsAs (.push task) (.push task modOk)
  | close (fd : Fd) (sessionId : ℕ) (deviceId : Uuid) :
      RunsAs (.close fd sessionId deviceId) (.close fd sessionId deviceId)
  | revocation (scan : ScanId) (userId deviceId : Uuid) (order : List Fd)
      (io : Fd → WebsocketWorker.RevocationInputs) :
      RunsAs (.revocation scan userId deviceId) (.revocation scan userId deviceId order io)

/-- A worker with its thread. -/
structure WorkerThread where
  state : WebsocketWorker
  /-- `task_queue_`. -/
  tasks : List WorkerTask
  /-- How many of its calls the pool has executed. -/
  called : ℕ
  /-- The user and the device of a connection that has passed the check and is not registered yet. -/
  accepting : Option (Uuid × Uuid)
  /-- `running_`. -/
  running : Bool
  /-- The destructor has cleared the map. -/
  destroyed : Bool

namespace WorkerThread

/-- A worker that has just started. -/
def start : WorkerThread := ⟨.start, [], 0, none, true, false⟩

/-- `websocket_sessions_map`. -/
def sessions (thread : WorkerThread) (fd : Fd) : Option WebSocketSession :=
  if thread.destroyed then none else thread.state.sessions fd

/-- `transferTask`. -/
def enqueue (thread : WorkerThread) (task : WorkerTask) : WorkerThread :=
  { thread with tasks := thread.tasks ++ [task] }

/-- What the destructor does after the thread has ended. -/
def destroy (thread : WorkerThread) : WorkerThread := { thread with tasks := [], destroyed := true }

/-- The thread is between two steps. -/
structure Ready (thread : WorkerThread) : Prop where
  running : thread.running = true
  accepting : thread.accepting = none
  called : thread.called = thread.state.calls.length

/-- **What the thread of a worker does.** `active` are the users and devices for which
`verifySessionIdentity` may answer `Success`, and `fresh` the ids that `generateSessionId` may give. -/
inductive Step (parser : JsonParser) (writer : JsonWriter) (active : Uuid → Uuid → Prop)
    (fresh : ℕ → Prop) : WorkerThread → WorkerThread → Prop where
  /-- `acceptingSessions`, up to the check of the device. -/
  | verify {thread : WorkerThread} (hready : thread.Ready) (userId deviceId : Uuid)
      (hactive : active userId deviceId) :
      Step parser writer active fresh thread { thread with accepting := some (userId, deviceId) }
  /-- `acceptingSessions`, from there on. -/
  | register {thread : WorkerThread} {who : Identity}
      (haccepting : thread.accepting = some (who.userId, who.deviceId)) (hfresh : fresh who.id)
      (fd : Fd) (inputBuffer : Bytes) (now : SteadyTime) (addOk : Bool) :
      Step parser writer active fresh thread
        { thread with
          state := thread.state.step parser writer (.register fd who inputBuffer now addOk)
          accepting := none }
  /-- The handshake fails after the check. -/
  | abandon {thread : WorkerThread} :
      Step parser writer active fresh thread { thread with accepting := none }
  /-- An event of a socket. -/
  | socket {thread : WorkerThread} (hready : thread.Ready) (fd : Fd) (flags : WebsocketWorker.Flags)
      (input : WebsocketWorker.ReadableInputs) (output : WebsocketWorker.WritableInputs) :
      Step parser writer active fresh thread
        { thread with state := thread.state.step parser writer (.socket fd flags input output) }
  /-- The timer. -/
  | timer {thread : WorkerThread} (hready : thread.Ready) (now : SteadyTime) (order : List Fd)
      (modOk : Fd → Bool) (hadmits : thread.state.Admits (.timer now order modOk)) :
      Step parser writer active fresh thread
        { thread with state := thread.state.step parser writer (.timer now order modOk) }
  /-- The next task. -/
  | run {thread : WorkerThread} (hready : thread.Ready) {task : WorkerTask} {tasks : List WorkerTask}
      (htasks : thread.tasks = task :: tasks) {input : WorkerInput} (hruns : task.RunsAs input)
      (hadmits : thread.state.Admits input) :
      Step parser writer active fresh thread
        { thread with state := thread.state.step parser writer input, tasks := tasks }
  /-- The thread ends. -/
  | halt {thread : WorkerThread} (haccepting : thread.accepting = none) :
      Step parser writer active fresh thread { thread with running := false }

end WorkerThread

/-! ### The pool -/

variable {n : ℕ}

/-- `OnlineConnection`, of one of `n` workers. -/
structure OnlineConnection (n : ℕ) where
  workerId : Fin n
  fd : Fd
  sessionId : ℕ
  userId : Uuid
  deriving DecidableEq

/-- How far a call of `closeSession` has come. -/
inductive ClosePhase (n : ℕ) where
  /-- It queues scans, under the mutex. -/
  | queueing (workers : List (Fin n)) (completions : List (Fin n × ScanId)) (allQueued : Bool)
  /-- It waits for their promises. -/
  | waiting (completions : List (Fin n × ScanId)) (allQueued : Bool)
  | returned (result : Bool)

/-- A call of `closeSession`; whether the device had been revoked when it began is a history
variable. -/
structure CloseCall (n : ℕ) where
  userId : Uuid
  deviceId : Uuid
  committed : Bool
  phase : ClosePhase n

/-- `WebSocketPool`, with its workers, the revocations that have been committed in the database, and
the calls of `closeSession` so far. -/
structure WebSocketPool (n : ℕ) where
  workers : Fin n → WorkerThread
  /-- `online_connections_`. -/
  directory : Uuid → Option (OnlineConnection n)
  /-- The session of each device that was entered last: a history variable. -/
  newest : Uuid → Option (OnlineConnection n)
  stopping : Bool
  revoked : List (Uuid × Uuid)
  nextScan : ScanId
  closeCalls : List (CloseCall n)

namespace WebSocketPool

/-- A pool after `init`. -/
def start (n : ℕ) : WebSocketPool n := ⟨fun _ => .start, fun _ => none, fun _ => none, false, [], 0, []⟩

/-- A worker's thread is in another state. -/
def setThread (pool : WebSocketPool n) (i : Fin n) (thread : WorkerThread) : WebSocketPool n :=
  { pool with workers := update pool.workers i thread }

@[simp] theorem workers_setThread (pool : WebSocketPool n) (i : Fin n) (thread : WorkerThread) :
    (pool.setThread i thread).workers = update pool.workers i thread := rfl

/-- A task for a worker. -/
def enqueue (pool : WebSocketPool n) (i : Fin n) (task : WorkerTask) : WebSocketPool n :=
  pool.setThread i ((pool.workers i).enqueue task)

@[simp] theorem workers_enqueue (pool : WebSocketPool n) (i : Fin n) (task : WorkerTask) :
    (pool.enqueue i task).workers = update pool.workers i ((pool.workers i).enqueue task) := rfl

/-- Devices whose revocation has not been committed. -/
def Active (pool : WebSocketPool n) (userId deviceId : Uuid) : Prop :=
  (userId, deviceId) ∉ pool.revoked

/-- Ids that no session of any worker has had. -/
def Fresh (pool : WebSocketPool n) (id : ℕ) : Prop :=
  ∀ i, ∀ event ∈ (pool.workers i).state.log, event.id ≠ id

/-- `addIndex`. -/
def addIndex (pool : WebSocketPool n) (deviceId userId : Uuid) (workerId : Fin n) (fd : Fd)
    (sessionId : ℕ) : WebSocketPool n :=
  if pool.stopping then pool
  else
    { pool with
      directory := update pool.directory deviceId (some ⟨workerId, fd, sessionId, userId⟩)
      newest := update pool.newest deviceId (some ⟨workerId, fd, sessionId, userId⟩) }

/-- `removeIndex`. -/
def removeIndex (pool : WebSocketPool n) (deviceId : Uuid) (workerId : Fin n) (fd : Fd)
    (sessionId : ℕ) : WebSocketPool n :=
  match pool.directory deviceId with
  | none => pool
  | some connection =>
    if connection.workerId = workerId ∧ connection.fd = fd ∧ connection.sessionId = sessionId then
      { pool with directory := update pool.directory deviceId none }
    else pool

/-- `push_To_Device`. -/
def pushToDevice (pool : WebSocketPool n) (deviceId : Uuid) (message : Json) : WebSocketPool n :=
  if pool.stopping then pool
  else match pool.directory deviceId with
    | none => pool
    | some connection => pool.enqueue connection.workerId
        (.push ⟨connection.fd, connection.sessionId, deviceId, message, .device deviceId⟩)

/-- A call that a worker has made. -/
def execute (pool : WebSocketPool n) (i : Fin n) : PoolCall → WebSocketPool n
  | .addIndex deviceId userId fd sessionId => pool.addIndex deviceId userId i fd sessionId
  | .removeIndex deviceId fd sessionId => pool.removeIndex deviceId i fd sessionId
  | .pushToDevice deviceId message => pool.pushToDevice deviceId message

/-- One more call of a worker is executed. -/
def advance (pool : WebSocketPool n) (i : Fin n) : WebSocketPool n :=
  pool.setThread i { pool.workers i with called := (pool.workers i).called + 1 }

end WebSocketPool

/-- **What a call of `closeSession` does**, to the pool and to itself. -/
inductive CloseCall.Step (pool : WebSocketPool n) :
    CloseCall n → WebSocketPool n → CloseCall n → Prop where
  /-- It queues the scan of a worker. -/
  | queue {call : CloseCall n} {i : Fin n} {workers : List (Fin n)}
      {completions : List (Fin n × ScanId)} {allQueued : Bool}
      (hphase : call.phase = .queueing (i :: workers) completions allQueued) :
      Step pool call
        { pool.enqueue i (.revocation pool.nextScan call.userId call.deviceId) with
          nextScan := pool.nextScan + 1 }
        { call with phase := .queueing workers (completions ++ [(i, pool.nextScan)]) allQueued }
  /-- `revokeDeviceConnections` throws, before or after the scan is queued. -/
  | queueFailed {call : CloseCall n} {i : Fin n} {workers : List (Fin n)}
      {completions : List (Fin n × ScanId)} {allQueued : Bool}
      (hphase : call.phase = .queueing (i :: workers) completions allQueued) (queued : Bool) :
      Step pool call
        (if queued then
          { pool.enqueue i (.revocation pool.nextScan call.userId call.deviceId) with
            nextScan := pool.nextScan + 1 }
        else pool)
        { call with phase := .queueing workers completions false }
  | queued {call : CloseCall n} {completions : List (Fin n × ScanId)} {allQueued : Bool}
      (hphase : call.phase = .queueing [] completions allQueued) :
      Step pool call pool { call with phase := .waiting completions allQueued }
  /-- A promise has a value. -/
  | ready {call : CloseCall n} {i : Fin n} {scan : ScanId} {completions : List (Fin n × ScanId)}
      {allQueued : Bool} (hphase : call.phase = .waiting ((i, scan) :: completions) allQueued)
      (hfulfilled : scan ∈ (pool.workers i).state.fulfilled) :
      Step pool call pool { call with phase := .waiting completions allQueued }
  /-- The deadline has passed, or the promise was broken. -/
  | late {call : CloseCall n} {completion : Fin n × ScanId} {completions : List (Fin n × ScanId)}
      {allQueued : Bool} (hphase : call.phase = .waiting (completion :: completions) allQueued) :
      Step pool call pool { call with phase := .waiting completions false }
  | done {call : CloseCall n} {allQueued : Bool} (hphase : call.phase = .waiting [] allQueued) :
      Step pool call pool { call with phase := .returned allQueued }

/-- **One step of the pool**: of one of the threads that use it, or of the database. -/
inductive WebSocketPool.Step (parser : JsonParser) (writer : JsonWriter) :
    WebSocketPool n → WebSocketPool n → Prop where
  | thread {pool : WebSocketPool n} (i : Fin n) {thread : WorkerThread}
      (h : (pool.workers i).Step parser writer pool.Active pool.Fresh thread) :
      Step parser writer pool (pool.setThread i thread)
  /-- `revokeUserDevice` is committed. -/
  | commit {pool : WebSocketPool n} (userId deviceId : Uuid) :
      Step parser writer pool { pool with revoked := (userId, deviceId) :: pool.revoked }
  /-- A service thread replies to a request of a worker. -/
  | reply {pool : WebSocketPool n} (i : Fin n) (request : Request) (response : Json)
      (hdispatched : .dispatched request ∈ (pool.workers i).state.log) :
      Step parser writer pool (pool.enqueue i (.reply request response))
  /-- The next call of a worker is executed. -/
  | call {pool : WebSocketPool n} (i : Fin n) {poolCall : PoolCall}
      (hcall : (pool.workers i).state.calls[(pool.workers i).called]? = some poolCall) :
      Step parser writer pool ((pool.execute i poolCall).advance i)
  /-- `push_To_User`, at one of the devices. -/
  | pushToUser {pool : WebSocketPool n} (hrunning : pool.stopping = false) (userId : Uuid)
      (message : Json) {deviceId : Uuid} {connection : OnlineConnection n}
      (honline : pool.directory deviceId = some connection) (huser : connection.userId = userId) :
      Step parser writer pool (pool.enqueue connection.workerId
        (.push ⟨connection.fd, connection.sessionId, deviceId, message, .user userId⟩))
  | enqueueCloseSession {pool : WebSocketPool n} (i : Fin n) (fd : Fd) (sessionId : ℕ)
      (deviceId : Uuid) : Step parser writer pool (pool.enqueue i (.close fd sessionId deviceId))
  /-- `closeSession` is called. -/
  | closeSession {pool : WebSocketPool n} (userId deviceId : Uuid) :
      Step parser writer pool
        { pool with closeCalls := pool.closeCalls ++ [
            { userId := userId
              deviceId := deviceId
              committed := (userId, deviceId) ∈ pool.revoked
              phase := if pool.stopping then .returned false
                else .queueing (List.finRange n) [] true }] }
  /-- A call of `closeSession` goes on. -/
  | closeCall {pool pool' : WebSocketPool n} {before after : List (CloseCall n)}
      {call call' : CloseCall n} (hcall : pool.closeCalls = before ++ call :: after)
      (h : call.Step pool pool' call') :
      Step parser writer pool { pool' with closeCalls := before ++ call' :: after }
  /-- `close`, up to the end of the critical section. -/
  | close {pool : WebSocketPool n} :
      Step parser writer pool { pool with stopping := true, directory := fun _ => none }
  /-- `close`, from there on: the workers are destroyed. -/
  | destroy {pool : WebSocketPool n} (hstopping : pool.stopping = true) (i : Fin n)
      (hhalted : (pool.workers i).running = false) :
      Step parser writer pool (pool.setThread i (pool.workers i).destroy)

/-- **The states that a pool can get to** from a state. -/
def WebSocketPool.Steps (parser : JsonParser) (writer : JsonWriter) :
    WebSocketPool n → WebSocketPool n → Prop :=
  Relation.ReflTransGen (WebSocketPool.Step parser writer)

/-- The states that a pool can reach. -/
def WebSocketPool.Reaches (parser : JsonParser) (writer : JsonWriter) (pool : WebSocketPool n) :
    Prop :=
  WebSocketPool.Steps parser writer (.start n) pool

/-- A pool of one worker has a worker. -/
instance neZero_one : NeZero 1 := ⟨Nat.one_ne_zero⟩

namespace Sample

/-- A device passes the check. -/
def verified (pool : WebSocketPool 1) (who : Identity) : WebSocketPool 1 :=
  pool.setThread 0 { pool.workers 0 with accepting := some (who.userId, who.deviceId) }

/-- Its session is registered, and then entered in the directory. -/
def joined (pool : WebSocketPool 1) (fd : Fd) (who : Identity) : WebSocketPool 1 :=
  let registered := pool.setThread 0
    { pool.workers 0 with
      state := (pool.workers 0).state.register fd who [] 0 true
      accepting := none }
  (registered.execute 0 (.addIndex who.deviceId who.userId fd who.id)).advance 0

/-- A pool with a session. -/
def online : WebSocketPool 1 := joined (verified (.start 1) who) 7 who

theorem reaches_online (parser : JsonParser) (writer : JsonWriter) :
    online.Reaches parser writer := by
  have hverify : (verified (.start 1) who).Reaches parser writer :=
    .tail .refl (.thread 0 (.verify ⟨rfl, rfl, rfl⟩ 1 2 List.not_mem_nil))
  have hfresh : (verified (.start 1) who).Fresh 1 := by
    intro i
    rw [Subsingleton.elim i 0]
    exact nofun
  exact (hverify.tail (.thread 0 (@WorkerThread.Step.register _ _ _ _ _ who rfl hfresh 7 [] 0 true))).tail
    (.call 0 rfl)

end Sample

end ChatBackend
