import Mathlib.Logic.Function.Basic
import ChatBackend.Uuid
import ChatBackend.Websocket.Application
import ChatBackend.Websocket.Handler

/-!
# The worker

`src/websocket/WebsocketWorker.cpp`: one thread that owns sessions by their file descriptors and
handles one event at a time. Each handler is a function on the state of the worker; what it learns
from outside (the outcomes of `recv`, `send` and `epoll_ctl`, the clock, whether a dispatch throws,
the order in which a hash map is gone through) is an input of it.

The sessions and what the worker knows about them beside (which are closing, until when, and who
waits for the end of them) are in different maps, all with the file descriptor as the key.

## Main definitions

* `WebsocketWorker` — the state, with the `WorkerEvent`s so far as a history variable
* `WebsocketWorker.handleReadable`, `handleWritable`, `handleTimer`, `runReply`, `runPush`,
  `runRevocation`, `register`, `socketEvent`
* `WorkerInput`, `WebsocketWorker.step` — one step of the thread
-/

namespace ChatBackend

open Function (update)

/-! ### Inputs and events -/

/-- A file descriptor. -/
abbrev Fd := ℕ

/-- A promise that a call of `revokeDeviceConnections` waits for. -/
abbrev ScanId := ℕ

/-- `dump()` of a response: its bytes, unless it throws. -/
structure JsonWriter where
  dump : Json → Option Bytes

/-- A frame that was given to the dispatcher with the user and the device of its session; the reply
function that goes with it captures the file descriptor and the id of the session. -/
structure Request where
  fd : Fd
  who : Identity
  frame : Frame
  deriving DecidableEq

/-- For whom a push was meant. -/
inductive PushTarget where
  /-- `push_To_Device`. -/
  | device (deviceId : Uuid)
  /-- `push_To_User`. -/
  | user (userId : Uuid)
  deriving DecidableEq

/-- A task that `enqueuePush` queues; the target is a history variable. -/
structure PushTask where
  fd : Fd
  sessionId : ℕ
  deviceId : Uuid
  message : Json
  target : PushTarget

/-- Who writes to an output buffer. -/
inductive Writer where
  | pong
  | closeReply
  | ping
  | reply (request : Request)
  | push (task : PushTask)
  | revocation

/-- Why a session is removed. -/
inductive Cause where
  /-- `EPOLLERR` or `EPOLLHUP`. -/
  | hangup
  /-- `EPOLLRDHUP`. -/
  | halfClosed
  /-- `recv` returned 0. -/
  | peerClosed
  | protocolError
  | recvFailed
  | sendFailed
  /-- A closing session has sent all its output. -/
  | drained
  | pongTimeout
  | revokeTimeout
  /-- `epoll_ctl` failed. -/
  | epollFailed
  /-- `enqueuecloseSession`. -/
  | closeTask
  deriving DecidableEq

/-- What happens to the sessions of a worker. -/
inductive WorkerEvent where
  | registered (fd : Fd) (who : Identity)
  | appended (who : Identity) (writer : Writer) (frame : Frame)
  | sent (id : ℕ) (bytes : Bytes)
  | dispatched (request : Request)
  | closing (id : ℕ)
  | removed (id : ℕ) (cause : Cause)

/-- The session it happens to. -/
def WorkerEvent.id : WorkerEvent → ℕ
  | registered _ who => who.id
  | appended who _ _ => who.id
  | sent id _ => id
  | dispatched request => request.who.id
  | closing id => id
  | removed id _ => id

/-- A call to the pool, made in passing. -/
inductive PoolCall where
  | addIndex (deviceId userId : Uuid) (fd : Fd) (sessionId : ℕ)
  | removeIndex (deviceId : Uuid) (fd : Fd) (sessionId : ℕ)
  | pushToDevice (deviceId : Uuid) (message : Json)

/-- The events of a socket that epoll watches for beside `EPOLLRDHUP`. -/
structure Interest where
  readable : Bool
  writable : Bool
  deriving DecidableEq

/-- `WebsocketWorker`. The promises are counted here, too: `remaining` is what their callbacks share,
and `fulfilled` are those that have a value. -/
structure WebsocketWorker where
  sessions : Fd → Option WebSocketSession
  closing : Fd → Bool
  deadlines : Fd → Option SteadyTime
  completions : Fd → List ScanId
  remaining : ScanId → ℕ
  fulfilled : List ScanId
  interest : Fd → Option Interest
  calls : List PoolCall
  log : List WorkerEvent

/-- `heartbeat_interval_`. -/
def heartbeatInterval : SteadyTime := seconds 30

/-- `pong_timeout_`. -/
def pongTimeout : SteadyTime := seconds 10

/-- How long a revoked session may take to send its output. -/
def revokeTimeout : SteadyTime := seconds 2

/-- The Ping of the heartbeat. -/
def pingFrame : Frame := ⟨true, .ping, []⟩

/-- The Close of a revocation: code 4001 and `device_revoked`. -/
def revokedFrame : Frame := ⟨true, .close, [0x0f, 0xa1] ++ utf8 "device_revoked"⟩

/-- The Text of a response. -/
def textFrame (text : Bytes) : Frame := ⟨true, .text, text⟩

namespace WebsocketWorker

/-- A worker that has just started. -/
def start : WebsocketWorker where
  sessions := fun _ => none
  closing := fun _ => false
  deadlines := fun _ => none
  completions := fun _ => []
  remaining := fun _ => 0
  fulfilled := []
  interest := fun _ => none
  calls := []
  log := []

/-! ### Sessions -/

/-- More events. -/
def record (w : WebsocketWorker) (events : List WorkerEvent) : WebsocketWorker :=
  { w with log := w.log ++ events }

/-- A call to the pool. -/
def call (w : WebsocketWorker) (poolCall : PoolCall) : WebsocketWorker :=
  { w with calls := w.calls ++ [poolCall] }

/-- The session of a file descriptor is another one now. -/
def setSession (w : WebsocketWorker) (fd : Fd) (session : WebSocketSession) : WebsocketWorker :=
  { w with sessions := update w.sessions fd (some session) }

/-- `closing_sessions_.insert`. -/
def markClosing (w : WebsocketWorker) (fd : Fd) (session : WebSocketSession) : WebsocketWorker :=
  { w with closing := update w.closing fd true }.record [.closing session.id]

/-- A deadline for a session. -/
def setDeadline (w : WebsocketWorker) (fd : Fd) (deadline : SteadyTime) : WebsocketWorker :=
  { w with deadlines := update w.deadlines fd (some deadline) }

/-- Encode a frame into the output buffer of a session. -/
def append (w : WebsocketWorker) (fd : Fd) (session : WebSocketSession) (writer : Writer)
    (frame : Frame) : WebsocketWorker :=
  (w.setSession fd (session.write frame)).record [.appended session.identity writer frame]

/-- The callback of a session that a scan waits for: the last one sets the value. -/
def complete (w : WebsocketWorker) (scan : ScanId) : WebsocketWorker :=
  { w with
    remaining := update w.remaining scan (w.remaining scan - 1)
    fulfilled := if w.remaining scan - 1 = 0 then w.fulfilled ++ [scan] else w.fulfilled }

/-- `removeSession`. For a file descriptor without a session, the call to the pool finds nothing. -/
def removeSession (w : WebsocketWorker) (fd : Fd) (cause : Cause) : WebsocketWorker :=
  let w := match w.sessions fd with
    | none => w
    | some session =>
      (w.call (.removeIndex session.deviceId fd session.id)).record [.removed session.id cause]
  let callbacks := w.completions fd
  callbacks.foldl complete
    { w with
      interest := update w.interest fd none
      closing := update w.closing fd false
      sessions := update w.sessions fd none
      deadlines := update w.deadlines fd none
      completions := update w.completions fd [] }

/-- `setWriteInterest`; `modOk` is whether `epoll_ctl` succeeds. -/
def setWriteInterest (w : WebsocketWorker) (fd : Fd) (enabled modOk : Bool) : WebsocketWorker :=
  if (w.sessions fd).isNone then w
  else if modOk then
    { w with interest := update w.interest fd (some ⟨(w.deadlines fd).isNone, enabled⟩) }
  else w.removeSession fd .epollFailed

/-! ### Writing -/

/-- What `handleWritable` learns: the outcomes of `send`, and of `epoll_ctl`. -/
structure WritableInputs where
  sends : List Send
  modOk : Bool

/-- `handleWritable`. -/
def handleWritable (w : WebsocketWorker) (fd : Fd) (io : WritableInputs) : WebsocketWorker :=
  match w.sessions fd with
  | none => w
  | some session =>
    match session.connection.flush io.sends with
    | (connection, .sent bytes) =>
      let w := (w.setSession fd { session with connection := connection }).record
        [.sent session.id bytes]
      if connection.hasPendingOutput then w
      else if w.closing fd then w.removeSession fd .drained
      else w.setWriteInterest fd false io.modOk
    | (_, .again) => w
    | (_, .failed) => w.removeSession fd .sendFailed

/-! ### Reading -/

/-- What `handleReadable` learns: the outcomes of `recv`, of `epoll_ctl`, and which of its calls of
`dispatch` throw. -/
structure ReadableInputs where
  recvs : List Recv
  modOk : Bool
  dispatchThrows : List Bool

/-- What the handler has written: the replies to the Pings and to the Close that it handled. -/
def answers (who : Identity) (handled : List Frame) : List WorkerEvent :=
  handled.filterMap fun frame => frame.answer.map fun reply =>
    .appended who (if frame.opcode = .close then .closeReply else .pong) reply

/-- The loop over the messages: which are dispatched, and whether it ends with an exception. The
message is dumped for the log before it is dispatched. -/
def dispatchFrames (parser : JsonParser) (request : Frame → Request) :
    List Frame → List Bool → List Request × Bool
  | [], _ => ([], false)
  | frame :: frames, throws =>
    if (applicationParse parser frame).dump = false then ([], true)
    else if throws.headD false then ([request frame], true)
    else
      let (requests, threw) := dispatchFrames parser request frames throws.tail
      (request frame :: requests, threw)

/-- The `switch` on the status. -/
def takeVerdict (w : WebsocketWorker) (fd : Fd) (session : WebSocketSession)
    (result : WebSocketHandleResult) : WebsocketWorker :=
  match result.status with
  | .messagesReady | .needMoreData => w
  | .peerClosed =>
    if result.outputQueued then w.markClosing fd session else w.removeSession fd .peerClosed
  | .protocolError => w.removeSession fd .protocolError
  | .ioError => w.removeSession fd .recvFailed

/-- `handleReadable`, from the reading on: what the handler has read off `session` is dispatched, and
its verdict is taken. -/
def handleBatch (parser : JsonParser) (w : WebsocketWorker) (fd : Fd) (progress : Progress)
    (io : ReadableInputs) : WebsocketWorker × Bool :=
  let session := progress.session
  let result := progress.result
  let w := (w.setSession fd session).record (answers session.identity progress.handled)
  let w := if result.outputQueued then w.setWriteInterest fd true io.modOk else w
  if (w.sessions fd).isNone then (w, false)
  else
    let (requests, threw) := dispatchFrames parser (fun frame => ⟨fd, session.identity, frame⟩)
      result.frames io.dispatchThrows
    let w := w.record (requests.map .dispatched)
    if threw then (w, true) else (w.takeVerdict fd session result, false)

/-- `handleReadable`; the flag is whether it throws. -/
def handleReadable (parser : JsonParser) (w : WebsocketWorker) (fd : Fd) (io : ReadableInputs) :
    WebsocketWorker × Bool :=
  if (w.deadlines fd).isSome then (w, false)
  else match w.sessions fd with
    | none => (w, false)
    | some session => w.handleBatch parser fd (ChatBackend.handleReadable session io.recvs) io

/-! ### The timer -/

/-- What the timer finds to do about a session. -/
inductive TimerVerdict where
  | expired (cause : Cause)
  | ping
  deriving DecidableEq

/-- The checks of `handleTimer` on one session. -/
def timerVerdict (w : WebsocketWorker) (now : SteadyTime) (fd : Fd) : Option TimerVerdict :=
  match w.sessions fd with
  | none => none
  | some session =>
    match w.deadlines fd with
    | some deadline => if deadline ≤ now then some (.expired .revokeTimeout) else none
    | none =>
      if session.pongTimeout now pongTimeout then some (.expired .pongTimeout)
      else if session.shouldSendPing now heartbeatInterval then some .ping
      else none

/-- A Ping of the heartbeat. -/
def sendPing (now : SteadyTime) (w : WebsocketWorker) (fd : Fd) : WebsocketWorker :=
  match w.sessions fd with
  | none => w
  | some session =>
    (w.setSession fd ((session.write pingFrame).markPingSent now)).record
      [.appended session.identity .ping pingFrame]

/-- A session whose time is over. -/
def expire (w : WebsocketWorker) (expired : Fd × Cause) : WebsocketWorker :=
  w.removeSession expired.1 expired.2

/-- The sessions whose time is over, with the reasons. -/
def expiredFds (w : WebsocketWorker) (now : SteadyTime) (order : List Fd) : List (Fd × Cause) :=
  order.filterMap fun fd => match w.timerVerdict now fd with
    | some (.expired cause) => some (fd, cause)
    | _ => none

/-- The sessions that get a Ping. -/
def writableFds (w : WebsocketWorker) (now : SteadyTime) (order : List Fd) : List Fd :=
  order.filter fun fd => w.timerVerdict now fd = some .ping

/-- `handleTimer`; `order` is the order in which the map is gone through. -/
def handleTimer (w : WebsocketWorker) (now : SteadyTime) (order : List Fd) (modOk : Fd → Bool) :
    WebsocketWorker :=
  let expiredFds := w.expiredFds now order
  let writableFds := w.writableFds now order
  let w := writableFds.foldl (sendPing now) w
  let w := expiredFds.foldl expire w
  writableFds.foldl (fun w fd => w.setWriteInterest fd true (modOk fd)) w

/-! ### Tasks -/

/-- `response.value("type", "")`, unless it throws. -/
def responseType (response : Json) : Option String :=
  if response.isObject = false then none
  else match response.find "type" with
    | none => some ""
    | some (.string type) => some type
    | some _ => none

/-- `at("envelope").at("recipient_device_id")` as a uuid, unless that throws. -/
def recipientDeviceId (response : Json) : Option Uuid :=
  match (response.find "envelope").bind fun envelope => envelope.find "recipient_device_id" with
  | some (.string text) => Uuid.ofString text
  | _ => none

/-- Write a message to the session of a task and ask for `EPOLLOUT`. -/
def deliver (writer : JsonWriter) (w : WebsocketWorker) (fd : Fd) (session : WebSocketSession)
    (who : Writer) (message : Json) (modOk : Bool) : WebsocketWorker :=
  match writer.dump message with
  | none => w
  | some text => (w.append fd session who (textFrame text)).setWriteInterest fd true modOk

/-- The task of a reply. -/
def runReply (writer : JsonWriter) (w : WebsocketWorker) (request : Request) (response : Json)
    (modOk : Bool) : WebsocketWorker :=
  match responseType response with
  | none => w
  | some type =>
    if type = "online_sync" ∨ type = "Online_Sync" then
      match recipientDeviceId response with
      | none => w
      | some recipient => w.call (.pushToDevice recipient response)
    else match w.sessions request.fd with
      | none => w
      | some session =>
        if session.id ≠ request.who.id ∨ w.closing request.fd then w
        else w.deliver writer request.fd session (.reply request) response modOk

/-- The task of `enqueuePush`. -/
def runPush (writer : JsonWriter) (w : WebsocketWorker) (task : PushTask) (modOk : Bool) :
    WebsocketWorker :=
  match w.sessions task.fd with
  | none => w
  | some session =>
    if w.closing task.fd then w
    else if session.id ≠ task.sessionId ∨ session.deviceId ≠ task.deviceId then w
    else w.deliver writer task.fd session (.push task) task.message modOk

/-- The task of `enqueuecloseSession`. -/
def runClose (w : WebsocketWorker) (fd : Fd) (sessionId : ℕ) (deviceId : Uuid) : WebsocketWorker :=
  match w.sessions fd with
  | none => w
  | some session =>
    if w.closing fd then w
    else if session.id ≠ sessionId ∨ session.deviceId ≠ deviceId then w
    else w.removeSession fd .closeTask

/-- What the scan of a revocation learns at one of its targets. -/
structure RevocationInputs where
  now : SteadyTime
  modOk : Bool
  sends : List Send

/-- Whether a session is a target of a revocation. -/
def owned (w : WebsocketWorker) (userId deviceId : Uuid) (fd : Fd) : Bool :=
  match w.sessions fd with
  | none => false
  | some session => session.userId = userId && session.deviceId = deviceId

/-- One target of a revocation; it still has its session when its turn comes. A session that is
closing already keeps the Close it has. -/
def revoke (io : Fd → RevocationInputs) (w : WebsocketWorker) (fd : Fd) : WebsocketWorker :=
  match w.sessions fd with
  | none => w
  | some session =>
    if (w.deadlines fd).isSome then w
    else
      let w := w.setDeadline fd ((io fd).now + revokeTimeout)
      let w := if w.closing fd then w
        else (w.markClosing fd session).append fd session .revocation revokedFrame
      (w.setWriteInterest fd true (io fd).modOk).handleWritable fd ⟨(io fd).sends, (io fd).modOk⟩

/-- The task of `revokeDeviceConnections`: it sets the value of its promise at once if it has no
targets, and leaves a callback at each of them otherwise. -/
def runRevocation (w : WebsocketWorker) (scan : ScanId) (userId deviceId : Uuid) (order : List Fd)
    (io : Fd → RevocationInputs) : WebsocketWorker :=
  let targets := order.filter (w.owned userId deviceId)
  if targets = [] then { w with fulfilled := w.fulfilled ++ [scan] }
  else
    targets.foldl (revoke io)
      { w with
        remaining := update w.remaining scan targets.length
        completions := fun fd =>
          if fd ∈ targets then w.completions fd ++ [scan] else w.completions fd }

/-! ### Steps -/

/-- `acceptingSessions`, from the successful handshake on. -/
def register (w : WebsocketWorker) (fd : Fd) (who : Identity) (inputBuffer : Bytes)
    (now : SteadyTime) (addOk : Bool) : WebsocketWorker :=
  if (w.sessions fd).isSome then w
  else if addOk = false then w
  else
    let session : WebSocketSession :=
      ⟨who.id, who.userId, who.deviceId, ⟨inputBuffer, []⟩, now, 0, false, false⟩
    let w := { w with interest := update w.interest fd (some ⟨true, false⟩) }
    ((w.setSession fd session).call (.addIndex who.deviceId who.userId fd who.id)).record
      [.registered fd who]

/-- The flags of an event. -/
structure Flags where
  err : Bool
  hup : Bool
  readable : Bool
  writable : Bool
  rdhup : Bool
  deriving DecidableEq

/-- What `worker` does with an event of a socket after it has read. -/
def finishEvent (w : WebsocketWorker) (fd : Fd) (flags : Flags) (output : WritableInputs) :
    WebsocketWorker :=
  if (w.sessions fd).isNone then w
  else
    let w := if flags.writable then w.handleWritable fd output else w
    if (w.sessions fd).isNone then w
    else if flags.rdhup && !w.closing fd then w.removeSession fd .halfClosed
    else w

/-- What `worker` does with an event of a socket; an exception ends the handling of the event. -/
def socketEvent (parser : JsonParser) (w : WebsocketWorker) (fd : Fd) (flags : Flags)
    (input : ReadableInputs) (output : WritableInputs) : WebsocketWorker :=
  if flags.err || flags.hup then w.removeSession fd .hangup
  else if flags.readable then
    match w.handleReadable parser fd input with
    | (w, true) => w
    | (w, false) => w.finishEvent fd flags output
  else w.finishEvent fd flags output

end WebsocketWorker

/-- What one step of a worker deals with. -/
inductive WorkerInput where
  | register (fd : Fd) (who : Identity) (inputBuffer : Bytes) (now : SteadyTime) (addOk : Bool)
  | socket (fd : Fd) (flags : WebsocketWorker.Flags) (input : WebsocketWorker.ReadableInputs)
      (output : WebsocketWorker.WritableInputs)
  | timer (now : SteadyTime) (order : List Fd) (modOk : Fd → Bool)
  | reply (request : Request) (response : Json) (modOk : Bool)
  | push (task : PushTask) (modOk : Bool)
  | close (fd : Fd) (sessionId : ℕ) (deviceId : Uuid)
  | revocation (scan : ScanId) (userId deviceId : Uuid) (order : List Fd)
      (io : Fd → WebsocketWorker.RevocationInputs)

/-- The list goes through the keys of the map, each once. -/
def WebsocketWorker.Enumerates (w : WebsocketWorker) (order : List Fd) : Prop :=
  order.Nodup ∧ ∀ fd, fd ∈ order ↔ (w.sessions fd).isSome

/-- What an input may be: a new session has a new id, and going through a map finds all of it. -/
def WebsocketWorker.Admits (w : WebsocketWorker) : WorkerInput → Prop
  | .register _ who _ _ _ => ∀ event ∈ w.log, event.id ≠ who.id
  | .timer _ order _ => w.Enumerates order
  | .revocation _ _ _ order _ => w.Enumerates order
  | _ => True

/-- **One step of a worker.** -/
def WebsocketWorker.step (parser : JsonParser) (writer : JsonWriter) (w : WebsocketWorker) :
    WorkerInput → WebsocketWorker
  | .register fd who inputBuffer now addOk => w.register fd who inputBuffer now addOk
  | .socket fd flags input output => w.socketEvent parser fd flags input output
  | .timer now order modOk => w.handleTimer now order modOk
  | .reply request response modOk => w.runReply writer request response modOk
  | .push task modOk => w.runPush writer task modOk
  | .close fd sessionId deviceId => w.runClose fd sessionId deviceId
  | .revocation scan userId deviceId order io => w.runRevocation scan userId deviceId order io

/-- **The states that a worker can reach** when every step meets a condition. -/
inductive WebsocketWorker.Reaches (parser : JsonParser) (writer : JsonWriter)
    (condition : WebsocketWorker → WorkerInput → Prop) : WebsocketWorker → Prop where
  | start : Reaches parser writer condition .start
  | step {w : WebsocketWorker} {input : WorkerInput} (hw : Reaches parser writer condition w)
      (hadmits : w.Admits input) (hcondition : condition w input) :
      Reaches parser writer condition (w.step parser writer input)

/-! ### What the operations leave -/

namespace WebsocketWorker

variable (w : WebsocketWorker) (fd : Fd)

@[simp] theorem log_record (events : List WorkerEvent) :
    (w.record events).log = w.log ++ events := rfl

@[simp] theorem sessions_record (events : List WorkerEvent) :
    (w.record events).sessions = w.sessions := rfl

@[simp] theorem closing_record (events : List WorkerEvent) :
    (w.record events).closing = w.closing := rfl

@[simp] theorem deadlines_record (events : List WorkerEvent) :
    (w.record events).deadlines = w.deadlines := rfl

@[simp] theorem sessions_setSession (session : WebSocketSession) :
    (w.setSession fd session).sessions = update w.sessions fd (some session) := rfl

@[simp] theorem closing_setSession (session : WebSocketSession) :
    (w.setSession fd session).closing = w.closing := rfl

@[simp] theorem deadlines_setSession (session : WebSocketSession) :
    (w.setSession fd session).deadlines = w.deadlines := rfl

@[simp] theorem log_setSession (session : WebSocketSession) :
    (w.setSession fd session).log = w.log := rfl

@[simp] theorem log_setDeadline (deadline : SteadyTime) :
    (w.setDeadline fd deadline).log = w.log := rfl

/-- The callbacks of a session only have to do with promises. -/
theorem foldl_complete (callbacks : List ScanId) :
    ∃ remaining fulfilled, callbacks.foldl complete w =
      { w with remaining := remaining, fulfilled := fulfilled } := by
  induction callbacks generalizing w with
  | nil => exact ⟨w.remaining, w.fulfilled, rfl⟩
  | cons scan callbacks ih =>
    obtain ⟨remaining, fulfilled, h⟩ := ih (w.complete scan)
    exact ⟨remaining, fulfilled, h⟩

/-- What `removeSession` takes away, whatever the callbacks do to the promises. -/
theorem removeSession_eq (cause : Cause) : ∃ remaining fulfilled, w.removeSession fd cause =
    { sessions := update w.sessions fd none
      closing := update w.closing fd false
      deadlines := update w.deadlines fd none
      completions := update w.completions fd []
      remaining := remaining
      fulfilled := fulfilled
      interest := update w.interest fd none
      calls := w.calls ++ (w.sessions fd).toList.map fun session =>
        .removeIndex session.deviceId fd session.id
      log := w.log ++ (w.sessions fd).toList.map fun session => .removed session.id cause } := by
  rw [removeSession]
  rcases hsession : w.sessions fd with _ | session
  · obtain ⟨remaining, fulfilled, h⟩ := foldl_complete
      { w with
        interest := update w.interest fd none
        closing := update w.closing fd false
        sessions := update w.sessions fd none
        deadlines := update w.deadlines fd none
        completions := update w.completions fd [] } (w.completions fd)
    refine ⟨remaining, fulfilled, ?_⟩
    simp only [h, Option.toList_none, List.map_nil, List.append_nil]
  · obtain ⟨remaining, fulfilled, h⟩ := foldl_complete
      { (w.call (.removeIndex session.deviceId fd session.id)).record
          [.removed session.id cause] with
        interest := update w.interest fd none
        closing := update w.closing fd false
        sessions := update w.sessions fd none
        deadlines := update w.deadlines fd none
        completions := update w.completions fd [] } (w.completions fd)
    exact ⟨remaining, fulfilled, h⟩

@[simp] theorem sessions_removeSession (cause : Cause) :
    (w.removeSession fd cause).sessions = update w.sessions fd none := by
  obtain ⟨_, _, h⟩ := w.removeSession_eq fd cause
  rw [h]

@[simp] theorem closing_removeSession (cause : Cause) :
    (w.removeSession fd cause).closing = update w.closing fd false := by
  obtain ⟨_, _, h⟩ := w.removeSession_eq fd cause
  rw [h]

@[simp] theorem deadlines_removeSession (cause : Cause) :
    (w.removeSession fd cause).deadlines = update w.deadlines fd none := by
  obtain ⟨_, _, h⟩ := w.removeSession_eq fd cause
  rw [h]

@[simp] theorem completions_removeSession (cause : Cause) :
    (w.removeSession fd cause).completions = update w.completions fd [] := by
  obtain ⟨_, _, h⟩ := w.removeSession_eq fd cause
  rw [h]

@[simp] theorem calls_removeSession (cause : Cause) :
    (w.removeSession fd cause).calls = w.calls ++ (w.sessions fd).toList.map fun session =>
      .removeIndex session.deviceId fd session.id := by
  obtain ⟨_, _, h⟩ := w.removeSession_eq fd cause
  rw [h]

@[simp] theorem log_removeSession (cause : Cause) :
    (w.removeSession fd cause).log = w.log ++ (w.sessions fd).toList.map fun session =>
      .removed session.id cause := by
  obtain ⟨_, _, h⟩ := w.removeSession_eq fd cause
  rw [h]

/-- `setWriteInterest` only changes what epoll watches for, or removes the session. -/
theorem setWriteInterest_cases (enabled modOk : Bool) :
    (∃ interest, w.setWriteInterest fd enabled modOk = { w with interest := interest }) ∨
      (w.sessions fd).isSome ∧ modOk = false ∧
        w.setWriteInterest fd enabled modOk = w.removeSession fd .epollFailed := by
  rw [setWriteInterest]
  split
  · exact .inl ⟨w.interest, rfl⟩
  · next hpresent =>
    cases modOk with
    | true => exact .inl ⟨_, rfl⟩
    | false => exact .inr ⟨by simpa [Option.isSome_iff_ne_none] using hpresent, rfl, rfl⟩

/-- The verdict adds one event at most. -/
theorem log_takeVerdict (session : WebSocketSession) (result : WebSocketHandleResult) :
    ∃ more, (w.takeVerdict fd session result).log = w.log ++ more := by
  rw [takeVerdict]
  split
  · exact ⟨[], (List.append_nil _).symm⟩
  · exact ⟨[], (List.append_nil _).symm⟩
  · split
    · exact ⟨_, rfl⟩
    · exact ⟨_, log_removeSession w fd _⟩
  · exact ⟨_, log_removeSession w fd _⟩
  · exact ⟨_, log_removeSession w fd _⟩

/-! ### What the dispatch loop does -/

/-- The answers are to one session. -/
theorem id_answers {who : Identity} {handled : List Frame} {event : WorkerEvent}
    (h : event ∈ answers who handled) : event.id = who.id := by
  obtain ⟨frame, -, hevent⟩ := List.mem_filterMap.1 h
  obtain ⟨reply, -, rfl⟩ := Option.map_eq_some_iff.1 hevent
  rfl

variable (parser : JsonParser) (request : Frame → Request)

/-- The requests are the first of the messages. -/
theorem dispatchFrames_isPrefix (frames : List Frame) (throws : List Bool) :
    (dispatchFrames parser request frames throws).1 <+: frames.map request := by
  induction frames generalizing throws with
  | nil => exact List.prefix_rfl
  | cons frame frames ih =>
    rw [dispatchFrames, List.map_cons]
    split
    · exact List.nil_prefix
    · split
      · exact ⟨frames.map request, rfl⟩
      · exact (List.prefix_cons_inj _).2 (ih throws.tail)

/-- **When the loop throws**: at a message that cannot be dumped, or at a dispatch that throws. -/
theorem dispatchFrames_threw (frames : List Frame) (throws : List Bool) :
    (dispatchFrames parser request frames throws).2 = false ↔
      (∀ frame ∈ frames, (applicationParse parser frame).dump = true) ∧
        ∀ i < frames.length, throws.getD i false = false := by
  induction frames generalizing throws with
  | nil => simp [dispatchFrames]
  | cons frame frames ih =>
    have hhead : throws.headD false = throws.getD 0 false := by cases throws <;> rfl
    have htail (i : ℕ) : throws.tail.getD i false = throws.getD (i + 1) false := by
      cases throws <;> rfl
    rw [dispatchFrames, List.forall_mem_cons]
    split
    · next hdump => simp [hdump]
    · next hdump =>
      rw [Bool.not_eq_false] at hdump
      split
      · next hthrows =>
        rw [hhead] at hthrows
        simp only [reduceCtorEq, false_iff, not_and, not_forall]
        exact fun _ => ⟨0, Nat.succ_pos _, fun h => by rw [hthrows] at h; cases h⟩
      · next hthrows =>
        rw [hhead, Bool.not_eq_true] at hthrows
        simp only [ih, htail, hdump, true_and, List.length_cons]
        refine and_congr_right fun _ => ⟨fun h i hi => ?_, fun h i hi => h _ (by omega)⟩
        cases i with
        | zero => exact hthrows
        | succ i => exact h i (by omega)

/-- **When all messages are dispatched**: each can be dumped, and none but the last dispatch
throws. -/
theorem dispatchFrames_all (frames : List Frame) (throws : List Bool) :
    (dispatchFrames parser request frames throws).1 = frames.map request ↔
      (∀ frame ∈ frames, (applicationParse parser frame).dump = true) ∧
        ∀ i, i + 1 < frames.length → throws.getD i false = false := by
  induction frames generalizing throws with
  | nil => simp [dispatchFrames]
  | cons frame frames ih =>
    have hhead : throws.headD false = throws.getD 0 false := by cases throws <;> rfl
    have htail (i : ℕ) : throws.tail.getD i false = throws.getD (i + 1) false := by
      cases throws <;> rfl
    rw [dispatchFrames, List.forall_mem_cons, List.map_cons]
    split
    · next hdump => simp [hdump]
    · next hdump =>
      rw [Bool.not_eq_false] at hdump
      split
      · next hthrows =>
        rw [hhead] at hthrows
        simp only [List.cons.injEq, true_and, hdump, List.length_cons]
        cases frames with
        | nil => simp
        | cons other frames =>
          simp only [List.map_cons, List.nil_eq, reduceCtorEq, false_iff, not_and, not_forall]
          exact fun _ => ⟨0, by simp, fun h => by rw [hthrows] at h; cases h⟩
      · next hthrows =>
        rw [hhead, Bool.not_eq_true] at hthrows
        simp only [List.cons.injEq, ih, htail, hdump, true_and, List.length_cons]
        refine and_congr_right fun _ => ⟨fun h i hi => ?_, fun h i hi => h _ (by omega)⟩
        cases i with
        | zero => exact hthrows
        | succ i => exact h i (by omega)

end WebsocketWorker

/-! ### Sample inputs -/

namespace Sample

/-- The session of device 2 of user 1. -/
def who : Identity := ⟨1, 1, 2⟩

/-- It is registered with file descriptor 7. -/
def registration : WorkerInput := .register 7 who [] 0 true

/-- A frame as the client sends it, with a key of zeros. -/
def encoded (frame : Frame) : Bytes := mask (frameEncoder frame) fun _ => 0

/-- A Close. -/
def closeFrame : Frame := ⟨true, .close, []⟩

/-- A Ping. -/
def clientPing : Frame := ⟨true, .ping, []⟩

/-- An empty JSON object. -/
def objectText : Bytes := utf8 "\x7b\x7d"

/-- A Text of an empty JSON object. -/
def objectFrame : Frame := ⟨true, .text, objectText⟩

/-- The Close, the Ping and the Text, each in one `recv`. -/
def closeChunk : Chunk := ⟨encoded closeFrame, by decide, by decide⟩
def pingChunk : Chunk := ⟨encoded clientPing, by decide, by decide⟩
def objectChunk : Chunk := ⟨encoded objectFrame, by decide, by decide⟩

/-- A Text that is neither JSON nor UTF-8, and the other Text behind it in the same `recv`. -/
def strayFrame : Frame := ⟨true, .text, [0xff]⟩
def strayChunk : Chunk := ⟨encoded strayFrame ++ encoded objectFrame, by decide, by decide⟩

/-- The parser, as far as these texts go. -/
def objectParser : JsonParser := ⟨fun text => if text = objectText then some (.object []) else none⟩

/-- No response can be dumped. -/
def noWriter : JsonWriter := ⟨fun _ => none⟩

/-- A readable event of the socket. -/
def arrival (recvs : List Recv) : WorkerInput :=
  .socket 7 ⟨false, false, true, false, false⟩ ⟨recvs, true, []⟩ ⟨[], true⟩

/-- The worker with the session. -/
def registered : WebsocketWorker := WebsocketWorker.start.step objectParser noWriter registration

/-- The session as it is then. -/
def openSession : WebSocketSession := ⟨1, 1, 2, ⟨[], []⟩, 0, 0, false, false⟩

theorem sessions_registered : registered.sessions 7 = some openSession := rfl

theorem deadlines_registered : registered.deadlines 7 = none := rfl

theorem reaches_registered {condition : WebsocketWorker → WorkerInput → Prop}
    (hregistration : condition .start registration) :
    registered.Reaches objectParser noWriter condition :=
  .step .start (fun _ h => by cases h) hregistration

/-- The worker after the Close of the session. -/
def afterClose : WebsocketWorker :=
  registered.step objectParser noWriter (arrival [.data closeChunk 0 0])

theorem reaches_afterClose {condition : WebsocketWorker → WorkerInput → Prop}
    (hregistration : condition .start registration)
    (harrival : condition registered (arrival [.data closeChunk 0 0])) :
    afterClose.Reaches objectParser noWriter condition :=
  (reaches_registered hregistration).step trivial harrival

/-- The worker after a Text that follows. -/
def afterCloseAndText : WebsocketWorker :=
  afterClose.step objectParser noWriter (arrival [.data objectChunk 0 0])

/-- The worker after a Ping that follows instead. -/
def afterCloseAndPing : WebsocketWorker :=
  afterClose.step objectParser noWriter (arrival [.data pingChunk 0 0])

/-- The session waits for its Close reply to be sent. -/
def closingSession : WebSocketSession := ⟨1, 1, 2, ⟨[], frameEncoder closeFrame⟩, 0, 0, false, true⟩

theorem sessions_afterClose : afterClose.sessions 7 = some closingSession := by decide +kernel

theorem closing_afterClose : afterClose.closing 7 = true := by decide +kernel

theorem deadlines_afterClose : afterClose.deadlines 7 = none := by decide +kernel

end Sample

end ChatBackend
