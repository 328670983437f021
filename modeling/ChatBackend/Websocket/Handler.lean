import ChatBackend.Domain
import ChatBackend.Websocket.Frame

/-!
# The message handler

A readable socket is read until `recv` has no more to give: `WebSocketMessageHandler::handleReadable`
over `Connection::read` and `FrameParse`. What `recv` and `send` answer is an input here, a list with
one entry for each call.

Messages are collected for the dispatcher. A Ping and a Close are answered at once, into the output
buffer; a Close, a fragment and a malformed frame end the reading.

## Main definitions

* `Connection`, `WebSocketSession`
* `handleReadable`

## Main results

* `Progress.Follows` — what reading does, in terms of the frames that were handled
* `handled_isPrefix` — the frames that were handled are the first ones of the stream
-/

namespace ChatBackend

open Streaming

/-! ### Connections and sessions -/

/-- An instant or a span of the steady clock, in nanoseconds. -/
abbrev SteadyTime := ℕ

/-- A number of seconds on that clock. -/
def seconds (count : ℕ) : SteadyTime := count * 1000000000

/-- The bytes of one `recv` into a buffer of 1024. -/
structure Chunk where
  bytes : Bytes
  ne_nil : bytes ≠ []
  length_le : bytes.length ≤ 1024

/-- The outcome of one `recv`. -/
inductive Recv where
  /-- Bytes, when they were read, and when the last Pong that they complete is handled, if any. -/
  | data (chunk : Chunk) (now pongAt : SteadyTime)
  | closed
  | interrupted
  | again
  | failed

/-- The outcome of one `send`; of the bytes it is given it accepts as many as `count`, if there are
as many. -/
inductive Send where
  | accepted (count : ℕ) (pos : 0 < count)
  | interrupted
  | again
  | failed

/-- The bytes that a series of `recv`s brings. -/
def receivedBytes : List Recv → Bytes
  | [] => []
  | .data chunk _ _ :: recvs => chunk.bytes ++ receivedBytes recvs
  | _ :: recvs => receivedBytes recvs

/-- `Connection`. -/
structure Connection where
  inputBuffer : Bytes
  outputBuffer : Bytes
  deriving DecidableEq

namespace Connection

/-- `write`. -/
def write (connection : Connection) (data : Bytes) : Connection :=
  { connection with outputBuffer := connection.outputBuffer ++ data }

/-- `consumeInput`. -/
def consumeInput (connection : Connection) (n : ℕ) : Connection :=
  if connection.inputBuffer.length ≤ n then { connection with inputBuffer := [] }
  else { connection with inputBuffer := connection.inputBuffer.drop n }

/-- `hasPendingOutput`. -/
def hasPendingOutput (connection : Connection) : Bool := connection.outputBuffer ≠ []

/-- What `flush` returns: the bytes that were sent, or which of its other two results. -/
inductive Flushed where
  | sent (bytes : Bytes)
  | again
  | failed
  deriving DecidableEq

/-- The loop of `flush`. -/
def sendLoop (connection : Connection) : List Send → Connection × Flushed
  | .interrupted :: sends => connection.sendLoop sends
  | .accepted count _ :: _ =>
    ({ connection with outputBuffer := connection.outputBuffer.drop count },
      .sent (connection.outputBuffer.take count))
  | .failed :: _ => (connection, .failed)
  | .again :: _ | [] => (connection, .again)

/-- `flush`. -/
def flush (connection : Connection) (sends : List Send) : Connection × Flushed :=
  if connection.outputBuffer = [] then (connection, .sent []) else connection.sendLoop sends

theorem consumeInput_inputBuffer (connection : Connection) (n : ℕ) :
    (connection.consumeInput n).inputBuffer = connection.inputBuffer.drop n := by
  rw [consumeInput]
  split
  · next h => rw [List.drop_eq_nil_of_le h]
  · rfl

@[simp] theorem consumeInput_outputBuffer (connection : Connection) (n : ℕ) :
    (connection.consumeInput n).outputBuffer = connection.outputBuffer := by
  rw [consumeInput]
  split <;> rfl

end Connection

/-- Whom a session belongs to. -/
structure Identity where
  id : ℕ
  userId : Uuid
  deviceId : Uuid
  deriving DecidableEq

/-- `WebSocketSession`; whether a Close has been written to it is a history variable. -/
structure WebSocketSession where
  id : ℕ
  userId : Uuid
  deviceId : Uuid
  connection : Connection
  lastActivity : SteadyTime
  pingSentAt : SteadyTime
  waitingForPong : Bool
  closeWritten : Bool
  deriving DecidableEq

namespace WebSocketSession

/-- `recordActivity`. -/
def recordActivity (session : WebSocketSession) (now : SteadyTime) : WebSocketSession :=
  { session with lastActivity := now }

/-- `handlePong`. -/
def handlePong (session : WebSocketSession) (now : SteadyTime) : WebSocketSession :=
  { session with waitingForPong := false, lastActivity := now }

/-- `shouldSendPing`. -/
def shouldSendPing (session : WebSocketSession) (now pingInterval : SteadyTime) : Bool :=
  session.waitingForPong = false && session.lastActivity + pingInterval < now

/-- `PongTimeout`. -/
def pongTimeout (session : WebSocketSession) (now pongTimeout : SteadyTime) : Bool :=
  session.waitingForPong && session.pingSentAt + pongTimeout ≤ now

/-- `markPingSent`. -/
def markPingSent (session : WebSocketSession) (now : SteadyTime) : WebSocketSession :=
  { session with waitingForPong := true, pingSentAt := now }

/-- Encode a frame and `write` it. -/
def write (session : WebSocketSession) (frame : Frame) : WebSocketSession :=
  { session with
    connection := session.connection.write (frameEncoder frame)
    closeWritten := session.closeWritten || frame.opcode = .close }

/-- The bytes that one `recv` appends to the input buffer. -/
def receive (session : WebSocketSession) (bytes : Bytes) : WebSocketSession :=
  { session with connection :=
      { session.connection with inputBuffer := session.connection.inputBuffer ++ bytes } }

/-- The input buffer without the bytes that were parsed. -/
def consume (session : WebSocketSession) (n : ℕ) : WebSocketSession :=
  { session with connection := session.connection.consumeInput n }

/-- Whom the session belongs to; nothing that happens to it changes that. -/
def identity (session : WebSocketSession) : Identity :=
  ⟨session.id, session.userId, session.deviceId⟩

@[simp] theorem id_identity (session : WebSocketSession) : session.identity.id = session.id := rfl

@[simp] theorem identity_write (session : WebSocketSession) (frame : Frame) :
    (session.write frame).identity = session.identity := rfl

@[simp] theorem identity_markPingSent (session : WebSocketSession) (now : SteadyTime) :
    (session.markPingSent now).identity = session.identity := rfl

@[simp] theorem outputBuffer_write (session : WebSocketSession) (frame : Frame) :
    (session.write frame).connection.outputBuffer =
      session.connection.outputBuffer ++ frameEncoder frame := rfl

end WebSocketSession

/-! ### The handler -/

/-- `WebSocketHandleStatus`. -/
inductive WebSocketHandleStatus where
  | messagesReady
  | needMoreData
  | peerClosed
  | protocolError
  | ioError
  deriving DecidableEq, Repr

/-- `WebSocketHandleResult`. -/
structure WebSocketHandleResult where
  status : WebSocketHandleStatus
  frames : List Frame
  outputQueued : Bool
  deriving DecidableEq

/-- The state of `handleReadable`: the session, the result so far and, as a history variable, the
frames that `handleFrame` was called with. -/
structure Progress where
  session : WebSocketSession
  result : WebSocketHandleResult
  handled : List Frame
  deriving DecidableEq

namespace Progress

/-- Nothing is read yet. -/
def start (session : WebSocketSession) : Progress := ⟨session, ⟨.needMoreData, [], false⟩, []⟩

/-- The result gets a status. -/
def stop (progress : Progress) (status : WebSocketHandleStatus) : Progress :=
  { progress with result := { progress.result with status := status } }

/-- A frame is written to the output buffer. -/
def queue (progress : Progress) (frame : Frame) : Progress :=
  { progress with
    session := progress.session.write frame
    result := { progress.result with outputQueued := true } }

end Progress

/-- A complete message. -/
def Frame.isMessage (frame : Frame) : Bool :=
  frame.fin && (frame.opcode = .text || frame.opcode = .binary)

/-- What a frame is answered with. -/
def Frame.answer (frame : Frame) : Option Frame :=
  match frame.opcode with
  | .ping => some ⟨true, .pong, frame.payload⟩
  | .close => some ⟨true, .close, frame.payload⟩
  | _ => none

/-- The status with which a frame ends the reading, if it does. -/
def Frame.stops (frame : Frame) : Option WebSocketHandleStatus :=
  match frame.opcode with
  | .text | .binary => if frame.fin then none else some .protocolError
  | .close => some .peerClosed
  | .continuation => some .protocolError
  | .ping | .pong => none

/-- `handleFrame`; the flag is its result. -/
def handleFrame (now : SteadyTime) (progress : Progress) (frame : Frame) : Progress × Bool :=
  let progress := { progress with handled := progress.handled ++ [frame] }
  match frame.opcode with
  | .text | .binary =>
    if frame.fin = false then (progress.stop .protocolError, false)
    else ({ progress with result := { progress.result with frames := progress.result.frames ++ [frame] } }, true)
  | .ping => (progress.queue ⟨true, .pong, frame.payload⟩, true)
  | .pong => ({ progress with session := progress.session.handlePong now }, true)
  | .close => ((progress.queue ⟨true, .close, frame.payload⟩).stop .peerClosed, false)
  | .continuation => (progress.stop .protocolError, false)

/-- The frames of one `FrameParse`, until one of them ends the reading. -/
def handleFrames (now : SteadyTime) (progress : Progress) : List Frame → Progress × Bool
  | [] => (progress, true)
  | frame :: frames =>
    match handleFrame now progress frame with
    | (progress, true) => handleFrames now progress frames
    | (progress, false) => (progress, false)

/-- The loop of `handleReadable`; the outcomes of `recv` that it leaves are there for the next
readable event. A socket without more outcomes has nothing to give for now. -/
def readLoop (progress : Progress) : List Recv → Progress × List Recv
  | .interrupted :: recvs => readLoop progress recvs
  | .closed :: recvs => (progress.stop .peerClosed, recvs)
  | .failed :: recvs => (progress.stop .ioError, recvs)
  | [] => (if progress.result.frames = [] then progress else progress.stop .messagesReady, [])
  | .again :: recvs => (if progress.result.frames = [] then progress else progress.stop .messagesReady, recvs)
  | .data chunk now pongAt :: recvs =>
    let session := (progress.session.receive chunk.bytes).recordActivity now
    let parsed := frameParse session.connection.inputBuffer
    let progress := { progress with session := session.consume parsed.consumed }
    if parsed.status = .error then (progress.stop .protocolError, recvs)
    else match handleFrames pongAt progress parsed.frames with
      | (progress, true) => readLoop progress recvs
      | (progress, false) => (progress, recvs)

/-- `WebSocketMessageHandler::handleReadable`. -/
def handleReadable (session : WebSocketSession) (recvs : List Recv) : Progress :=
  (readLoop (.start session) recvs).1

/-! ### What handling frames does -/

/-- The frames that are handled of those of one `FrameParse`. -/
def handledOf : List Frame → List Frame
  | [] => []
  | frame :: frames => if frame.stops = none then frame :: handledOf frames else [frame]

theorem handledOf_isPrefix (frames : List Frame) : handledOf frames <+: frames := by
  induction frames with
  | nil => exact List.prefix_rfl
  | cons frame frames ih =>
    rw [handledOf]
    split
    · exact (List.prefix_cons_inj frame).2 ih
    · exact ⟨frames, rfl⟩

/-- If none of them ended the reading, they are all of them. -/
theorem handledOf_eq_self {frames : List Frame}
    (h : ∀ frame ∈ handledOf frames, frame.stops = none) : handledOf frames = frames := by
  induction frames with
  | nil => rfl
  | cons frame frames ih =>
    rw [handledOf] at h ⊢
    split
    · next hstops =>
      rw [if_pos hstops] at h
      rw [ih fun other hother => h other (List.mem_cons_of_mem _ hother)]
    · next hstops =>
      rw [if_neg hstops] at h
      exact absurd (h frame List.mem_cons_self) hstops

/-- The frames that were handled account for the session and for the result. -/
structure Progress.Follows (session : WebSocketSession) (progress : Progress) : Prop where
  identity : progress.session.identity = session.identity
  frames : progress.result.frames = progress.handled.filter Frame.isMessage
  output : progress.session.connection.outputBuffer = session.connection.outputBuffer ++
    (progress.handled.filterMap Frame.answer).flatMap frameEncoder
  queued : progress.result.outputQueued = true ↔ progress.handled.filterMap Frame.answer ≠ []
  closeWritten : progress.session.closeWritten = true ↔
    session.closeWritten = true ∨ ∃ frame ∈ progress.handled, frame.opcode = .close

/-- Where reading stands as to frames that end it: none has been handled, or the last one is. -/
inductive Progress.Reached (progress : Progress) : Bool → Prop where
  | more (hnone : ∀ frame ∈ progress.handled, frame.stops = none) : progress.Reached true
  | stopped (before : List Frame) (last : Frame) (hhandled : progress.handled = before ++ [last])
      (hnone : ∀ frame ∈ before, frame.stops = none)
      (hlast : last.stops = some progress.result.status) : progress.Reached false

theorem Progress.follows_start (session : WebSocketSession) : (start session).Follows session where
  identity := rfl
  frames := rfl
  output := (List.append_nil _).symm
  queued := by simp [start]
  closeWritten := by simp [start]

theorem Progress.Follows.stop {session : WebSocketSession} {progress : Progress}
    (h : progress.Follows session) (status : WebSocketHandleStatus) :
    (progress.stop status).Follows session :=
  ⟨h.identity, h.frames, h.output, h.queued, h.closeWritten⟩

theorem Progress.Follows.withSession {session : WebSocketSession} {progress : Progress}
    (h : progress.Follows session) {session' : WebSocketSession}
    (hidentity : session'.identity = progress.session.identity)
    (houtput : session'.connection.outputBuffer = progress.session.connection.outputBuffer)
    (hclose : session'.closeWritten = progress.session.closeWritten) :
    Progress.Follows session { progress with session := session' } :=
  ⟨hidentity.trans h.identity, h.frames, houtput.trans h.output, h.queued,
    by rw [hclose, h.closeWritten]⟩

/-- What a frame does to the session: it is answered, or noted as a Pong. -/
def Frame.applyTo (frame : Frame) (now : SteadyTime) (session : WebSocketSession) :
    WebSocketSession :=
  match frame.answer with
  | some reply => session.write reply
  | none => if frame.opcode = .pong then session.handlePong now else session

/-- All that is different after a frame. -/
def Progress.after (progress : Progress) (now : SteadyTime) (frame : Frame) : Progress where
  session := frame.applyTo now progress.session
  result :=
    { status := frame.stops.getD progress.result.status
      frames := progress.result.frames ++ [frame].filter Frame.isMessage
      outputQueued := progress.result.outputQueued || frame.answer.isSome }
  handled := progress.handled ++ [frame]

/-- **Handling a frame**, all its effects at once. -/
theorem handleFrame_eq (now : SteadyTime) (progress : Progress) (frame : Frame) :
    handleFrame now progress frame = (progress.after now frame, frame.stops.isNone) := by
  obtain ⟨fin, opcode, payload⟩ := frame
  cases opcode <;> cases fin <;>
    simp [handleFrame, Progress.after, Frame.applyTo, Frame.stops, Frame.isMessage, Frame.answer,
      Progress.stop, Progress.queue]

theorem identity_applyTo (frame : Frame) (now : SteadyTime) (session : WebSocketSession) :
    (frame.applyTo now session).identity = session.identity := by
  rw [Frame.applyTo]
  split
  · rfl
  · split <;> rfl

theorem inputBuffer_applyTo (frame : Frame) (now : SteadyTime) (session : WebSocketSession) :
    (frame.applyTo now session).connection.inputBuffer = session.connection.inputBuffer := by
  rw [Frame.applyTo]
  split
  · rfl
  · split <;> rfl

theorem outputBuffer_applyTo (frame : Frame) (now : SteadyTime) (session : WebSocketSession) :
    (frame.applyTo now session).connection.outputBuffer = session.connection.outputBuffer ++
      ([frame].filterMap Frame.answer).flatMap frameEncoder := by
  rw [Frame.applyTo]
  rcases hanswer : frame.answer with _ | reply
  · simp only [hanswer, List.filterMap_cons_none, List.filterMap_nil, List.flatMap_nil,
      List.append_nil]
    split <;> rfl
  · simp [hanswer, WebSocketSession.write, Connection.write]

theorem closeWritten_applyTo (frame : Frame) (now : SteadyTime) (session : WebSocketSession) :
    (frame.applyTo now session).closeWritten = true ↔
      session.closeWritten = true ∨ frame.opcode = .close := by
  obtain ⟨fin, opcode, payload⟩ := frame
  cases opcode <;> simp [Frame.applyTo, Frame.answer, WebSocketSession.write,
    WebSocketSession.handlePong]

theorem Progress.Follows.after {session : WebSocketSession} {progress : Progress}
    (h : progress.Follows session) (now : SteadyTime) (frame : Frame) :
    (progress.after now frame).Follows session := by
  constructor
  · exact (identity_applyTo frame now progress.session).trans h.identity
  · simp only [Progress.after, List.filter_append, h.frames]
  · simp only [Progress.after]
    rw [List.filterMap_append, List.flatMap_append, ← List.append_assoc, ← h.output]
    exact outputBuffer_applyTo frame now progress.session
  · simp only [Progress.after, Bool.or_eq_true, h.queued, List.filterMap_append, ne_eq,
      List.append_eq_nil_iff, not_and_or]
    rcases hanswer : frame.answer with _ | reply <;> simp [hanswer]
  · simp only [Progress.after, closeWritten_applyTo, h.closeWritten, List.mem_append,
      List.mem_singleton, or_and_right, exists_or, exists_eq_left, or_assoc]

/-- **The loop over the frames of one `FrameParse`.** -/
theorem Progress.Follows.handleFrames {session : WebSocketSession} {progress : Progress}
    (h : progress.Follows session) (hnone : ∀ frame ∈ progress.handled, frame.stops = none)
    (now : SteadyTime) (frames : List Frame) :
    (handleFrames now progress frames).1.Follows session ∧
      (handleFrames now progress frames).1.Reached (handleFrames now progress frames).2 ∧
      (handleFrames now progress frames).1.handled = progress.handled ++ handledOf frames ∧
      (handleFrames now progress frames).1.session.connection.inputBuffer =
        progress.session.connection.inputBuffer ∧
      ((handleFrames now progress frames).2 = true →
        (handleFrames now progress frames).1.result.status = progress.result.status) := by
  induction frames generalizing progress with
  | nil => exact ⟨h, .more hnone, (List.append_nil _).symm, rfl, fun _ => rfl⟩
  | cons frame frames ih =>
    have hframe := h.after now frame
    rw [ChatBackend.handleFrames, handledOf, handleFrame_eq]
    rcases hstops : frame.stops with _ | status
    · have hnone' : ∀ other ∈ (progress.after now frame).handled, other.stops = none := by
        intro other hother
        rcases List.mem_append.1 hother with hother | hother
        · exact hnone other hother
        · rw [List.mem_singleton.1 hother, hstops]
      obtain ⟨hfollows, hreached, hhandled, hinput, hstatus⟩ := ih hframe hnone'
      simp only [Option.isNone_none, if_true]
      refine ⟨hfollows, hreached, ?_, hinput.trans (inputBuffer_applyTo _ _ _), fun htrue => ?_⟩
      · rw [hhandled, Progress.after, List.append_assoc, List.singleton_append]
      · rw [hstatus htrue, Progress.after, hstops, Option.getD_none]
    · have hlast : frame.stops = some (progress.after now frame).result.status := by
        rw [Progress.after, hstops, Option.getD_some]
      simp only [Option.isNone_some, reduceCtorEq, if_false]
      exact ⟨hframe, .stopped progress.handled frame rfl hnone hlast, rfl,
        inputBuffer_applyTo _ _ _, fun hfalse => by cases hfalse⟩

/-! ### What reading does -/

/-- Why reading ends: a frame ended it, or the stream is malformed, or `recv` had no more. -/
inductive Progress.Ending (progress : Progress) (malformed : Bool) (recvs : List Recv) : Prop where
  | stopped (h : progress.Reached false)
  | malformed (hnone : progress.Reached true) (hmalformed : malformed = true)
      (hstatus : progress.result.status = .protocolError)
  | closed (hnone : progress.Reached true) (hclosed : .closed ∈ recvs)
      (hstatus : progress.result.status = .peerClosed)
  | failed (hnone : progress.Reached true) (hfailed : .failed ∈ recvs)
      (hstatus : progress.result.status = .ioError)
  | again (hnone : progress.Reached true)
      (hstatus : progress.result.status =
        if progress.result.frames = [] then .needMoreData else .messagesReady)

theorem Progress.Ending.cons {progress : Progress} {malformed : Bool} {recvs : List Recv}
    (h : progress.Ending malformed recvs) (recv : Recv) :
    progress.Ending malformed (recv :: recvs) := by
  cases h with
  | stopped h => exact .stopped h
  | malformed hnone hmalformed hstatus => exact .malformed hnone hmalformed hstatus
  | closed hnone hclosed hstatus =>
    exact .closed hnone (List.mem_cons_of_mem _ hclosed) hstatus
  | failed hnone hfailed hstatus =>
    exact .failed hnone (List.mem_cons_of_mem _ hfailed) hstatus
  | again hnone hstatus => exact .again hnone hstatus

/-- **A reading**: what was handled accounts for what it leaves, is the beginning of what the peer
has sent, and there is a reason why it ended. -/
structure Progress.Reading (session : WebSocketSession) (recvs : List Recv) (progress : Progress) :
    Prop extends progress.Follows session where
  handled_isPrefix : progress.handled <+:
    (framing.parse (session.connection.inputBuffer ++ receivedBytes recvs)).items
  ending : progress.Ending
    (framing.parse (session.connection.inputBuffer ++ receivedBytes recvs)).malformed recvs

/-- When `recv` would block, messages that were collected are ready. -/
theorem Progress.Ending.ofAgain {progress : Progress}
    (hnone : ∀ frame ∈ progress.handled, frame.stops = none)
    (hstatus : progress.result.status = .needMoreData) (malformed : Bool) (recvs : List Recv) :
    Progress.Ending (if progress.result.frames = [] then progress else progress.stop .messagesReady)
      malformed recvs := by
  split
  · next hframes => exact .again (.more hnone) (by rw [if_pos hframes, hstatus])
  · next hframes => exact .again (.more hnone) (if_neg hframes).symm

/-- **The loop of `handleReadable`**, from any point on at which no frame has ended it. -/
theorem Progress.Follows.readLoop {session : WebSocketSession} {progress : Progress}
    (h : progress.Follows session) (hnone : ∀ frame ∈ progress.handled, frame.stops = none)
    (hstatus : progress.result.status = .needMoreData) (recvs : List Recv) :
    (readLoop progress recvs).1.Follows session ∧
      (∃ more, (readLoop progress recvs).1.handled = progress.handled ++ more ∧ more <+:
        (framing.parse (progress.session.connection.inputBuffer ++ receivedBytes recvs)).items) ∧
      (readLoop progress recvs).1.Ending
        (framing.parse (progress.session.connection.inputBuffer ++ receivedBytes recvs)).malformed
        recvs := by
  induction recvs generalizing progress with
  | nil =>
    rw [ChatBackend.readLoop]
    refine ⟨?_, ⟨[], ?_, List.nil_prefix⟩, .ofAgain hnone hstatus _ _⟩
    · split
      · exact h
      · exact h.stop _
    · rw [List.append_nil]
      split <;> rfl
  | cons recv recvs ih =>
    cases recv with
    | closed =>
      exact ⟨h.stop _, ⟨[], (List.append_nil _).symm, List.nil_prefix⟩,
        .closed (.more hnone) List.mem_cons_self rfl⟩
    | failed =>
      exact ⟨h.stop _, ⟨[], (List.append_nil _).symm, List.nil_prefix⟩,
        .failed (.more hnone) List.mem_cons_self rfl⟩
    | interrupted =>
      obtain ⟨hfollows, hmore, hending⟩ := ih h hnone hstatus
      exact ⟨hfollows, hmore, hending.cons _⟩
    | again =>
      rw [ChatBackend.readLoop]
      refine ⟨?_, ⟨[], ?_, List.nil_prefix⟩, .ofAgain hnone hstatus _ _⟩
      · split
        · exact h
        · exact h.stop _
      · rw [List.append_nil]
        split <;> rfl
    | data chunk now pongAt =>
      rw [ChatBackend.readLoop, receivedBytes, ← List.append_assoc]
      -- The buffer after this `recv`, what is parsed of it, and the session after that.
      generalize hbuffer : progress.session.connection.inputBuffer ++ chunk.bytes = buffer
      have hinput : ((progress.session.receive chunk.bytes).recordActivity now).connection.inputBuffer =
          buffer := hbuffer
      simp only [hinput, consumed_frameParse]
      generalize hsession : ((progress.session.receive chunk.bytes).recordActivity now).consume
        (framing.parse buffer).taken = session'
      have hrest : session'.connection.inputBuffer = buffer.drop (framing.parse buffer).taken := by
        rw [← hsession, WebSocketSession.consume, Connection.consumeInput_inputBuffer, hinput]
      have hfollows : Progress.Follows session { progress with session := session' } := by
        refine h.withSession ?_ ?_ ?_
        · rw [← hsession]
          rfl
        · rw [← hsession, WebSocketSession.consume, Connection.consumeInput_outputBuffer]
          rfl
        · rw [← hsession]
          rfl
      split
      · next herror =>
        have hmalformed := (status_frameParse buffer).1 herror
        refine ⟨hfollows.stop _, ⟨[], (List.append_nil _).symm, List.nil_prefix⟩,
          .malformed (.more hnone) ?_ rfl⟩
        rw [Framing.parse_append_of_malformed hmalformed, hmalformed]
      · next herror =>
        rw [status_frameParse, Bool.not_eq_true] at herror
        rw [frames_frameParse herror, Framing.parse_append herror (receivedBytes recvs)]
        obtain ⟨hfollows', hreached, hhandled, hinput', hstatus'⟩ :=
          hfollows.handleFrames hnone pongAt (framing.parse buffer).items
        split
        · next progress' hframes =>
          rw [hframes] at hfollows' hreached hhandled hinput' hstatus'
          cases hreached with
          | more hnone' =>
            obtain ⟨hfinal, ⟨more, hmore, hprefix⟩, hending⟩ :=
              ih hfollows' hnone' ((hstatus' rfl).trans hstatus)
            simp only at hhandled hinput'
            rw [hinput', hrest] at hprefix hending
            refine ⟨hfinal, ⟨(framing.parse buffer).items ++ more, ?_, ?_⟩, hending.cons _⟩
            · rw [hmore, hhandled, handledOf_eq_self, List.append_assoc]
              intro frame hframe
              rw [hhandled] at hnone'
              exact hnone' frame (List.mem_append_right _ hframe)
            · exact (List.prefix_append_right_inj _).2 hprefix
        · next progress' hframes =>
          rw [hframes] at hfollows' hreached hhandled
          exact ⟨hfollows', ⟨handledOf (framing.parse buffer).items, hhandled,
            (handledOf_isPrefix _).trans (List.prefix_append _ _)⟩, .stopped hreached⟩

/-- **What `handleReadable` does.** -/
theorem reading_handleReadable (session : WebSocketSession) (recvs : List Recv) :
    (handleReadable session recvs).Reading session recvs := by
  obtain ⟨hfollows, ⟨more, hhandled, hprefix⟩, hending⟩ :=
    (Progress.follows_start session).readLoop (by simp [Progress.start]) rfl recvs
  refine ⟨hfollows, ?_, hending⟩
  rw [handleReadable, hhandled]
  exact hprefix

namespace Progress.Reading

variable {session : WebSocketSession} {recvs : List Recv} {progress : Progress}

/-- A frame that ends the reading is the last one that is handled, and decides the status. -/
theorem stops_last (h : progress.Reading session recvs) {before after : List Frame} {frame : Frame}
    {status : WebSocketHandleStatus} (hhandled : progress.handled = before ++ frame :: after)
    (hstops : frame.stops = some status) : after = [] ∧ progress.result.status = status := by
  have hmem : frame ∈ progress.handled := by simp [hhandled]
  have hopen : ¬ progress.Reached true := by
    rintro ⟨hnone⟩
    rw [hnone frame hmem] at hstops
    cases hstops
  cases h.ending with
  | stopped hreached =>
    rcases hreached with _ | ⟨before', last, hhandled', hnone, hlast⟩
    rw [hhandled'] at hhandled
    rcases List.append_eq_append_iff.1 hhandled with ⟨middle, rfl, hsingle⟩ | ⟨middle, rfl, hcons⟩
    · cases middle with
      | nil =>
        obtain ⟨rfl, rfl⟩ := List.cons.inj hsingle
        exact ⟨rfl, Option.some.inj (hlast.symm.trans hstops)⟩
      | cons _ middle => simp at hsingle
    · cases middle with
      | nil =>
        obtain ⟨rfl, hnil⟩ := List.cons.inj hcons
        exact ⟨hnil, Option.some.inj (hlast.symm.trans hstops)⟩
      | cons other middle =>
        obtain ⟨rfl, -⟩ := List.cons.inj hcons
        rw [hnone frame (by simp)] at hstops
        cases hstops
  | malformed hnone => exact absurd hnone hopen
  | closed hnone => exact absurd hnone hopen
  | failed hnone => exact absurd hnone hopen
  | again hnone => exact absurd hnone hopen

end Progress.Reading

end ChatBackend
