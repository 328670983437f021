import ChatBackend.Websocket.Worker

/-!
# The life of a session

What can happen to one session, apart from all the others and from the maps that a worker keeps it
in: it is read from, answers, is given messages, is pinged, revoked, sends its output, and is removed
in the end. Every step of a worker does one thing or more to each of some sessions, and nothing to
the others; so what holds of every life holds of every session of a worker.

A life is made of `Move`s, each under a `Stimulus`. A property that the program does not have as it
stands is proved of the lives all of whose moves are allowed, and then of a worker all of whose steps
are.

## Main definitions

* `Entry`, `Stimulus`, `Move`, `Life`
* `history` — the events of one session

## Main results

* `WebsocketWorker.refines_of_reaches` — the sessions of a worker live such lives
-/

namespace ChatBackend

open Function (update)
open WebsocketWorker (ReadableInputs answers dispatchFrames)

/-! ### Moves -/

/-- The events of one session. -/
def history (id : ℕ) (log : List WorkerEvent) : List WorkerEvent :=
  log.filter fun event => event.id = id

@[simp] theorem history_append (id : ℕ) (log events : List WorkerEvent) :
    history id (log ++ events) = history id log ++ history id events :=
  List.filter_append log events

theorem mem_history {id : ℕ} {log : List WorkerEvent} {event : WorkerEvent} :
    event ∈ history id log ↔ event ∈ log ∧ event.id = id := by
  rw [history, List.mem_filter, decide_eq_true_iff]

theorem history_of_forall {id : ℕ} {events : List WorkerEvent} (h : ∀ event ∈ events, event.id = id) :
    history id events = events :=
  List.filter_eq_self.2 fun event hevent => decide_eq_true (h event hevent)

theorem history_of_forall_ne {id : ℕ} {events : List WorkerEvent}
    (h : ∀ event ∈ events, event.id ≠ id) : history id events = [] :=
  List.filter_eq_nil_iff.2 fun event hevent => by simpa using h event hevent

/-- A session with what the worker knows about it. -/
structure Entry where
  fd : Fd
  session : WebSocketSession
  closing : Bool
  deadline : Option SteadyTime

namespace Entry

/-- Whom the session belongs to. -/
def who (entry : Entry) : Identity := entry.session.identity

/-- A frame is written to the output buffer. -/
def write (entry : Entry) (frame : Frame) : Entry :=
  { entry with session := entry.session.write frame }

/-- What the handler makes of it. -/
def reading (entry : Entry) (io : ReadableInputs) : Progress :=
  handleReadable entry.session io.recvs

/-- What the dispatch loop makes of the messages: the requests, and whether it throws. -/
def dispatching (parser : JsonParser) (entry : Entry) (io : ReadableInputs) : List Request × Bool :=
  dispatchFrames parser (fun frame => ⟨entry.fd, entry.who, frame⟩) (entry.reading io).result.frames
    io.dispatchThrows

/-- The events of a reading up to the end of the dispatch loop. -/
def readEvents (parser : JsonParser) (entry : Entry) (io : ReadableInputs) : List WorkerEvent :=
  answers entry.who (entry.reading io).handled ++
    (entry.dispatching parser io).1.map .dispatched

theorem identity_reading (entry : Entry) (io : ReadableInputs) :
    (entry.reading io).session.identity = entry.who :=
  (reading_handleReadable entry.session io.recvs).identity

theorem id_readEvents {parser : JsonParser} (entry : Entry) (io : ReadableInputs) :
    ∀ event ∈ entry.readEvents parser io, event.id = entry.who.id := by
  intro event hevent
  rcases List.mem_append.1 hevent with hevent | hevent
  · exact WebsocketWorker.id_answers hevent
  · obtain ⟨request, hrequest, rfl⟩ := List.mem_map.1 hevent
    obtain ⟨frame, -, rfl⟩ := List.mem_map.1
      ((WebsocketWorker.dispatchFrames_isPrefix parser _ _ _).subset hrequest)
    rfl

/-- A reading only makes answers and requests. -/
theorem mem_readEvents {parser : JsonParser} {entry : Entry} {io : ReadableInputs}
    {event : WorkerEvent} (h : event ∈ entry.readEvents parser io) :
    event ∈ answers entry.who (entry.reading io).handled ∨
      ∃ request ∈ (entry.dispatching parser io).1, event = .dispatched request := by
  rcases List.mem_append.1 h with h | h
  · exact .inl h
  · obtain ⟨request, hrequest, rfl⟩ := List.mem_map.1 h
    exact .inr ⟨request, hrequest, rfl⟩

end Entry

/-- An answer is a Pong or a Close. -/
theorem mem_answers {who : Identity} {handled : List Frame} {event : WorkerEvent} :
    event ∈ answers who handled ↔ ∃ frame ∈ handled, ∃ reply, frame.answer = some reply ∧
      event = .appended who (if frame.opcode = .close then .closeReply else .pong) reply := by
  rw [answers, List.mem_filterMap]
  refine exists_congr fun frame => and_congr_right fun _ => ?_
  rw [Option.map_eq_some_iff]
  exact exists_congr fun reply => and_congr_right fun _ => eq_comm

/-- The reason for which a result removes the session at once. -/
def WebSocketHandleResult.removal (result : WebSocketHandleResult) : Option Cause :=
  match result.status with
  | .messagesReady | .needMoreData => none
  | .peerClosed => if result.outputQueued then none else some .peerClosed
  | .protocolError => some .protocolError
  | .ioError => some .recvFailed

/-- The writer may write to this session: a reply is one to its own request, and a push is one for
this very session. -/
def Writer.Serves (who : Identity) : Writer → Prop
  | .reply request => request.who.id = who.id
  | .push task => task.sessionId = who.id ∧ task.deviceId = who.deviceId
  | _ => False

/-- What moves are distinguished by where not all of them are allowed. -/
inductive Stimulus where
  /-- A readable event. -/
  | readable (io : ReadableInputs)
  /-- A Ping of the heartbeat. -/
  | ping (now : SteadyTime)
  /-- `epoll_ctl` fails. -/
  | unarmed
  | other

/-- **What can happen to a session**: the events, and what becomes of it, unless it is removed. -/
inductive Move (parser : JsonParser) (entry : Entry) :
    Stimulus → List WorkerEvent → Option Entry → Prop where
  /-- The session answers, but then `epoll_ctl` fails. -/
  | unarmedReading {io : ReadableInputs} (hdeadline : entry.deadline = none)
      (hqueued : (entry.reading io).result.outputQueued = true) (hmod : io.modOk = false) :
      Move parser entry (.readable io)
        (answers entry.who (entry.reading io).handled ++ [.removed entry.who.id .epollFailed]) none
  /-- The dispatch loop ends with an exception. -/
  | threw {io : ReadableInputs} (hdeadline : entry.deadline = none)
      (hmod : (entry.reading io).result.outputQueued = true → io.modOk = true)
      (hthrew : (entry.dispatching parser io).2 = true) :
      Move parser entry (.readable io) (entry.readEvents parser io)
        (some { entry with session := (entry.reading io).session })
  | read {io : ReadableInputs} (hdeadline : entry.deadline = none)
      (hmod : (entry.reading io).result.outputQueued = true → io.modOk = true)
      (hthrew : (entry.dispatching parser io).2 = false)
      (hstatus : (entry.reading io).result.status = .messagesReady ∨
        (entry.reading io).result.status = .needMoreData) :
      Move parser entry (.readable io) (entry.readEvents parser io)
        (some { entry with session := (entry.reading io).session })
  /-- The peer has closed, but there is output for it. -/
  | readClosing {io : ReadableInputs} (hdeadline : entry.deadline = none)
      (hmod : (entry.reading io).result.outputQueued = true → io.modOk = true)
      (hthrew : (entry.dispatching parser io).2 = false)
      (hstatus : (entry.reading io).result.status = .peerClosed)
      (hqueued : (entry.reading io).result.outputQueued = true) :
      Move parser entry (.readable io) (entry.readEvents parser io ++ [.closing entry.who.id])
        (some { entry with session := (entry.reading io).session, closing := true })
  /-- The peer has closed, the stream is malformed, or `recv` failed. -/
  | readRemoved {io : ReadableInputs} {cause : Cause} (hdeadline : entry.deadline = none)
      (hmod : (entry.reading io).result.outputQueued = true → io.modOk = true)
      (hthrew : (entry.dispatching parser io).2 = false)
      (hcause : (entry.reading io).result.removal = some cause) :
      Move parser entry (.readable io) (entry.readEvents parser io ++ [.removed entry.who.id cause])
        none
  | sent {bytes : Bytes} {connection : Connection}
      (hsent : entry.session.connection.outputBuffer = bytes ++ connection.outputBuffer) :
      Move parser entry .other [.sent entry.who.id bytes]
        (some { entry with session := { entry.session with connection := connection } })
  | drained (hclosing : entry.closing = true)
      (hempty : entry.session.connection.outputBuffer = []) :
      Move parser entry .other [.removed entry.who.id .drained] none
  | sendFailed : Move parser entry .other [.removed entry.who.id .sendFailed] none
  /-- `epoll_ctl` fails for a session that no revocation has come to. -/
  | unarmed (hopen : entry.closing = false ∨ entry.deadline = none) :
      Move parser entry .unarmed [.removed entry.who.id .epollFailed] none
  | ping {now : SteadyTime} (hdeadline : entry.deadline = none) :
      Move parser entry (.ping now) [.appended entry.who .ping pingFrame]
        (some { entry with session := (entry.session.write pingFrame).markPingSent now })
  | expired {cause : Cause} (hcause : cause = .pongTimeout ∨ cause = .revokeTimeout) :
      Move parser entry .other [.removed entry.who.id cause] none
  | message {writer : Writer} (text : Bytes) (hopen : entry.closing = false)
      (hserves : writer.Serves entry.who) :
      Move parser entry .other [.appended entry.who writer (textFrame text)]
        (some (entry.write (textFrame text)))
  | revoke (deadline : SteadyTime) (hopen : entry.closing = false) :
      Move parser entry .other
        [.closing entry.who.id, .appended entry.who .revocation revokedFrame]
        (some { entry.write revokedFrame with closing := true, deadline := some deadline })
  | unarmedRevoke (hopen : entry.closing = false) :
      Move parser entry .other
        [.closing entry.who.id, .appended entry.who .revocation revokedFrame,
          .removed entry.who.id .epollFailed] none
  /-- A session that is closing anyway is revoked. -/
  | limit (deadline : SteadyTime) (hclosing : entry.closing = true) :
      Move parser entry .other [] (some { entry with deadline := some deadline })
  | hangup : Move parser entry .other [.removed entry.who.id .hangup] none
  | halfClosed (hopen : entry.closing = false) :
      Move parser entry .other [.removed entry.who.id .halfClosed] none
  | closeTask (hopen : entry.closing = false) :
      Move parser entry .other [.removed entry.who.id .closeTask] none

/-- Several moves. -/
inductive Moves (parser : JsonParser) (allowed : Entry → Stimulus → Prop) :
    Option Entry → List WorkerEvent → Option Entry → Prop where
  | refl (entry : Option Entry) : Moves parser allowed entry [] entry
  | step {start : Option Entry} {events more : List WorkerEvent} {entry : Entry}
      {result : Option Entry} {stimulus : Stimulus} (h : Moves parser allowed start events entry)
      (hallowed : allowed entry stimulus) (hmove : Move parser entry stimulus more result) :
      Moves parser allowed start (events ++ more) result

/-- **A life**: a session is registered, and then it moves. -/
inductive Life (parser : JsonParser) (allowed : Entry → Stimulus → Prop) :
    List WorkerEvent → Option Entry → Prop where
  | registered (entry : Entry) (hopen : entry.closing = false) (hdeadline : entry.deadline = none)
      (hempty : entry.session.connection.outputBuffer = [])
      (hunwritten : entry.session.closeWritten = false) :
      Life parser allowed [.registered entry.fd entry.who] (some entry)
  | step {events more : List WorkerEvent} {entry : Entry} {result : Option Entry}
      {stimulus : Stimulus} (h : Life parser allowed events (some entry))
      (hallowed : allowed entry stimulus) (hmove : Move parser entry stimulus more result) :
      Life parser allowed (events ++ more) result

variable {parser : JsonParser} {allowed : Entry → Stimulus → Prop}

theorem Moves.single {entry : Entry} {stimulus : Stimulus} {events : List WorkerEvent}
    {result : Option Entry} (hallowed : allowed entry stimulus)
    (hmove : Move parser entry stimulus events result) :
    Moves parser allowed (some entry) events result :=
  (Moves.refl (some entry)).step hallowed hmove

theorem Moves.trans {first second third : Option Entry} {events more : List WorkerEvent}
    (h : Moves parser allowed first events second) (h' : Moves parser allowed second more third) :
    Moves parser allowed first (events ++ more) third := by
  induction h' with
  | refl => rwa [List.append_nil]
  | step h' hallowed hmove ih =>
    rw [← List.append_assoc]
    exact ih.step hallowed hmove

theorem Life.moves {events more : List WorkerEvent} {entry : Entry} {result : Option Entry}
    (h : Life parser allowed events (some entry))
    (hmoves : Moves parser allowed (some entry) more result) :
    Life parser allowed (events ++ more) result := by
  generalize hstart : some entry = start at hmoves
  induction hmoves generalizing entry with
  | refl =>
    rw [List.append_nil, ← hstart]
    exact h
  | step _ hallowed hmove ih =>
    rw [← List.append_assoc]
    exact (ih h hstart).step hallowed hmove

theorem Life.ne_nil {events : List WorkerEvent} {result : Option Entry}
    (h : Life parser allowed events result) : events ≠ [] := by
  induction h with
  | registered => exact List.cons_ne_nil _ _
  | step _ _ _ ih => exact List.append_ne_nil_of_left_ne_nil ih _

/-- A move concerns the session that it is of, and leaves whom it belongs to. -/
theorem Move.concerns {entry : Entry} {stimulus : Stimulus} {events : List WorkerEvent}
    {result : Option Entry} (h : Move parser entry stimulus events result) :
    (∀ event ∈ events, event.id = entry.who.id) ∧
      ∀ entry' ∈ result, entry'.who = entry.who ∧ entry'.fd = entry.fd := by
  cases h with
  | unarmedReading =>
    refine ⟨fun event hevent => ?_, by simp⟩
    rcases List.mem_append.1 hevent with hevent | hevent
    · exact WebsocketWorker.id_answers hevent
    · rw [List.mem_singleton.1 hevent]
      rfl
  | threw | read =>
    refine ⟨entry.id_readEvents _, ?_⟩
    rintro _ ⟨⟩
    exact ⟨entry.identity_reading _, rfl⟩
  | readClosing =>
    refine ⟨fun event hevent => ?_, ?_⟩
    · rcases List.mem_append.1 hevent with hevent | hevent
      · exact entry.id_readEvents _ event hevent
      · rw [List.mem_singleton.1 hevent]
        rfl
    · rintro _ ⟨⟩
      exact ⟨entry.identity_reading _, rfl⟩
  | readRemoved =>
    refine ⟨fun event hevent => ?_, by simp⟩
    rcases List.mem_append.1 hevent with hevent | hevent
    · exact entry.id_readEvents _ event hevent
    · rw [List.mem_singleton.1 hevent]
      rfl
  | sent | ping | message | revoke | limit =>
    refine ⟨by simp [WorkerEvent.id], ?_⟩
    rintro _ ⟨⟩
    exact ⟨rfl, rfl⟩
  | drained | sendFailed | unarmed | expired | unarmedRevoke | hangup | halfClosed | closeTask =>
    exact ⟨by simp [WorkerEvent.id], by simp⟩

end ChatBackend
