import ChatBackend.Websocket.Business

/-!
# The output of a session

Six places of the program write to the output buffer of a session: the answers to a Ping and to a
Close, the heartbeat, replies, pushes, and the Close of a revocation. What they write, one after the
other, are whole frames; what was sent and what is still in the buffer make up these frames.

A Close should be the last of them. Replies, pushes and revocations see to that, as they look at
`closing_sessions_`. The handler and the heartbeat do not, and a session whose Close has been
answered is not even in `closing_sessions_` if an exception has ended the event before.

Whether a Close has been written is what `closeWritten` of the session says.

## Main definitions

* `framesOf`, `sentBytes` — what was written to a session, and what was sent
* `CloseIsLast`
* `RespectsClose` — what a step must not do for that

## Main results

* `close_is_last`
-/

namespace ChatBackend

open WebsocketWorker (ReadableInputs answers)

variable {parser : JsonParser} {writer : JsonWriter} {allowed : Entry → Stimulus → Prop}

/-! ### Whole frames -/

/-- The frames that were written, in order. -/
def framesOf (events : List WorkerEvent) : List Frame :=
  events.filterMap fun
    | .appended _ _ frame => some frame
    | _ => none

/-- The bytes that were sent, in order. -/
def sentBytes (events : List WorkerEvent) : Bytes :=
  events.flatMap fun
    | .sent _ bytes => bytes
    | _ => []

@[simp] theorem framesOf_append (events more : List WorkerEvent) :
    framesOf (events ++ more) = framesOf events ++ framesOf more :=
  List.filterMap_append

@[simp] theorem sentBytes_append (events more : List WorkerEvent) :
    sentBytes (events ++ more) = sentBytes events ++ sentBytes more :=
  List.flatMap_append

theorem framesOf_answers (who : Identity) (handled : List Frame) :
    framesOf (answers who handled) = handled.filterMap Frame.answer := by
  rw [framesOf, answers, List.filterMap_filterMap]
  congr
  funext frame
  cases frame.answer <;> rfl

theorem framesOf_readEvents (entry : Entry) (io : ReadableInputs) :
    framesOf (entry.readEvents parser io) =
      (entry.reading io).handled.filterMap Frame.answer := by
  have hrequests : framesOf ((entry.dispatching parser io).1.map .dispatched) = [] := by
    rw [framesOf, List.filterMap_eq_nil_iff]
    intro event hevent
    obtain ⟨_, -, rfl⟩ := List.mem_map.1 hevent
    rfl
  rw [Entry.readEvents, framesOf_append, framesOf_answers, hrequests, List.append_nil]

theorem sentBytes_answers (who : Identity) (handled : List Frame) :
    sentBytes (answers who handled) = [] := by
  rw [sentBytes, List.flatMap_eq_nil_iff]
  intro event hevent
  obtain ⟨_, -, _, -, rfl⟩ := mem_answers.1 hevent
  rfl

theorem sentBytes_readEvents (entry : Entry) (io : ReadableInputs) :
    sentBytes (entry.readEvents parser io) = [] := by
  have hrequests : sentBytes ((entry.dispatching parser io).1.map .dispatched) = [] := by
    rw [sentBytes, List.flatMap_eq_nil_iff]
    intro event hevent
    obtain ⟨_, -, rfl⟩ := List.mem_map.1 hevent
    rfl
  rw [Entry.readEvents, sentBytes_append, sentBytes_answers, hrequests, List.append_nil]

/-- The bytes of the frames that were written. -/
def writtenBytes (events : List WorkerEvent) : Bytes := (framesOf events).flatMap frameEncoder

@[simp] theorem writtenBytes_append (events more : List WorkerEvent) :
    writtenBytes (events ++ more) = writtenBytes events ++ writtenBytes more := by
  rw [writtenBytes, framesOf_append, List.flatMap_append]
  rfl

/-- The output buffer after a reading. -/
theorem output_reading (entry : Entry) (io : ReadableInputs) :
    (entry.reading io).session.connection.outputBuffer =
      entry.session.connection.outputBuffer ++ writtenBytes (entry.readEvents parser io) := by
  rw [writtenBytes, framesOf_readEvents]
  exact (reading_handleReadable entry.session io.recvs).output

/-- **A move neither loses nor invents output**: what was in the buffer and what is written is what
is sent and what is in the buffer then. -/
theorem Move.conserves {entry : Entry} {stimulus : Stimulus} {events : List WorkerEvent}
    {result : Option Entry} (h : Move parser entry stimulus events result) :
    (∀ entry' ∈ result, sentBytes events ++ entry'.session.connection.outputBuffer =
      entry.session.connection.outputBuffer ++ writtenBytes events) ∧
    sentBytes events <+: entry.session.connection.outputBuffer ++ writtenBytes events := by
  have hlast (events : List WorkerEvent) (cause : Cause) (hnone : sentBytes events = []) :
      sentBytes (events ++ [.removed entry.who.id cause]) <+:
        entry.session.connection.outputBuffer ++
          writtenBytes (events ++ [.removed entry.who.id cause]) := by
    rw [sentBytes_append, hnone]
    exact List.nil_prefix
  cases h with
  | unarmedReading => exact ⟨by simp, hlast _ _ (sentBytes_answers _ _)⟩
  | threw | read =>
    constructor
    · rintro _ ⟨⟩
      rw [sentBytes_readEvents, List.nil_append]
      exact output_reading entry _
    · rw [sentBytes_readEvents]
      exact List.nil_prefix
  | readClosing =>
    constructor
    · rintro _ ⟨⟩
      have hnone : writtenBytes [.closing entry.who.id] = [] := rfl
      rw [sentBytes_append, sentBytes_readEvents, writtenBytes_append, hnone, List.append_nil]
      exact output_reading entry _
    · rw [sentBytes_append, sentBytes_readEvents]
      exact List.nil_prefix
  | readRemoved => exact ⟨by simp, hlast _ _ (sentBytes_readEvents _ _)⟩
  | sent hsent =>
    constructor
    · rintro _ ⟨⟩
      simp [sentBytes, writtenBytes, framesOf, hsent]
    · simp [sentBytes, writtenBytes, framesOf, hsent]
  | ping | message | revoke =>
    constructor
    · rintro _ ⟨⟩
      simp [sentBytes, writtenBytes, framesOf, Entry.write, WebSocketSession.markPingSent]
    · simp [sentBytes]
  | limit =>
    constructor
    · rintro _ ⟨⟩
      simp [sentBytes, writtenBytes, framesOf]
    · simp [sentBytes]
  | drained | sendFailed | unarmed | expired | unarmedRevoke | hangup | halfClosed | closeTask =>
    exact ⟨by simp, by simp [sentBytes]⟩

/-- **What was sent and what is in the buffer are the frames that were written.** -/
theorem Life.conserves {events : List WorkerEvent} {result : Option Entry}
    (h : Life parser allowed events result) :
    (∀ entry ∈ result, sentBytes events ++ entry.session.connection.outputBuffer =
      writtenBytes events) ∧ sentBytes events <+: writtenBytes events := by
  induction h with
  | registered entry _ _ hempty =>
    constructor
    · rintro _ ⟨⟩
      rw [hempty]
      rfl
    · exact List.nil_prefix
  | step h _ hmove ih =>
    obtain ⟨hbuffer, -⟩ := ih
    obtain ⟨hmoved, hsent⟩ := hmove.conserves
    have hold := hbuffer _ rfl
    constructor
    · intro entry' hentry'
      rw [sentBytes_append, List.append_assoc, hmoved entry' hentry', ← List.append_assoc, hold,
        writtenBytes_append]
    · rw [sentBytes_append, writtenBytes_append, ← hold, List.append_assoc]
      exact (List.prefix_append_right_inj _).2 hsent

/-! ### The last frame -/

/-- A Close is the last frame. -/
def CloseIsLast (frames : List Frame) : Prop :=
  ∀ before frame after, frames = before ++ frame :: after → frame.opcode = .close → after = []

theorem closeIsLast_of_forall {frames : List Frame}
    (h : ∀ frame ∈ frames, frame.opcode ≠ .close) : CloseIsLast frames := by
  rintro before frame after rfl hclose
  exact absurd hclose (h frame (by simp))

theorem closeIsLast_append {frames more : List Frame} (h : ∀ frame ∈ frames, frame.opcode ≠ .close)
    (hmore : CloseIsLast more) : CloseIsLast (frames ++ more) := by
  intro before frame after heq hclose
  rcases List.append_eq_append_iff.1 heq with ⟨middle, rfl, htail⟩ | ⟨middle, rfl, htail⟩
  · exact hmore middle frame after htail hclose
  · cases middle with
    | nil => exact hmore [] frame after htail.symm hclose
    | cons other middle =>
      obtain ⟨rfl, -⟩ := List.cons.inj htail
      exact absurd hclose (h frame (by simp))

theorem closeIsLast_singleton (frame : Frame) : CloseIsLast [frame] := by
  intro before other after heq _
  cases before with
  | nil => exact (List.cons.inj heq).2.symm
  | cons _ before => simp at heq

/-- The reply to a frame is a Close exactly if the frame is. -/
theorem opcode_answer {frame reply : Frame} (h : frame.answer = some reply) :
    reply.opcode = .close ↔ frame.opcode = .close := by
  rw [Frame.answer] at h
  split at h
  · next hping =>
    obtain rfl := Option.some.inj h
    simp [hping]
  · next hclose =>
    obtain rfl := Option.some.inj h
    simp [hclose]
  · cases h

/-- The handler stops at a Close, so its reply is the last of the answers. -/
theorem closeIsLast_reading (entry : Entry) (io : ReadableInputs) :
    CloseIsLast ((entry.reading io).handled.filterMap Frame.answer) := by
  have hreading := reading_handleReadable entry.session io.recvs
  intro before reply after heq hclose
  obtain ⟨handled, rest, hhandled, -, hrest⟩ := List.filterMap_eq_append_iff.1 heq
  obtain ⟨skipped, frame, rest', hrest', -, hanswer, hafter⟩ := List.filterMap_eq_cons_iff.1 hrest
  have hstops : frame.stops = some .peerClosed := by
    rw [Frame.stops, (opcode_answer hanswer).1 hclose]
  have hsplit : (entry.reading io).handled = (handled ++ skipped) ++ frame :: rest' := by
    rw [hhandled, hrest', List.append_assoc]
  obtain ⟨rfl, -⟩ := hreading.stops_last hsplit hstops
  rw [← hafter]
  rfl

/-- If a Close is answered, the peer has closed and there is output for it. -/
theorem result_of_close {entry : Entry} {io : ReadableInputs} {reply : Frame}
    (h : reply ∈ (entry.reading io).handled.filterMap Frame.answer)
    (hclose : reply.opcode = .close) :
    (entry.reading io).result.status = .peerClosed ∧
      (entry.reading io).result.outputQueued = true ∧
        ∃ frame ∈ (entry.reading io).handled, frame.opcode = .close := by
  have hreading := reading_handleReadable entry.session io.recvs
  obtain ⟨frame, hframe, hanswer⟩ := List.mem_filterMap.1 h
  have hopcode := (opcode_answer hanswer).1 hclose
  have hstops : frame.stops = some .peerClosed := by rw [Frame.stops, hopcode]
  obtain ⟨before, after, hsplit⟩ := List.append_of_mem hframe
  refine ⟨(hreading.stops_last hsplit hstops).2, hreading.queued.2 ?_, frame, hframe, hopcode⟩
  exact List.ne_nil_of_mem h

/-- **What a step must not do, so that a Close is the last frame**: read a Ping or a Close of a
session that a Close has been written to, send such a session a Ping, or have an event end with an
exception in which a Close was read, unless the session is in `closing_sessions_` already. -/
def RespectsClose (parser : JsonParser) (w : WebsocketWorker) : WorkerInput → Prop
  | .socket fd flags input _ => (flags.err || flags.hup) = false → flags.readable = true →
      ∀ entry, w.entry fd = some entry → entry.deadline = none →
        (entry.session.closeWritten = true →
          ∀ frame ∈ (entry.reading input).handled, frame.answer = none) ∧
        ((∃ frame ∈ (entry.reading input).handled, frame.opcode = .close) → input.modOk = true →
          (entry.dispatching parser input).2 = true → entry.closing = true)
  | .timer now _ _ => ∀ fd entry, w.entry fd = some entry → w.timerVerdict now fd = some .ping →
      entry.session.closeWritten = false
  | _ => True

/-- The moves of a session that respects its Close. -/
def RespectfulMove (parser : JsonParser) (entry : Entry) : Stimulus → Prop
  | .readable io => entry.deadline = none →
      (entry.session.closeWritten = true →
        ∀ frame ∈ (entry.reading io).handled, frame.answer = none) ∧
      ((∃ frame ∈ (entry.reading io).handled, frame.opcode = .close) → io.modOk = true →
        (entry.dispatching parser io).2 = true → entry.closing = true)
  | .ping _ => entry.session.closeWritten = false
  | _ => True

theorem permissive_respectfulMove : Permissive (RespectfulMove parser) :=
  ⟨fun _ => trivial, fun _ _ => trivial⟩

theorem permits_respectfulMove {w : WebsocketWorker} {input : WorkerInput}
    (h : RespectsClose parser w input) : w.Permits (RespectfulMove parser) input := by
  cases input with
  | socket fd flags input output => exact h
  | timer now order modOk =>
    exact fun fd entry hentry hping => ⟨h fd entry hentry hping, fun _ => trivial⟩
  | revocation scan userId deviceId order io => exact fun _ _ _ _ _ _ _ => trivial
  | register | reply | push | close => trivial

/-- After a reading a Close is written if it was before, or if one was read. -/
theorem closeWritten_reading (entry : Entry) (io : ReadableInputs) :
    (entry.reading io).session.closeWritten = true ↔ entry.session.closeWritten = true ∨
      ∃ reply ∈ (entry.reading io).handled.filterMap Frame.answer, reply.opcode = .close := by
  refine (reading_handleReadable entry.session io.recvs).closeWritten.trans
    (or_congr_right ⟨?_, ?_⟩)
  · rintro ⟨frame, hframe, hclose⟩
    have hanswer : frame.answer = some ⟨true, .close, frame.payload⟩ := by
      rw [Frame.answer, hclose]
    exact ⟨_, List.mem_filterMap.2 ⟨frame, hframe, hanswer⟩, rfl⟩
  · rintro ⟨reply, hreply, hclose⟩
    obtain ⟨frame, hframe, hanswer⟩ := List.mem_filterMap.1 hreply
    exact ⟨frame, hframe, (opcode_answer hanswer).1 hclose⟩

/-- **What a move writes** is noted: a Close has been written if it had been before, or if one is
among the frames of the move. -/
theorem Move.closeWritten {entry entry' : Entry} {stimulus : Stimulus} {events : List WorkerEvent}
    (h : Move parser entry stimulus events (some entry')) :
    entry'.session.closeWritten = true ↔ entry.session.closeWritten = true ∨
      ∃ frame ∈ framesOf events, frame.opcode = .close := by
  cases h with
  | threw | read =>
    rw [framesOf_readEvents]
    exact closeWritten_reading entry _
  | readClosing =>
    rw [framesOf_append, framesOf_readEvents]
    exact (closeWritten_reading entry _).trans (by simp [framesOf])
  | sent | ping | message | revoke | limit =>
    simp [framesOf, Entry.write, WebSocketSession.write, WebSocketSession.markPingSent, pingFrame,
      textFrame, revokedFrame]

/-- **One move**: nothing is written after a Close; and a Close that is written is the last frame of
the move, which puts the session in `closing_sessions_` or removes it. -/
theorem Move.respects {entry : Entry} {stimulus : Stimulus} {events : List WorkerEvent}
    {result : Option Entry} (h : Move parser entry stimulus events result)
    (hallowed : RespectfulMove parser entry stimulus)
    (hclosing : entry.session.closeWritten = true → entry.closing = true) :
    (entry.session.closeWritten = true → framesOf events = []) ∧ CloseIsLast (framesOf events) ∧
      ((∃ frame ∈ framesOf events, frame.opcode = .close) →
        ∀ entry' ∈ result, entry'.closing = true) := by
  -- The answers of a reading.
  have hread {io : ReadableInputs} (hdeadline : entry.deadline = none)
      (hallowed : RespectfulMove parser entry (.readable io)) : entry.session.closeWritten = true →
        (entry.reading io).handled.filterMap Frame.answer = [] :=
    fun hwritten => List.filterMap_eq_nil_iff.2 ((hallowed hdeadline).1 hwritten)
  -- Those that look at `closing_sessions_` write nothing after a Close.
  have hnothing (hopen : entry.closing = false) (events : List WorkerEvent) :
      entry.session.closeWritten = true → framesOf events = [] := by
    intro hwritten
    rw [hclosing hwritten] at hopen
    cases hopen
  cases h with
  | @unarmedReading io hdeadline =>
    have hframes : framesOf (answers entry.who (entry.reading io).handled ++
        [.removed entry.who.id .epollFailed]) = (entry.reading io).handled.filterMap Frame.answer := by
      rw [framesOf_append, framesOf_answers]
      exact List.append_nil _
    rw [hframes]
    exact ⟨hread hdeadline hallowed, closeIsLast_reading entry _, by simp⟩
  | threw hdeadline hmod hthrew =>
    rw [framesOf_readEvents]
    refine ⟨hread hdeadline hallowed, closeIsLast_reading entry _, ?_⟩
    rintro ⟨reply, hreply, hclose⟩ _ ⟨⟩
    obtain ⟨-, hqueued, hexists⟩ := result_of_close hreply hclose
    exact (hallowed hdeadline).2 hexists (hmod hqueued) hthrew
  | read hdeadline hmod hthrew hstatus =>
    rw [framesOf_readEvents]
    refine ⟨hread hdeadline hallowed, closeIsLast_reading entry _, ?_⟩
    rintro ⟨reply, hreply, hclose⟩
    rw [(result_of_close hreply hclose).1] at hstatus
    rcases hstatus with hstatus | hstatus <;> cases hstatus
  | @readClosing io hdeadline =>
    have hframes : framesOf (entry.readEvents parser io ++ [.closing entry.who.id]) =
        (entry.reading io).handled.filterMap Frame.answer := by
      rw [framesOf_append, framesOf_readEvents]
      exact List.append_nil _
    rw [hframes]
    refine ⟨hread hdeadline hallowed, closeIsLast_reading entry _, ?_⟩
    rintro - _ ⟨⟩
    rfl
  | @readRemoved io cause hdeadline =>
    have hframes : framesOf (entry.readEvents parser io ++ [.removed entry.who.id cause]) =
        (entry.reading io).handled.filterMap Frame.answer := by
      rw [framesOf_append, framesOf_readEvents]
      exact List.append_nil _
    rw [hframes]
    exact ⟨hread hdeadline hallowed, closeIsLast_reading entry _, by simp⟩
  | ping =>
    refine ⟨fun hwritten => ?_, closeIsLast_singleton _, ?_⟩
    · rw [hallowed] at hwritten
      cases hwritten
    · simp [framesOf, pingFrame]
  | message text hopen =>
    exact ⟨hnothing hopen _, closeIsLast_singleton _, by simp [framesOf, textFrame]⟩
  | revoke _ hopen | unarmedRevoke hopen =>
    exact ⟨hnothing hopen _, closeIsLast_singleton _, by simp⟩
  | limit | sent | drained | sendFailed | unarmed | expired | hangup | halfClosed | closeTask =>
    exact ⟨fun _ => rfl, closeIsLast_of_forall (by simp [framesOf]), by simp [framesOf]⟩

/-- A session keeps in mind whether a Close has been written to it. -/
theorem Life.closeWritten {events : List WorkerEvent} {entry : Entry}
    (h : Life parser allowed events (some entry)) :
    entry.session.closeWritten = true ↔ ∃ frame ∈ framesOf events, frame.opcode = .close := by
  generalize hresult : some entry = result at h
  induction h generalizing entry with
  | registered _ _ _ _ hunwritten =>
    obtain rfl := Option.some.inj hresult
    simp [framesOf, hunwritten]
  | step _ _ hmove ih =>
    rw [← hresult] at hmove
    rw [hmove.closeWritten, ih rfl, framesOf_append]
    simp only [List.mem_append, or_and_right, exists_or]

/-- **A life** whose moves respect the Close. -/
theorem Life.respects {events : List WorkerEvent} {result : Option Entry}
    (h : Life parser (RespectfulMove parser) events result) :
    CloseIsLast (framesOf events) ∧ ((∃ frame ∈ framesOf events, frame.opcode = .close) →
      ∀ entry ∈ result, entry.closing = true) := by
  induction h with
  | registered entry => exact ⟨closeIsLast_of_forall (by simp [framesOf]), by simp [framesOf]⟩
  | @step events more entry result stimulus h hallowed hmove ih =>
    obtain ⟨hlast, hclosed⟩ := ih
    have hwritten := h.closeWritten
    obtain ⟨hnothing, hmore, hmoved⟩ :=
      hmove.respects hallowed fun hwritten' => hclosed (hwritten.1 hwritten') entry rfl
    rw [framesOf_append]
    by_cases hafter : entry.session.closeWritten = true
    · rw [hnothing hafter, List.append_nil]
      refine ⟨hlast, fun hclose entry' hentry' => ?_⟩
      obtain rfl : result = some entry' := hentry'
      exact hmove.closing_iff.2 (.inl (hclosed hclose entry rfl))
    · have hopen : ∀ frame ∈ framesOf events, frame.opcode ≠ .close := fun frame hframe hclose =>
        hafter (hwritten.2 ⟨frame, hframe, hclose⟩)
      refine ⟨closeIsLast_append hopen hmore, ?_⟩
      rintro ⟨frame, hframe, hclose⟩
      rcases List.mem_append.1 hframe with hframe | hframe
      · exact absurd hclose (hopen frame hframe)
      · exact hmoved ⟨frame, hframe, hclose⟩

/-! ### In a worker -/

/-- **Whole frames, and a Close is the last of them.** In any run, what was written to a session is a
sequence of whole frames: what was sent of it is a beginning of them, and what is in the buffer is
the rest. In a run in which no step reads a Ping or a Close of a session that a Close has been
written to, sends such a session a Ping, or ends the event that brings a Close with an exception, a
Close is the last of these frames. -/
theorem close_is_last (parser : JsonParser) (writer : JsonWriter) (w : WebsocketWorker) :
    (w.Reaches parser writer (fun _ _ => True) →
      (∀ id, sentBytes (history id w.log) <+:
        (framesOf (history id w.log)).flatMap frameEncoder) ∧
      ∀ fd session, w.sessions fd = some session →
        sentBytes (history session.id w.log) ++ session.connection.outputBuffer =
          (framesOf (history session.id w.log)).flatMap frameEncoder) ∧
    (w.Reaches parser writer (RespectsClose parser) →
      ∀ id, CloseIsLast (framesOf (history id w.log))) := by
  constructor
  · intro hw
    have hrefines := refines_of_reaches_any hw
    constructor
    · exact hrefines.of_life (P := fun events => sentBytes events <+: writtenBytes events)
        List.nil_prefix fun hlife => hlife.conserves.2
    · intro fd session hsession
      have hlife := hrefines.present fd _ (WebsocketWorker.entry_of_session hsession)
      exact hlife.conserves.1 _ rfl
  · intro hw
    have hrefines : Refines parser (RespectfulMove parser) w :=
      refines_of_reaches permissive_respectfulMove (fun _ _ _ _ => permits_respectfulMove) hw
    exact hrefines.of_life (P := fun events => CloseIsLast (framesOf events))
      (closeIsLast_of_forall (by simp [framesOf])) fun hlife => hlife.respects.1

/-- The session of device 2 sends its Close and then a Text; nothing is written behind the Close. -/
theorem close_is_last_text :
    (∃ frame ∈ framesOf (history 1 Sample.afterCloseAndText.log), frame.opcode = .close) ∧
      ∀ id, CloseIsLast (framesOf (history id Sample.afterCloseAndText.log)) := by
  have hopen : ∀ entry ∈ Sample.registered.entry 7, entry.session.closeWritten = false ∧
      (entry.dispatching Sample.objectParser ⟨[.data Sample.closeChunk 0 0], true, []⟩).2 = false := by
    decide +kernel
  have hanswers : ∀ entry ∈ Sample.afterClose.entry 7,
      ∀ frame ∈ (entry.reading ⟨[.data Sample.objectChunk 0 0], true, []⟩).handled,
        frame.answer = none ∧ frame.opcode ≠ .close := by decide +kernel
  have hbefore : Sample.afterClose.Reaches Sample.objectParser Sample.noWriter
      (RespectsClose Sample.objectParser) := by
    refine Sample.reaches_afterClose trivial fun _ _ entry hentry _ => ?_
    obtain ⟨hunwritten, hcalm⟩ := hopen entry hentry
    refine ⟨fun hwritten => ?_, fun _ _ hthrew => ?_⟩
    · rw [hunwritten] at hwritten
      cases hwritten
    · rw [hcalm] at hthrew
      cases hthrew
  refine ⟨⟨Sample.closeFrame, by decide +kernel, rfl⟩,
    (close_is_last Sample.objectParser Sample.noWriter Sample.afterCloseAndText).2 ?_⟩
  refine hbefore.step trivial fun _ _ entry hentry _ => ?_
  refine ⟨fun _ frame hframe => (hanswers entry hentry frame hframe).1, fun hclose => ?_⟩
  obtain ⟨frame, hframe, hopcode⟩ := hclose
  exact absurd hopcode (hanswers entry hentry frame hframe).2

/-- The session of device 2 sends its Close and then a Ping; the Pong is written behind the Close. -/
theorem close_is_last_fails :
    Sample.afterCloseAndPing.Reaches Sample.objectParser Sample.noWriter (fun _ _ => True) ∧
      ¬ CloseIsLast (framesOf (history 1 Sample.afterCloseAndPing.log)) := by
  refine ⟨(Sample.reaches_afterClose trivial trivial).step trivial trivial, fun hlast => ?_⟩
  have hframes : framesOf (history 1 Sample.afterCloseAndPing.log) =
      [] ++ Sample.closeFrame :: [⟨true, .pong, []⟩] := by decide +kernel
  have hnil := hlast [] Sample.closeFrame [⟨true, .pong, []⟩] hframes rfl
  cases hnil

end ChatBackend
