import ChatBackend.Websocket.Output

/-!
# The Close reply

A peer that sends a Close gets a Close in reply, and its session is removed when that has been sent.
It may be removed sooner for a reason that lies with the connection: an error, a hangup, a timeout.

It may also be removed sooner for a reason of the worker's own. After a Close the socket is still
read, so if the peer closes its side of the connection, which it may do right after its Close, the
session is removed whatever is in its buffer; the check of `EPOLLRDHUP` sees to this case, but only
after the socket has been read.

## Main definitions

* `Cause.excused` — the reasons that lie with the connection
* `CloseReplied` — a session is not removed before its Close reply is sent, otherwise
* `KeepsReply` — what a step must not do for that

## Main results

* `close_reply_is_sent`
-/

namespace ChatBackend

open Traces (Always always_append always_nil always_singleton)
open WebsocketWorker (ReadableInputs answers)

variable {parser : JsonParser} {writer : JsonWriter} {allowed : Entry → Stimulus → Prop}

/-- The reasons for which a session may be removed before its output is sent. -/
def Cause.excused : Cause → Bool
  | hangup | recvFailed | sendFailed | pongTimeout | revokeTimeout => true
  | halfClosed | peerClosed | protocolError | drained | epollFailed | closeTask => false

/-- What is in order, as to a Close reply, when a session is removed without an excuse: the reply was
sent, with everything before it. -/
def RepliedBefore (before : List WorkerEvent) (event : WorkerEvent) : Prop :=
  ∀ id cause, event = .removed id cause → cause.excused = false →
    ∀ first who reply rest, before = first ++ .appended who .closeReply reply :: rest →
      writtenBytes (first ++ [.appended who .closeReply reply]) <+: sentBytes before

/-- **A session is not removed before its Close reply is sent**, unless there is an excuse. -/
def CloseReplied (events : List WorkerEvent) : Prop := Always RepliedBefore events

/-- **A readable event does not do away with a Close reply**, be it an old one or one of this event:
`epoll_ctl` does not fail for what is written, the event does not end with an exception before the
session is in `closing_sessions_`, and the session is not removed for what was read. -/
def Entry.KeepsReply (parser : JsonParser) (entry : Entry) (io : ReadableInputs) : Prop :=
  (entry.reading io).session.closeWritten = true →
    ((entry.reading io).result.outputQueued = true → io.modOk = true) ∧
    ((entry.dispatching parser io).2 = true → entry.closing = true) ∧
    ((entry.dispatching parser io).2 = false →
      ∀ cause, (entry.reading io).result.removal = some cause → cause.excused = true)

/-- **What a step must not do, so that every Close reply is sent**: do away with it when it reads, or
have `epoll_ctl` fail for a session that has one. -/
def KeepsReply (parser : JsonParser) (w : WebsocketWorker) : WorkerInput → Prop
  | .socket fd flags input _ => (flags.err || flags.hup) = false → flags.readable = true →
      ∀ entry, w.entry fd = some entry → entry.deadline = none → entry.KeepsReply parser input
  | .timer now _ modOk => ∀ fd entry, w.entry fd = some entry →
      w.timerVerdict now fd = some .ping → entry.session.closeWritten = true → modOk fd = true
  | .revocation _ userId deviceId _ io => ∀ fd entry, w.entry fd = some entry →
      w.owned userId deviceId fd = true → entry.deadline = none →
        entry.session.closeWritten = true → (io fd).modOk = true
  | _ => True

/-- The moves of a session that do not do away with its Close reply. -/
def KeepingMove (parser : JsonParser) (entry : Entry) : Stimulus → Prop
  | .readable io => entry.deadline = none → entry.KeepsReply parser io
  | .unarmed => entry.closing = true → entry.session.closeWritten = false
  | _ => True

theorem permissive_keepingMove : Permissive (KeepingMove parser) where
  other := fun _ => trivial
  unarmed := fun entry hopen hclosing => by
    rw [hopen] at hclosing
    cases hclosing

theorem permits_keepingMove {w : WebsocketWorker} {input : WorkerInput}
    (h : KeepsReply parser w input) : w.Permits (KeepingMove parser) input := by
  cases input with
  | socket fd flags input output => exact h
  | timer now order modOk =>
    refine fun fd entry hentry hping => ⟨trivial, fun hmod _ => ?_⟩
    rw [← Bool.not_eq_true]
    intro hwritten
    have hwritten' : entry.session.closeWritten = true := by
      simpa [Entry.pinged, WebSocketSession.write, WebSocketSession.markPingSent, pingFrame]
        using hwritten
    rw [h fd entry hentry hping hwritten'] at hmod
    cases hmod
  | revocation scan userId deviceId order io =>
    intro fd entry hentry howned hmod _ hdeadline _
    rw [← Bool.not_eq_true]
    intro hwritten
    rw [h fd entry hentry howned hdeadline hwritten] at hmod
    cases hmod
  | register | reply | push | close => trivial

/-! ### In one life -/

/-- A Close reply is a Close. -/
theorem opcode_of_mem_answers {who who' : Identity} {handled : List Frame} {reply : Frame}
    (h : .appended who' .closeReply reply ∈ answers who handled) :
    reply ∈ handled.filterMap Frame.answer ∧ reply.opcode = .close := by
  obtain ⟨frame, hframe, reply', hanswer, heq⟩ := mem_answers.1 h
  obtain ⟨-, hwriter, rfl⟩ := WorkerEvent.appended.inj heq
  refine ⟨List.mem_filterMap.2 ⟨frame, hframe, hanswer⟩, (opcode_answer hanswer).2 ?_⟩
  by_contra hother
  rw [if_neg hother] at hwriter
  cases hwriter

/-- The Close replies of a move are Closes. -/
theorem Move.opcode_closeReply {entry : Entry} {stimulus : Stimulus} {events : List WorkerEvent}
    {result : Option Entry} (h : Move parser entry stimulus events result) {who : Identity}
    {reply : Frame} (hreply : .appended who .closeReply reply ∈ events) : reply.opcode = .close := by
  have hread {io : ReadableInputs} (hreply : .appended who .closeReply reply ∈
      entry.readEvents parser io) : reply.opcode = .close := by
    rcases Entry.mem_readEvents hreply with hreply | ⟨_, -, hreply⟩
    · exact (opcode_of_mem_answers hreply).2
    · cases hreply
  cases h with
  | unarmedReading =>
    rcases List.mem_append.1 hreply with hreply | hreply
    · exact (opcode_of_mem_answers hreply).2
    · simp at hreply
  | threw | read => exact hread hreply
  | readClosing | readRemoved =>
    rcases List.mem_append.1 hreply with hreply | hreply
    · exact hread hreply
    · simp at hreply
  | message text hopen hserves =>
    obtain ⟨-, rfl, -⟩ := WorkerEvent.appended.inj (List.mem_singleton.1 hreply)
    cases hserves
  | sent | drained | sendFailed | unarmed | ping | expired | revoke | unarmedRevoke | limit | hangup
  | halfClosed | closeTask => simp at hreply

theorem mem_framesOf {events : List WorkerEvent} {who : Identity} {writer : Writer} {frame : Frame}
    (h : .appended who writer frame ∈ events) : frame ∈ framesOf events :=
  List.mem_filterMap.2 ⟨_, h, rfl⟩

/-- A session that no Close was written to has got no Close reply. -/
theorem Life.no_closeReply {events : List WorkerEvent} {entry : Entry}
    (h : Life parser allowed events (some entry)) (hunwritten : entry.session.closeWritten = false)
    (who : Identity) (reply : Frame) : .appended who .closeReply reply ∉ events := by
  intro hreply
  have hopcode : ∀ {events result}, Life parser allowed events result →
      .appended who .closeReply reply ∈ events → reply.opcode = .close := by
    intro events result hlife
    induction hlife with
    | registered => simp
    | step _ _ hmove ih =>
      intro hmem
      rcases List.mem_append.1 hmem with hmem | hmem
      · exact ih hmem
      · exact hmove.opcode_closeReply hmem
  have hwritten := h.closeWritten.2 ⟨reply, mem_framesOf hreply, hopcode h hreply⟩
  rw [hunwritten] at hwritten
  cases hwritten

/-- An event that a list does not have before its last one is its last one. -/
theorem eq_of_append_singleton (events : List WorkerEvent) {middle after : List WorkerEvent}
    {last event : WorkerEvent} (h : events ++ [last] = middle ++ event :: after) (hnone : event ∉ events) :
    middle = events ∧ event = last := by
  rcases List.append_eq_append_iff.1 h with ⟨more, rfl, hlast⟩ | ⟨more, rfl, hafter⟩
  · cases more with
    | nil =>
      obtain ⟨rfl, -⟩ := List.cons.inj hlast
      exact ⟨List.append_nil _, rfl⟩
    | cons _ more => simp at hlast
  · cases more with
    | nil =>
      obtain ⟨rfl, -⟩ := List.cons.inj hafter
      exact ⟨(List.append_nil _).symm, rfl⟩
    | cons other more =>
      obtain ⟨rfl, -⟩ := List.cons.inj hafter
      simp at hnone

theorem removed_notMem_answers (who : Identity) (handled : List Frame) (id : ℕ) (cause : Cause) :
    .removed id cause ∉ answers who handled := by
  intro h
  obtain ⟨_, -, _, -, h⟩ := mem_answers.1 h
  cases h

theorem removed_notMem_readEvents (entry : Entry) (io : ReadableInputs) (id : ℕ) (cause : Cause) :
    .removed id cause ∉ entry.readEvents parser io := by
  intro h
  rcases Entry.mem_readEvents h with h | ⟨_, -, h⟩
  · exact removed_notMem_answers _ _ _ _ h
  · cases h

/-- **How a session is removed without an excuse**: with nothing more to send, or before a Close
reply has been written to it. -/
theorem Move.removed {entry : Entry} {stimulus : Stimulus} {events middle after : List WorkerEvent}
    {result : Option Entry} {id : ℕ} {cause : Cause} (h : Move parser entry stimulus events result)
    (hallowed : KeepingMove parser entry stimulus)
    (hclosing : entry.session.closeWritten = true → entry.closing = true)
    (heq : events = middle ++ .removed id cause :: after) (hcause : cause.excused = false) :
    (middle = [] ∧ entry.session.connection.outputBuffer = []) ∨
      (entry.session.closeWritten = false ∧
        ∀ who reply, .appended who .closeReply reply ∉ middle) := by
  have hmem : .removed id cause ∈ events := heq ▸ List.mem_append_right _ List.mem_cons_self
  -- Where the session is not in `closing_sessions_`, there is no Close.
  have hunwritten (hopen : entry.closing = false) : entry.session.closeWritten = false := by
    rw [← Bool.not_eq_true]
    intro hwritten
    rw [hclosing hwritten] at hopen
    cases hopen
  -- Where none is written after a reading, there is no Close reply.
  have hreading {io : ReadableInputs}
      (hnone : ¬ (entry.reading io).session.closeWritten = true) :
      entry.session.closeWritten = false ∧ ∀ who reply,
        .appended who .closeReply reply ∉ answers entry.who (entry.reading io).handled := by
    rw [closeWritten_reading, not_or, Bool.not_eq_true] at hnone
    exact ⟨hnone.1, fun who reply hreply => hnone.2 ⟨reply, opcode_of_mem_answers hreply⟩⟩
  cases h with
  | @unarmedReading io hdeadline hqueued hmod =>
    obtain ⟨rfl, -⟩ := eq_of_append_singleton _ heq (removed_notMem_answers _ _ _ _)
    refine .inr (hreading fun hwritten => ?_)
    rw [(hallowed hdeadline hwritten).1 hqueued] at hmod
    cases hmod
  | @readRemoved io cause' hdeadline hmod hthrew hremoval =>
    obtain ⟨rfl, hlast⟩ := eq_of_append_singleton _ heq (removed_notMem_readEvents _ _ _ _)
    obtain ⟨-, rfl⟩ := WorkerEvent.removed.inj hlast
    obtain ⟨hunwritten, hnone⟩ := hreading fun hwritten => by
      rw [(hallowed hdeadline hwritten).2.2 hthrew _ hremoval] at hcause
      cases hcause
    refine .inr ⟨hunwritten, fun who reply hreply => ?_⟩
    rcases Entry.mem_readEvents hreply with hreply | ⟨_, -, hreply⟩
    · exact hnone who reply hreply
    · cases hreply
  | threw | read => exact absurd hmem (removed_notMem_readEvents _ _ _ _)
  | readClosing =>
    rcases List.mem_append.1 hmem with hmem | hmem
    · exact absurd hmem (removed_notMem_readEvents _ _ _ _)
    · simp at hmem
  | drained _ hempty =>
    obtain ⟨rfl, -⟩ := eq_of_append_singleton [] heq List.not_mem_nil
    exact .inl ⟨rfl, hempty⟩
  | unarmed =>
    obtain ⟨rfl, -⟩ := eq_of_append_singleton [] heq List.not_mem_nil
    refine .inr ⟨?_, fun _ _ => List.not_mem_nil⟩
    rcases hwritten : entry.session.closeWritten with _ | _
    · rfl
    · exact hwritten.symm.trans (hallowed (hclosing hwritten))
  | halfClosed hopen | closeTask hopen =>
    obtain ⟨rfl, -⟩ := eq_of_append_singleton [] heq List.not_mem_nil
    exact .inr ⟨hunwritten hopen, fun _ _ => List.not_mem_nil⟩
  | unarmedRevoke hopen =>
    obtain ⟨rfl, -⟩ := eq_of_append_singleton
      [.closing entry.who.id, .appended entry.who .revocation revokedFrame] heq (by simp)
    exact .inr ⟨hunwritten hopen, by simp⟩
  | sendFailed | hangup =>
    obtain ⟨-, hlast⟩ := eq_of_append_singleton [] heq List.not_mem_nil
    obtain ⟨-, rfl⟩ := WorkerEvent.removed.inj hlast
    cases hcause
  | expired hexpired =>
    obtain ⟨-, hlast⟩ := eq_of_append_singleton [] heq List.not_mem_nil
    obtain ⟨-, rfl⟩ := WorkerEvent.removed.inj hlast
    rcases hexpired with rfl | rfl <;> cases hcause
  | sent | ping | message | revoke | limit => simp at hmem

/-- A session that a Close is written to is in `closing_sessions_` then. -/
theorem Move.closing_of_closeWritten {entry entry' : Entry} {stimulus : Stimulus}
    {events : List WorkerEvent} (h : Move parser entry stimulus events (some entry'))
    (hallowed : KeepingMove parser entry stimulus)
    (hclosing : entry.session.closeWritten = true → entry.closing = true)
    (hwritten : entry'.session.closeWritten = true) : entry'.closing = true := by
  cases h with
  | threw hdeadline hmod hthrew => exact (hallowed hdeadline hwritten).2.1 hthrew
  | read hdeadline hmod hthrew hstatus =>
    rcases (closeWritten_reading entry _).1 hwritten with hbefore | ⟨reply, hreply, hclose⟩
    · exact hclosing hbefore
    · rw [(result_of_close hreply hclose).1] at hstatus
      rcases hstatus with hstatus | hstatus <;> cases hstatus
  | readClosing | revoke => rfl
  | limit | sent => exact hclosing hwritten
  | ping | message =>
    refine hclosing ?_
    simpa [Entry.write, WebSocketSession.write, WebSocketSession.markPingSent, pingFrame, textFrame]
      using hwritten

/-- **A life** whose moves keep the Close reply. -/
theorem Life.replies {events : List WorkerEvent} {result : Option Entry}
    (h : Life parser (KeepingMove parser) events result) :
    CloseReplied events ∧
      ∀ entry ∈ result, entry.session.closeWritten = true → entry.closing = true := by
  induction h with
  | registered entry _ _ _ hunwritten =>
    constructor
    · exact always_singleton.2 fun id cause hremoved => by cases hremoved
    · rintro _ ⟨⟩ hwritten
      rw [hunwritten] at hwritten
      cases hwritten
  | @step events more entry result stimulus h hallowed hmove ih =>
    obtain ⟨hreplied, hclosing⟩ := ih
    specialize hclosing entry rfl
    constructor
    · refine always_append.2 ⟨hreplied, ?_⟩
      rintro middle _ after hmore id cause rfl hcause first who reply rest hfirst
      rcases hmove.removed hallowed hclosing hmore hcause with ⟨rfl, hempty⟩ | ⟨hunwritten, hnone⟩
      · -- All that was written is sent.
        have hsent := h.conserves.1 entry rfl
        rw [hempty, List.append_nil] at hsent
        rw [List.append_nil] at hfirst ⊢
        rw [hsent, hfirst, List.append_cons first _ rest, writtenBytes_append _ rest]
        exact List.prefix_append _ _
      · -- There is no Close reply.
        have hmem : .appended who .closeReply reply ∈ events ++ middle := by
          rw [hfirst]
          exact List.mem_append_right _ List.mem_cons_self
        rcases List.mem_append.1 hmem with hmem | hmem
        · exact absurd hmem (h.no_closeReply hunwritten who reply)
        · exact absurd hmem (hnone who reply)
    · rintro entry' rfl
      exact hmove.closing_of_closeWritten hallowed hclosing

/-! ### In a worker -/

/-- **A Close reply is sent before its session is removed**, unless `send` or `recv` fails, an error
or a hangup is reported, or a timeout expires: in every run in which no readable event does away
with the reply, and `epoll_ctl` does not fail for a session that a Close has been written to. -/
theorem close_reply_is_sent (parser : JsonParser) (writer : JsonWriter) (w : WebsocketWorker)
    (hw : w.Reaches parser writer (KeepsReply parser)) (id : ℕ) : CloseReplied (history id w.log) :=
  have hrefines : Refines parser (KeepingMove parser) w :=
    refines_of_reaches permissive_keepingMove (fun _ _ _ _ => permits_keepingMove) hw
  hrefines.of_life (P := CloseReplied) always_nil (fun hlife => hlife.replies.1) id

namespace Sample

/-- The Close reply is sent in full. -/
def departure : WorkerInput :=
  .socket 7 ⟨false, false, false, true, false⟩ ⟨[], true, []⟩ ⟨[.accepted 2 (by decide)], true⟩

/-- The worker after that. -/
def afterDeparture : WebsocketWorker := afterClose.step objectParser noWriter departure

/-- The peer closes its side of the connection before that. -/
def afterHalfClose : WebsocketWorker := afterClose.step objectParser noWriter (arrival [.closed])

/-- A Close that is read in an event of its own does not do away with its reply. -/
theorem keepsReply_close :
    KeepsReply objectParser registered (arrival [.data closeChunk 0 0]) := by
  intro _ _ entry hentry _ _
  obtain rfl := Option.some.inj
    ((WebsocketWorker.entry_of_session sessions_registered).symm.trans hentry)
  refine ⟨fun _ => rfl, ?_, fun _ => ?_⟩ <;> decide +kernel

end Sample

/-- The session of device 2 sends its Close, and the reply is sent. -/
theorem close_reply_is_sent_drained : CloseReplied (history 1 Sample.afterDeparture.log) :=
  close_reply_is_sent Sample.objectParser Sample.noWriter Sample.afterDeparture
    ((Sample.reaches_afterClose trivial Sample.keepsReply_close).step trivial
      fun _ hreadable => by cases hreadable) 1

/-- Three events of which the second queues a reply to a Close, and the removal. -/
def Sample.isReplied : List WorkerEvent → Bool
  | [_, .appended _ .closeReply _, _, .removed _ .peerClosed] => true
  | _ => false

/-- The session of device 2 sends its Close, and then closes its side of the connection; it is removed
with the reply still in its buffer. -/
theorem close_reply_is_sent_fails :
    Sample.afterHalfClose.Reaches Sample.objectParser Sample.noWriter (fun _ _ => True) ∧
      ¬ CloseReplied (history 1 Sample.afterHalfClose.log) := by
  refine ⟨(Sample.reaches_afterClose trivial trivial).step trivial trivial, fun hreplied => ?_⟩
  have hshape : Sample.isReplied (history 1 Sample.afterHalfClose.log) = true := by
    decide +kernel
  have hnone : sentBytes (history 1 Sample.afterHalfClose.log) = [] := by decide +kernel
  rw [Sample.isReplied.eq_def] at hshape
  split at hshape
  · next first who reply second id heq =>
    rw [heq] at hreplied hnone
    have hprefix := hreplied [first, .appended who .closeReply reply, second] _ [] rfl id .peerClosed
      rfl rfl [first] who reply [second] rfl
    have hsplit := sentBytes_append [first, .appended who .closeReply reply, second]
      [.removed id .peerClosed]
    have hsent : sentBytes [first, .appended who .closeReply reply, second] = [] :=
      (List.append_eq_nil_iff.1 (hsplit.symm.trans hnone)).1
    rw [hsent, List.prefix_nil, writtenBytes_append, List.append_eq_nil_iff] at hprefix
    have hempty : frameEncoder reply = [] := (List.append_nil _).symm.trans hprefix.2
    exact absurd hempty (List.cons_ne_nil _ _)
  · cases hshape

end ChatBackend
