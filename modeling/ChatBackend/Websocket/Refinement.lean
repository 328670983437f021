import ChatBackend.Websocket.Life

/-!
# The sessions of a worker live lives

Each handler of a worker is one or several moves of one session, or of several sessions one after the
other, and leaves all other sessions alone. So in every state that a worker can reach, the events of
a session are a life, and the entry that the worker has for it, if there is one, is where that life
has led.

## Main definitions

* `WebsocketWorker.entry` — what a worker knows about a file descriptor
* `Acts` — one worker is another one after moves of one session
* `WebsocketWorker.Permits` — the moves that an input may lead to are allowed

## Main results

* `WebsocketWorker.refines_of_reaches`
-/

namespace ChatBackend

open Function (update)
open WebsocketWorker (ReadableInputs WritableInputs RevocationInputs answers)

variable {parser : JsonParser} {writer : JsonWriter} {allowed : Entry → Stimulus → Prop}
  {w w' w'' : WebsocketWorker} {fd : Fd}

/-! ### Acting on one session -/

/-- What a worker knows about a file descriptor. -/
def WebsocketWorker.entry (w : WebsocketWorker) (fd : Fd) : Option Entry :=
  (w.sessions fd).map fun session => ⟨fd, session, w.closing fd, w.deadlines fd⟩

theorem WebsocketWorker.entry_eq_some {entry : Entry} :
    w.entry fd = some entry ↔
      entry.fd = fd ∧ w.sessions fd = some entry.session ∧ w.closing fd = entry.closing ∧
        w.deadlines fd = entry.deadline := by
  rw [WebsocketWorker.entry]
  rcases w.sessions fd with _ | session
  · simp
  · obtain ⟨fd', session', closing, deadline⟩ := entry
    simp [eq_comm]

theorem WebsocketWorker.entry_of_session {session : WebSocketSession}
    (h : w.sessions fd = some session) :
    w.entry fd = some ⟨fd, session, w.closing fd, w.deadlines fd⟩ :=
  WebsocketWorker.entry_eq_some.2 ⟨rfl, h, rfl, rfl⟩

theorem WebsocketWorker.entry_eq_none : w.entry fd = none ↔ w.sessions fd = none :=
  Option.map_eq_none_iff

/-- Without a session there is nothing else. -/
def WebsocketWorker.Tidy (w : WebsocketWorker) (fd : Fd) : Prop :=
  w.sessions fd = none → w.closing fd = false ∧ w.deadlines fd = none

/-- **One worker is another one after moves of one session.** -/
structure Acts (parser : JsonParser) (allowed : Entry → Stimulus → Prop) (fd : Fd)
    (w w' : WebsocketWorker) : Prop where
  frame : ∀ other, other ≠ fd → w'.sessions other = w.sessions other ∧
    w'.closing other = w.closing other ∧ w'.deadlines other = w.deadlines other
  tidy : w.Tidy fd → w'.Tidy fd
  moves : ∃ events, w'.log = w.log ++ events ∧
    Moves parser allowed (w.entry fd) events (w'.entry fd)

namespace Acts

/-- Nothing that counts is different. -/
theorem of_eq (hsessions : w'.sessions = w.sessions) (hclosing : w'.closing = w.closing)
    (hdeadlines : w'.deadlines = w.deadlines) (hlog : w'.log = w.log) :
    Acts parser allowed fd w w' where
  frame := by
    intro other _
    rw [hsessions, hclosing, hdeadlines]
    exact ⟨rfl, rfl, rfl⟩
  tidy := by
    intro htidy
    rw [WebsocketWorker.Tidy, hsessions, hclosing, hdeadlines]
    exact htidy
  moves := by
    have hentry : w'.entry fd = w.entry fd := by
      rw [WebsocketWorker.entry, WebsocketWorker.entry, hsessions, hclosing, hdeadlines]
    refine ⟨[], ?_, ?_⟩
    · rw [hlog, List.append_nil]
    · rw [hentry]
      exact .refl _

theorem refl (w : WebsocketWorker) : Acts parser allowed fd w w := of_eq rfl rfl rfl rfl

theorem trans (h : Acts parser allowed fd w w') (h' : Acts parser allowed fd w' w'') :
    Acts parser allowed fd w w'' where
  frame := by
    intro other hother
    obtain ⟨hsessions, hclosing, hdeadlines⟩ := h.frame other hother
    obtain ⟨hsessions', hclosing', hdeadlines'⟩ := h'.frame other hother
    exact ⟨hsessions'.trans hsessions, hclosing'.trans hclosing, hdeadlines'.trans hdeadlines⟩
  tidy := fun htidy => h'.tidy (h.tidy htidy)
  moves := by
    obtain ⟨events, hlog, hmoves⟩ := h.moves
    obtain ⟨more, hlog', hmoves'⟩ := h'.moves
    exact ⟨events ++ more, by rw [hlog', hlog, List.append_assoc], hmoves.trans hmoves'⟩

theorem frame_entry (h : Acts parser allowed fd w w') {other : Fd} (hother : other ≠ fd) :
    w'.entry other = w.entry other := by
  obtain ⟨hsessions, hclosing, hdeadlines⟩ := h.frame other hother
  rw [WebsocketWorker.entry, WebsocketWorker.entry, hsessions, hclosing, hdeadlines]

/-- A move after which the session is still there. -/
theorem update {entry entry' : Entry} {stimulus : Stimulus} {events : List WorkerEvent}
    (hentry : w.entry fd = some entry) (hallowed : allowed entry stimulus)
    (hmove : Move parser entry stimulus events (some entry'))
    (hsessions : w'.sessions = Function.update w.sessions fd (some entry'.session))
    (hclosing : w'.closing = Function.update w.closing fd entry'.closing)
    (hdeadlines : w'.deadlines = Function.update w.deadlines fd entry'.deadline)
    (hlog : w'.log = w.log ++ events) : Acts parser allowed fd w w' where
  frame := by
    intro other hother
    rw [hsessions, hclosing, hdeadlines]
    exact ⟨Function.update_of_ne hother _ _, Function.update_of_ne hother _ _,
      Function.update_of_ne hother _ _⟩
  tidy := by
    intro _ hnone
    rw [hsessions, Function.update_self] at hnone
    cases hnone
  moves := by
    have hfd : entry'.fd = fd :=
      (hmove.concerns.2 entry' rfl).2.trans (WebsocketWorker.entry_eq_some.1 hentry).1
    have hentry' : w'.entry fd = some entry' := by
      rw [WebsocketWorker.entry_eq_some, hsessions, hclosing, hdeadlines]
      exact ⟨hfd, Function.update_self .., Function.update_self .., Function.update_self ..⟩
    rw [hentry, hentry']
    exact ⟨events, hlog, .single hallowed hmove⟩

/-- The end of a session, some events after the move has begun. -/
theorem remove_after {entry : Entry} {stimulus : Stimulus} {events : List WorkerEvent}
    {session : WebSocketSession} {cause : Cause} (hentry : w.entry fd = some entry)
    (hallowed : allowed entry stimulus)
    (hmove : Move parser entry stimulus (events ++ [.removed entry.who.id cause]) none)
    (hframe : ∀ other, other ≠ fd → w'.sessions other = w.sessions other ∧
      w'.closing other = w.closing other ∧ w'.deadlines other = w.deadlines other)
    (hsession : w'.sessions fd = some session) (hid : session.id = entry.who.id)
    (hlog : w'.log = w.log ++ events) : Acts parser allowed fd w (w'.removeSession fd cause) where
  frame := by
    intro other hother
    obtain ⟨hsessions, hclosing, hdeadlines⟩ := hframe other hother
    simp [Function.update_of_ne hother, hsessions, hclosing, hdeadlines]
  tidy := by
    intro _ _
    simp
  moves := by
    have hentry' : (w'.removeSession fd cause).entry fd = none := by
      rw [WebsocketWorker.entry_eq_none]
      simp
    rw [hentry, hentry']
    refine ⟨events ++ [.removed entry.who.id cause], ?_, .single hallowed hmove⟩
    rw [WebsocketWorker.log_removeSession, hsession, hlog, ← hid, List.append_assoc]
    rfl

/-- The end of a session. -/
theorem remove {entry : Entry} {stimulus : Stimulus} {cause : Cause}
    (hentry : w.entry fd = some entry) (hallowed : allowed entry stimulus)
    (hmove : Move parser entry stimulus [.removed entry.who.id cause] none) :
    Acts parser allowed fd w (w.removeSession fd cause) :=
  remove_after hentry hallowed hmove (fun _ _ => ⟨rfl, rfl, rfl⟩)
    (WebsocketWorker.entry_eq_some.1 hentry).2.1 rfl (List.append_nil _).symm

/-- Removing no session, where nothing is left of one, removes nothing. -/
theorem remove_none (hnone : w.sessions fd = none) (htidy : w.Tidy fd) (cause : Cause) :
    Acts parser allowed fd w (w.removeSession fd cause) := by
  obtain ⟨hclosing, hdeadline⟩ := htidy hnone
  refine of_eq ?_ ?_ ?_ ?_
  · rw [WebsocketWorker.sessions_removeSession, ← hnone, Function.update_eq_self]
  · rw [WebsocketWorker.closing_removeSession, ← hclosing, Function.update_eq_self]
  · rw [WebsocketWorker.deadlines_removeSession, ← hdeadline, Function.update_eq_self]
  · simp [hnone]

end Acts

/-- The moves under which every program lives: those for which there is no reason not to be. -/
structure Permissive (allowed : Entry → Stimulus → Prop) : Prop where
  other : ∀ entry, allowed entry .other
  unarmed : ∀ entry, entry.closing = false → allowed entry .unarmed

/-! ### The handlers -/

theorem acts_setWriteInterest (enabled modOk : Bool)
    (hopen : ∀ entry, w.entry fd = some entry → entry.closing = false ∨ entry.deadline = none)
    (hallowed : modOk = false → ∀ entry, w.entry fd = some entry → allowed entry .unarmed) :
    Acts parser allowed fd w (w.setWriteInterest fd enabled modOk) := by
  rcases w.setWriteInterest_cases fd enabled modOk with ⟨interest, h⟩ | ⟨hsome, hmod, h⟩
  · rw [h]
    exact .of_eq rfl rfl rfl rfl
  · obtain ⟨entry, hentry⟩ : ∃ entry, w.entry fd = some entry := by
      rw [← Option.isSome_iff_exists, WebsocketWorker.entry, Option.isSome_map]
      exact hsome
    rw [h]
    exact .remove hentry (hallowed hmod entry hentry) (.unarmed (hopen entry hentry))

/-- What `flush` does to the output buffer. -/
theorem Connection.flush_sent {connection connection' : Connection} {sends : List Send}
    {bytes : Bytes} (h : connection.flush sends = (connection', .sent bytes)) :
    connection.outputBuffer = bytes ++ connection'.outputBuffer := by
  have hloop : ∀ sends, connection.sendLoop sends = (connection', .sent bytes) →
      connection.outputBuffer = bytes ++ connection'.outputBuffer := by
    intro sends hsends
    induction sends with
    | nil => cases hsends
    | cons send sends ih =>
      cases send with
      | accepted count pos =>
        obtain ⟨rfl, hbytes⟩ := Prod.mk.inj hsends
        obtain rfl := Connection.Flushed.sent.inj hbytes
        exact (List.take_append_drop count connection.outputBuffer).symm
      | interrupted => exact ih hsends
      | again => cases hsends
      | failed => cases hsends
  rw [Connection.flush] at h
  split at h
  · next hempty =>
    obtain ⟨rfl, hbytes⟩ := Prod.mk.inj h
    obtain rfl := Connection.Flushed.sent.inj hbytes
    rfl
  · exact hloop sends h

theorem acts_handleWritable (hp : Permissive allowed) (io : WritableInputs) :
    Acts parser allowed fd w (w.handleWritable fd io) := by
  rw [WebsocketWorker.handleWritable]
  rcases hsession : w.sessions fd with _ | session
  · exact .refl w
  · have hentry : w.entry fd = some ⟨fd, session, w.closing fd, w.deadlines fd⟩ :=
      WebsocketWorker.entry_of_session hsession
    simp only
    split
    · next connection bytes hflush =>
      have hsent := Connection.flush_sent hflush
      have hacts : Acts parser allowed fd w ((w.setSession fd
          { session with connection := connection }).record [.sent session.id bytes]) :=
        .update hentry (hp.other _) (.sent hsent) rfl (Function.update_eq_self ..).symm
          (Function.update_eq_self ..).symm rfl
      have hentry' : ((w.setSession fd { session with connection := connection }).record
          [.sent session.id bytes]).entry fd =
            some ⟨fd, { session with connection := connection }, w.closing fd, w.deadlines fd⟩ :=
        WebsocketWorker.entry_eq_some.2 ⟨rfl, Function.update_self .., rfl, rfl⟩
      split
      · exact hacts
      · next hpending =>
        have hempty : connection.outputBuffer = [] := by
          simpa [Connection.hasPendingOutput] using hpending
        split
        · next hclosing =>
          exact hacts.trans (.remove hentry' (hp.other _) (.drained hclosing hempty))
        · next hclosing =>
          rw [WebsocketWorker.closing_record, WebsocketWorker.closing_setSession,
            Bool.not_eq_true] at hclosing
          refine hacts.trans (acts_setWriteInterest false io.modOk ?_ ?_)
          · intro entry hentry''
            obtain rfl := Option.some.inj (hentry'.symm.trans hentry'')
            exact .inl hclosing
          · intro _ entry hentry''
            obtain rfl := Option.some.inj (hentry'.symm.trans hentry'')
            exact hp.unarmed _ hclosing
    · exact .refl w
    · exact .remove hentry (hp.other _) .sendFailed

/-- The session after a reading, before the worker has looked at the result. -/
theorem entry_setSession {entry : Entry} (hentry : w.entry fd = some entry)
    (session : WebSocketSession) (events : List WorkerEvent) :
    ((w.setSession fd session).record events).entry fd = some { entry with session := session } := by
  obtain ⟨hfd, -, hclosing, hdeadline⟩ := WebsocketWorker.entry_eq_some.1 hentry
  exact WebsocketWorker.entry_eq_some.2 ⟨hfd, Function.update_self .., hclosing, hdeadline⟩

/-- `setWriteInterest` where `epoll_ctl` succeeds. -/
theorem setWriteInterest_armed (w : WebsocketWorker) (fd : Fd) (enabled : Bool) :
    ∃ interest, w.setWriteInterest fd enabled true = { w with interest := interest } := by
  rcases w.setWriteInterest_cases fd enabled true with h | ⟨-, h, -⟩
  · exact h
  · cases h

theorem setWriteInterest_unarmed {session : WebSocketSession}
    (hsession : w.sessions fd = some session) (enabled : Bool) :
    w.setWriteInterest fd enabled false = w.removeSession fd .epollFailed := by
  rw [WebsocketWorker.setWriteInterest, hsession]
  rfl

/-- The worker after the dispatch loop of a readable event. -/
def WebsocketWorker.dispatchedBatch (parser : JsonParser) (w : WebsocketWorker) (entry : Entry)
    (io : ReadableInputs) (interest : Fd → Option Interest) : WebsocketWorker :=
  { (w.setSession entry.fd (entry.reading io).session).record (entry.readEvents parser io) with
    interest := interest }

/-- **A readable event** whose messages are dispatched. -/
theorem handleBatch_armed (parser : JsonParser) (w : WebsocketWorker) {entry : Entry}
    {io : ReadableInputs}
    (hmod : (entry.reading io).result.outputQueued = true → io.modOk = true) :
    ∃ interest, w.handleBatch parser entry.fd (entry.reading io) io =
      if (entry.dispatching parser io).2 = true then
        (w.dispatchedBatch parser entry io interest, true)
      else ((w.dispatchedBatch parser entry io interest).takeVerdict entry.fd
        (entry.reading io).session (entry.reading io).result, false) := by
  have hwho := entry.identity_reading io
  obtain ⟨interest, harmed⟩ : ∃ interest,
      (if (entry.reading io).result.outputQueued = true then
        ((w.setSession entry.fd (entry.reading io).session).record
          (answers entry.who (entry.reading io).handled)).setWriteInterest entry.fd true io.modOk
        else (w.setSession entry.fd (entry.reading io).session).record
          (answers entry.who (entry.reading io).handled)) =
      { (w.setSession entry.fd (entry.reading io).session).record
          (answers entry.who (entry.reading io).handled) with interest := interest } := by
    split
    · next hqueued =>
      rw [hmod hqueued]
      exact setWriteInterest_armed _ entry.fd true
    · exact ⟨w.interest, rfl⟩
  have hdispatching : WebsocketWorker.dispatchFrames parser
      (fun frame => ⟨entry.fd, entry.who, frame⟩) (entry.reading io).result.frames
      io.dispatchThrows = entry.dispatching parser io := rfl
  have hbatch : ({ (w.setSession entry.fd (entry.reading io).session).record
      (answers entry.who (entry.reading io).handled) with interest := interest } :
        WebsocketWorker).record ((entry.dispatching parser io).1.map .dispatched) =
      w.dispatchedBatch parser entry io interest := by
    rw [WebsocketWorker.dispatchedBatch, Entry.readEvents, WebsocketWorker.record,
      WebsocketWorker.record, WebsocketWorker.record, ← List.append_assoc]
  refine ⟨interest, ?_⟩
  rw [WebsocketWorker.handleBatch, hwho]
  simp only [harmed]
  rw [if_neg (by simp), hdispatching, hbatch]

/-- A readable event after whose answers `epoll_ctl` fails. -/
theorem handleBatch_unarmed {entry : Entry} {io : ReadableInputs}
    (hqueued : (entry.reading io).result.outputQueued = true) (hmod : io.modOk = false) :
    w.handleBatch parser entry.fd (entry.reading io) io =
      (((w.setSession entry.fd (entry.reading io).session).record
        (answers entry.who (entry.reading io).handled)).removeSession entry.fd .epollFailed,
        false) := by
  have hsession : ((w.setSession entry.fd (entry.reading io).session).record
      (answers entry.who (entry.reading io).handled)).sessions entry.fd =
        some (entry.reading io).session := Function.update_self ..
  rw [WebsocketWorker.handleBatch, entry.identity_reading io]
  simp only [hqueued, if_true, hmod, setWriteInterest_unarmed hsession]
  rw [if_pos (by simp)]

/-- **A readable event** is one move: which one depends on the result of the handler, on whether the
dispatch loop throws and on whether `epoll_ctl` fails. -/
theorem acts_handleBatch {entry : Entry} (hentry : w.entry fd = some entry)
    (hdeadline : entry.deadline = none) (io : ReadableInputs)
    (hallowed : allowed entry (.readable io)) :
    Acts parser allowed fd w (w.handleBatch parser fd (entry.reading io) io).1 := by
  obtain ⟨rfl, hsession, hclosing, hdeadline'⟩ := WebsocketWorker.entry_eq_some.1 hentry
  have hid : (entry.reading io).session.id = entry.who.id :=
    congrArg Identity.id (entry.identity_reading io)
  have hclosing' : w.closing = update w.closing entry.fd entry.closing := by
    rw [← hclosing, Function.update_eq_self]
  have hdeadlines : w.deadlines = update w.deadlines entry.fd entry.deadline := by
    rw [← hdeadline', Function.update_eq_self]
  have hframe : ∀ other, other ≠ entry.fd →
      update w.sessions entry.fd (some (entry.reading io).session) other = w.sessions other ∧
        w.closing other = w.closing other ∧ w.deadlines other = w.deadlines other :=
    fun other hother => ⟨Function.update_of_ne hother _ _, rfl, rfl⟩
  by_cases hunarmed : (entry.reading io).result.outputQueued = true ∧ io.modOk = false
  · obtain ⟨hqueued, hmod⟩ := hunarmed
    rw [handleBatch_unarmed hqueued hmod]
    exact .remove_after hentry hallowed (.unarmedReading hdeadline hqueued hmod) hframe
      (Function.update_self ..) hid rfl
  · have hmod : (entry.reading io).result.outputQueued = true → io.modOk = true := by
      intro hqueued
      rw [← Bool.not_eq_false]
      exact fun hmod => hunarmed ⟨hqueued, hmod⟩
    obtain ⟨interest, hbatch⟩ := handleBatch_armed parser w hmod
    rw [hbatch]
    split
    · next hthrew =>
      exact .update hentry hallowed (.threw hdeadline hmod hthrew) rfl hclosing' hdeadlines rfl
    · next hthrew =>
      rw [Bool.not_eq_true] at hthrew
      have hremoved : ∀ cause, (entry.reading io).result.removal = some cause →
          Acts parser allowed entry.fd w
            ((w.dispatchedBatch parser entry io interest).removeSession entry.fd cause) :=
        fun cause hcause => .remove_after hentry hallowed
          (.readRemoved hdeadline hmod hthrew hcause) hframe (Function.update_self ..) hid rfl
      have hread : (entry.reading io).result.status = .messagesReady ∨
          (entry.reading io).result.status = .needMoreData →
            Acts parser allowed entry.fd w (w.dispatchedBatch parser entry io interest) :=
        fun hstatus => .update hentry hallowed (.read hdeadline hmod hthrew hstatus) rfl hclosing'
          hdeadlines rfl
      rw [WebsocketWorker.takeVerdict]
      cases hstatus : (entry.reading io).result.status with
      | messagesReady => exact hread (.inl hstatus)
      | needMoreData => exact hread (.inr hstatus)
      | peerClosed =>
        simp only
        split
        · next hqueued =>
          refine .update hentry hallowed (.readClosing hdeadline hmod hthrew hstatus hqueued) rfl
            rfl hdeadlines ?_
          rw [WebsocketWorker.markClosing, WebsocketWorker.log_record, hid, ← List.append_assoc]
          rfl
        · next hqueued =>
          exact hremoved _ (by rw [WebSocketHandleResult.removal, hstatus]; exact if_neg hqueued)
      | protocolError => exact hremoved _ (by rw [WebSocketHandleResult.removal, hstatus])
      | ioError => exact hremoved _ (by rw [WebSocketHandleResult.removal, hstatus])

theorem acts_handleReadable (io : ReadableInputs)
    (hallowed : ∀ entry, w.entry fd = some entry → allowed entry (.readable io)) :
    Acts parser allowed fd w (w.handleReadable parser fd io).1 := by
  rw [WebsocketWorker.handleReadable]
  split
  · exact .refl w
  · next hdeadline =>
    rw [Option.not_isSome_iff_eq_none] at hdeadline
    rcases hsession : w.sessions fd with _ | session
    · exact .refl w
    · have hentry : w.entry fd = some ⟨fd, session, w.closing fd, none⟩ :=
        WebsocketWorker.entry_eq_some.2 ⟨rfl, hsession, rfl, hdeadline⟩
      exact acts_handleBatch hentry rfl io (hallowed _ hentry)

/-- A reply or a push is appended to the session it is for, if that is not closing. -/
theorem acts_deliver (hp : Permissive allowed) {entry : Entry} (hentry : w.entry fd = some entry)
    (hopen : entry.closing = false) {who : Writer} (hserves : who.Serves entry.who) (message : Json)
    (modOk : Bool) :
    Acts parser allowed fd w (w.deliver writer fd entry.session who message modOk) := by
  obtain ⟨rfl, hsession, hclosing, hdeadline⟩ := WebsocketWorker.entry_eq_some.1 hentry
  rw [WebsocketWorker.deliver]
  rcases writer.dump message with _ | text
  · exact .refl w
  · have hentry' : (w.append entry.fd entry.session who (textFrame text)).entry entry.fd =
        some (entry.write (textFrame text)) := entry_setSession hentry _ _
    have happend : Acts parser allowed entry.fd w
        (w.append entry.fd entry.session who (textFrame text)) := by
      refine .update hentry (hp.other entry) (.message text hopen hserves) rfl ?_ ?_ rfl
      · exact ((congrArg _ hclosing.symm).trans (Function.update_eq_self ..)).symm
      · exact ((congrArg _ hdeadline.symm).trans (Function.update_eq_self ..)).symm
    refine happend.trans (acts_setWriteInterest true modOk ?_ ?_)
    · intro other hother
      obtain rfl := Option.some.inj (hentry'.symm.trans hother)
      exact .inl hopen
    · intro _ other hother
      obtain rfl := Option.some.inj (hentry'.symm.trans hother)
      exact hp.unarmed _ hopen

theorem acts_runReply (hp : Permissive allowed) (request : Request) (response : Json)
    (modOk : Bool) :
    Acts parser allowed request.fd w (w.runReply writer request response modOk) := by
  rw [WebsocketWorker.runReply]
  split
  · exact .refl w
  · split
    · split
      · exact .refl w
      · exact .of_eq rfl rfl rfl rfl
    · split
      · exact .refl w
      · next session hsession =>
        split
        · exact .refl w
        · next hcheck =>
          rw [not_or, not_not, Bool.not_eq_true] at hcheck
          have hserves : (Writer.reply request).Serves session.identity := hcheck.1.symm
          exact acts_deliver hp (WebsocketWorker.entry_of_session hsession) hcheck.2 hserves response
            modOk

theorem acts_runPush (hp : Permissive allowed) (task : PushTask) (modOk : Bool) :
    Acts parser allowed task.fd w (w.runPush writer task modOk) := by
  rw [WebsocketWorker.runPush]
  split
  · exact .refl w
  · next session hsession =>
    split
    · exact .refl w
    · next hopen =>
      split
      · exact .refl w
      · next hcheck =>
        rw [not_or, not_not, not_not] at hcheck
        rw [Bool.not_eq_true] at hopen
        have hserves : (Writer.push task).Serves session.identity :=
          ⟨hcheck.1.symm, hcheck.2.symm⟩
        exact acts_deliver hp (WebsocketWorker.entry_of_session hsession) hopen hserves task.message
          modOk

theorem acts_runClose (hp : Permissive allowed) (fd : Fd) (sessionId : ℕ) (deviceId : Uuid) :
    Acts parser allowed fd w (w.runClose fd sessionId deviceId) := by
  rw [WebsocketWorker.runClose]
  split
  · exact .refl w
  · next session hsession =>
    split
    · exact .refl w
    · next hopen =>
      rw [Bool.not_eq_true] at hopen
      split
      · exact .refl w
      · exact .remove (WebsocketWorker.entry_of_session hsession) (hp.other _)
          (.closeTask hopen)

theorem acts_finishEvent (hp : Permissive allowed) (flags : WebsocketWorker.Flags)
    (output : WritableInputs) : Acts parser allowed fd w (w.finishEvent fd flags output) := by
  rw [WebsocketWorker.finishEvent]
  split
  · exact .refl w
  · have hwritable : Acts parser allowed fd w
        (if flags.writable = true then w.handleWritable fd output else w) := by
      split
      · exact acts_handleWritable hp output
      · exact .refl w
    generalize (if flags.writable = true then w.handleWritable fd output else w) = w₁
      at hwritable ⊢
    simp only
    split
    · exact hwritable
    · next hpresent =>
      split
      · next hrdhup =>
        simp only [Bool.and_eq_true, Bool.not_eq_true'] at hrdhup
        rw [Option.isNone_iff_eq_none] at hpresent
        obtain ⟨session, hsession⟩ := Option.ne_none_iff_exists'.1 hpresent
        exact hwritable.trans (.remove (WebsocketWorker.entry_of_session hsession) (hp.other _)
          (.halfClosed hrdhup.2))
      · exact hwritable

theorem acts_socketEvent (hp : Permissive allowed) (flags : WebsocketWorker.Flags)
    (input : ReadableInputs) (output : WritableInputs) (htidy : w.Tidy fd)
    (hallowed : (flags.err || flags.hup) = false → flags.readable = true →
      ∀ entry, w.entry fd = some entry → allowed entry (.readable input)) :
    Acts parser allowed fd w (w.socketEvent parser fd flags input output) := by
  rw [WebsocketWorker.socketEvent]
  split
  · rcases hsession : w.sessions fd with _ | session
    · exact .remove_none hsession htidy _
    · exact .remove (WebsocketWorker.entry_of_session hsession) (hp.other _) .hangup
  · next hhangup =>
    rw [Bool.not_eq_true] at hhangup
    split
    · next hreadable =>
      have hread : Acts parser allowed fd w (w.handleReadable parser fd input).1 :=
        acts_handleReadable input (hallowed hhangup hreadable)
      split
      · next hthrew =>
        rw [hthrew] at hread
        exact hread
      · next hthrew =>
        rw [hthrew] at hread
        exact hread.trans (acts_finishEvent hp flags output)
    · exact acts_finishEvent hp flags output

theorem handleWritable_of_none (hnone : w.sessions fd = none) (io : WritableInputs) :
    w.handleWritable fd io = w := by
  rw [WebsocketWorker.handleWritable, hnone]

/-- Asking for `EPOLLOUT` and a first attempt to send, at a target of a revocation. -/
theorem acts_send (hp : Permissive allowed) (io : WritableInputs)
    (hmod : io.modOk = true) (h : Acts parser allowed fd w w') :
    Acts parser allowed fd w ((w'.setWriteInterest fd true io.modOk).handleWritable fd io) := by
  obtain ⟨interest, harmed⟩ := setWriteInterest_armed w' fd true
  rw [hmod, harmed]
  have hsame : Acts parser allowed fd w' { w' with interest := interest } := .of_eq rfl rfl rfl rfl
  exact (h.trans hsame).trans (acts_handleWritable hp io)

/-- **A target of a revocation**: it gets a Close, unless it has one, and a deadline, unless it has
one. -/
theorem acts_revoke (hp : Permissive allowed) (io : Fd → RevocationInputs)
    (hallowed : (io fd).modOk = false → ∀ entry, w.entry fd = some entry → entry.closing = true →
      entry.deadline = none → allowed entry .unarmed) :
    Acts parser allowed fd w (w.revoke io fd) := by
  rw [WebsocketWorker.revoke]
  split
  · exact .refl w
  · next session hsession =>
    split
    · exact .refl w
    · next hdeadline =>
      rw [Option.not_isSome_iff_eq_none] at hdeadline
      have hentry := WebsocketWorker.entry_of_session hsession
      rw [hdeadline] at hentry
      simp only
      split
      · next hclosing =>
        generalize hlimit : w.setDeadline fd ((io fd).now + revokeTimeout) = w₁
        have hsession₁ : w₁.sessions fd = some session := by
          rw [← hlimit]
          exact hsession
        rcases hmod : (io fd).modOk with _ | _
        · have hframe₁ : ∀ other, other ≠ fd → w₁.sessions other = w.sessions other ∧
              w₁.closing other = w.closing other ∧ w₁.deadlines other = w.deadlines other := by
            intro other hother
            rw [← hlimit]
            exact ⟨rfl, rfl, Function.update_of_ne hother _ _⟩
          rw [setWriteInterest_unarmed hsession₁, handleWritable_of_none (by simp)]
          have hlog₁ : w₁.log = w.log ++ [] := by
            rw [← hlimit, List.append_nil, WebsocketWorker.log_setDeadline]
          exact .remove_after hentry (hallowed hmod _ hentry hclosing rfl) (.unarmed (.inr rfl))
            hframe₁ hsession₁ rfl hlog₁
        · have hacts : Acts parser allowed fd w w₁ := by
            refine .update hentry (hp.other _) (.limit ((io fd).now + revokeTimeout) hclosing)
              ?_ ?_ ?_ ?_
            · rw [hsession₁.symm.trans hsession₁, ← hlimit]
              exact ((congrArg _ hsession.symm).trans (Function.update_eq_self ..)).symm
            · rw [← hlimit]
              exact (Function.update_eq_self ..).symm
            · rw [← hlimit]
              rfl
            · rw [← hlimit, List.append_nil, WebsocketWorker.log_setDeadline]
          exact acts_send hp ⟨(io fd).sends, true⟩ rfl hacts
      · next hopen =>
        rw [Bool.not_eq_true] at hopen
        generalize hclose : ((w.setDeadline fd ((io fd).now + revokeTimeout)).markClosing fd
          session).append fd session .revocation revokedFrame = w₁
        have hsession₁ : w₁.sessions fd = some (session.write revokedFrame) := by
          rw [← hclose]
          exact Function.update_self ..
        have hlog₁ : w₁.log = w.log ++ [.closing session.id,
            .appended session.identity .revocation revokedFrame] := by
          rw [← hclose, WebsocketWorker.append, WebsocketWorker.markClosing]
          simp
        rcases hmod : (io fd).modOk with _ | _
        · have hframe₁ : ∀ other, other ≠ fd → w₁.sessions other = w.sessions other ∧
              w₁.closing other = w.closing other ∧ w₁.deadlines other = w.deadlines other := by
            intro other hother
            rw [← hclose]
            exact ⟨Function.update_of_ne hother _ _, Function.update_of_ne hother _ _,
              Function.update_of_ne hother _ _⟩
          rw [setWriteInterest_unarmed hsession₁, handleWritable_of_none (by simp)]
          exact .remove_after hentry (hp.other _) (.unarmedRevoke hopen) hframe₁ hsession₁ rfl hlog₁
        · have hacts : Acts parser allowed fd w w₁ := by
            refine .update hentry (hp.other _) (.revoke ((io fd).now + revokeTimeout) hopen)
              ?_ ?_ ?_ hlog₁
            all_goals
              rw [← hclose]
              rfl
          exact acts_send hp ⟨(io fd).sends, true⟩ rfl hacts

theorem acts_sendPing (now : SteadyTime)
    (hallowed : ∀ entry, w.entry fd = some entry → entry.deadline = none ∧
      allowed entry (.ping now)) : Acts parser allowed fd w (w.sendPing now fd) := by
  rw [WebsocketWorker.sendPing]
  split
  · exact .refl w
  · next session hsession =>
    have hentry := WebsocketWorker.entry_of_session hsession
    obtain ⟨hdeadline, hping⟩ := hallowed _ hentry
    exact .update hentry hping (.ping hdeadline) rfl (Function.update_eq_self ..).symm
      (Function.update_eq_self ..).symm rfl

/-! ### The refinement -/

/-- **A worker refines the lives of its sessions**: each session it has is where its events have led
a life, and there are no events but those of lives. No two sessions have the same id, and nothing
is left of a session that was removed. -/
structure Refines (parser : JsonParser) (allowed : Entry → Stimulus → Prop) (w : WebsocketWorker) :
    Prop where
  tidy : ∀ fd, w.Tidy fd
  distinct : ∀ fd other entry entry', w.entry fd = some entry → w.entry other = some entry' →
    entry.who.id = entry'.who.id → fd = other
  present : ∀ fd entry, w.entry fd = some entry →
    Life parser allowed (history entry.who.id w.log) (some entry)
  past : ∀ id, history id w.log = [] ∨ ∃ result, Life parser allowed (history id w.log) result

/-- Moves concern the session that they are of. -/
theorem Moves.concerns {start result : Option Entry} {events : List WorkerEvent}
    (h : Moves parser allowed start events result) :
    (∀ event ∈ events, ∃ entry ∈ start, event.id = entry.who.id) ∧
      ∀ entry' ∈ result, ∃ entry ∈ start, entry'.who = entry.who := by
  induction h with
  | refl => exact ⟨by simp, fun entry' h => ⟨entry', h, rfl⟩⟩
  | step h hallowed hmove ih =>
    obtain ⟨hevents, hresult⟩ := ih
    obtain ⟨hmore, hresult'⟩ := hmove.concerns
    obtain ⟨entry, hentry, hwho⟩ := hresult _ rfl
    constructor
    · intro event hevent
      rcases List.mem_append.1 hevent with hevent | hevent
      · exact hevents event hevent
      · exact ⟨entry, hentry, by rw [hmore event hevent, hwho]⟩
    · intro entry' hentry'
      exact ⟨entry, hentry, (hresult' entry' hentry').1.trans hwho⟩

/-- **What one session does keeps the refinement.** -/
theorem Refines.acts (hw : Refines parser allowed w) (h : Acts parser allowed fd w w') :
    Refines parser allowed w' := by
  obtain ⟨events, hlog, hmoves⟩ := h.moves
  obtain ⟨hevents, hresult⟩ := hmoves.concerns
  have htidy : ∀ other, w'.Tidy other := by
    intro other
    by_cases hother : other = fd
    · rw [hother]
      exact h.tidy (hw.tidy fd)
    · obtain ⟨hsessions, hclosing, hdeadlines⟩ := h.frame other hother
      have hsame := hw.tidy other
      rw [WebsocketWorker.Tidy] at hsame ⊢
      rwa [hsessions, hclosing, hdeadlines]
  -- An entry is an old one, or a new one of a session that was there.
  have hold : ∀ other entry, w'.entry other = some entry →
      ∃ entry', w.entry other = some entry' ∧ entry.who = entry'.who := by
    intro other entry hentry
    by_cases hother : other = fd
    · rw [hother] at hentry ⊢
      obtain ⟨entry', hentry', hwho⟩ := hresult entry hentry
      exact ⟨entry', hentry', hwho⟩
    · rw [h.frame_entry hother] at hentry
      exact ⟨entry, hentry, rfl⟩
  refine ⟨htidy, ?_, ?_, ?_⟩
  · intro fd₁ fd₂ entry₁ entry₂ hentry₁ hentry₂ hid
    obtain ⟨entry₁', hentry₁', hwho₁⟩ := hold fd₁ entry₁ hentry₁
    obtain ⟨entry₂', hentry₂', hwho₂⟩ := hold fd₂ entry₂ hentry₂
    exact hw.distinct fd₁ fd₂ entry₁' entry₂' hentry₁' hentry₂' (by rw [← hwho₁, ← hwho₂, hid])
  · intro other entry hentry
    rw [hlog, history_append]
    by_cases hother : other = fd
    · subst hother
      obtain ⟨entry', hentry', hwho⟩ := hresult entry hentry
      rw [hentry'] at hmoves hevents
      have hown : history entry.who.id events = events := history_of_forall fun event hevent => by
        obtain ⟨_, ⟨⟩, hid⟩ := hevents event hevent
        rw [hid, hwho]
      rw [hown, hwho]
      rw [hentry] at hmoves
      exact (hw.present other entry' hentry').moves hmoves
    · rw [h.frame_entry hother] at hentry
      have hnone : history entry.who.id events = [] := history_of_forall_ne fun event hevent hid => by
        obtain ⟨entry', hentry', hid'⟩ := hevents event hevent
        exact hother (hw.distinct other fd entry entry' hentry hentry' (hid.symm.trans hid'))
      rw [hnone, List.append_nil]
      exact hw.present other entry hentry
  · intro id
    rw [hlog, history_append]
    rcases hstart : w.entry fd with _ | entry
    · have hnone : events = [] := List.eq_nil_iff_forall_not_mem.2 fun event hevent => by
        obtain ⟨_, hentry, -⟩ := hevents event hevent
        rw [hstart] at hentry
        cases hentry
      rw [hnone]
      simpa [history] using hw.past id
    · rw [hstart] at hmoves hevents
      by_cases hid : entry.who.id = id
      · have hown : history id events = events := history_of_forall fun event hevent => by
          obtain ⟨_, ⟨⟩, hid'⟩ := hevents event hevent
          exact hid'.trans hid
        have hlife := hw.present fd entry hstart
        rw [hid] at hlife
        exact .inr ⟨_, by rw [hown]; exact hlife.moves hmoves⟩
      · have hnone : history id events = [] := history_of_forall_ne fun event hevent hid' => by
          obtain ⟨_, ⟨⟩, hid''⟩ := hevents event hevent
          exact hid (hid''.symm.trans hid')
        rw [hnone, List.append_nil]
        exact hw.past id

theorem Refines.of_eq (hw : Refines parser allowed w) (hsessions : w'.sessions = w.sessions)
    (hclosing : w'.closing = w.closing) (hdeadlines : w'.deadlines = w.deadlines)
    (hlog : w'.log = w.log) : Refines parser allowed w' := by
  have hacts : Acts parser allowed 0 w w' := .of_eq hsessions hclosing hdeadlines hlog
  exact hw.acts hacts

/-- **Going through a list of sessions**, one after the other: what is known of each beforehand still
holds when its turn comes, and what is known of it then holds in the end. -/
theorem Refines.foldl {ι : Type} (key : ι → Fd) (f : WebsocketWorker → ι → WebsocketWorker)
    (before after : ι → Option Entry → Prop)
    (hf : ∀ w i, w.Tidy (key i) → before i (w.entry (key i)) →
      Acts parser allowed (key i) w (f w i) ∧ after i ((f w i).entry (key i)))
    {items : List ι} (hnodup : (items.map key).Nodup) (hw : Refines parser allowed w)
    (hbefore : ∀ i ∈ items, before i (w.entry (key i))) :
    Refines parser allowed (items.foldl f w) ∧
      (∀ fd, fd ∉ items.map key → (items.foldl f w).entry fd = w.entry fd) ∧
      ∀ i ∈ items, after i ((items.foldl f w).entry (key i)) := by
  induction items generalizing w with
  | nil => exact ⟨hw, fun _ _ => rfl, by simp⟩
  | cons i items ih =>
    rw [List.map_cons, List.nodup_cons] at hnodup
    obtain ⟨hacts, hafter⟩ := hf w i (hw.tidy _) (hbefore i List.mem_cons_self)
    have hbefore' : ∀ j ∈ items, before j ((f w i).entry (key j)) := by
      intro j hj
      rw [hacts.frame_entry fun heq => hnodup.1 (List.mem_map.2 ⟨j, hj, heq⟩)]
      exact hbefore j (List.mem_cons_of_mem i hj)
    obtain ⟨hrefines, hframe, hrest⟩ := ih hnodup.2 (hw.acts hacts) hbefore'
    rw [List.foldl_cons]
    refine ⟨hrefines, ?_, ?_⟩
    · intro fd hfd
      rw [List.map_cons, List.mem_cons, not_or] at hfd
      rw [hframe fd hfd.2, hacts.frame_entry hfd.1]
    · intro j hj
      rcases List.mem_cons.1 hj with rfl | hj
      · rw [hframe _ hnodup.1]
        exact hafter
      · exact hrest j hj

/-! ### The timer -/

/-- A session after a Ping of the heartbeat. -/
def Entry.pinged (entry : Entry) (now : SteadyTime) : Entry :=
  { entry with session := (entry.session.write pingFrame).markPingSent now }

theorem entry_sendPing {entry : Entry} (hentry : w.entry fd = some entry) (now : SteadyTime) :
    (w.sendPing now fd).entry fd = some (entry.pinged now) := by
  obtain ⟨-, hsession, -, -⟩ := WebsocketWorker.entry_eq_some.1 hentry
  rw [WebsocketWorker.sendPing, hsession]
  exact entry_setSession hentry _ _

/-- Only a session without a deadline gets a Ping. -/
theorem deadline_of_ping {now : SteadyTime} {entry : Entry} (hentry : w.entry fd = some entry)
    (hping : w.timerVerdict now fd = some .ping) : entry.deadline = none := by
  obtain ⟨-, hsession, -, hdeadline⟩ := WebsocketWorker.entry_eq_some.1 hentry
  rw [WebsocketWorker.timerVerdict, hsession, hdeadline] at hping
  rcases hnone : entry.deadline with _ | deadline
  · rfl
  · rw [hnone] at hping
    simp only at hping
    split at hping <;> cases hping

/-- The timer removes a session for one of two reasons. -/
theorem cause_of_expired {now : SteadyTime} {cause : Cause}
    (hexpired : w.timerVerdict now fd = some (.expired cause)) :
    cause = .pongTimeout ∨ cause = .revokeTimeout := by
  rw [WebsocketWorker.timerVerdict] at hexpired
  split at hexpired
  · cases hexpired
  · split at hexpired
    · split at hexpired
      · cases hexpired
        exact .inr rfl
      · cases hexpired
    · split at hexpired
      · cases hexpired
        exact .inl rfl
      · split at hexpired <;> cases hexpired

theorem mem_expiredFds {now : SteadyTime} {order : List Fd} {expired : Fd × Cause} :
    expired ∈ w.expiredFds now order ↔
      expired.1 ∈ order ∧ w.timerVerdict now expired.1 = some (.expired expired.2) := by
  obtain ⟨fd, cause⟩ := expired
  rw [WebsocketWorker.expiredFds, List.mem_filterMap]
  constructor
  · rintro ⟨fd', hfd', hsome⟩
    split at hsome
    · next cause' hverdict =>
      obtain ⟨rfl, rfl⟩ := Prod.mk.inj (Option.some.inj hsome)
      exact ⟨hfd', hverdict⟩
    · cases hsome
  · rintro ⟨hfd, hverdict⟩
    refine ⟨fd, hfd, ?_⟩
    simp only at hverdict
    rw [hverdict]

theorem mem_writableFds {now : SteadyTime} {order : List Fd} :
    fd ∈ w.writableFds now order ↔ fd ∈ order ∧ w.timerVerdict now fd = some .ping := by
  rw [WebsocketWorker.writableFds, List.mem_filter, decide_eq_true_iff]

theorem nodup_expiredFds {order : List Fd} (h : order.Nodup) (now : SteadyTime) :
    ((w.expiredFds now order).map Prod.fst).Nodup := by
  refine List.Nodup.sublist ?_ h
  rw [WebsocketWorker.expiredFds, List.map_filterMap]
  induction order with
  | nil => exact .slnil
  | cons fd order ih =>
    rw [List.filterMap_cons]
    specialize ih h.of_cons
    split
    · exact ih.cons fd
    · next fd' hsome =>
      obtain ⟨_, hverdict, rfl⟩ := Option.map_eq_some_iff.1 hsome
      split at hverdict
      · obtain rfl := Option.some.inj hverdict
        exact ih.cons_cons fd
      · cases hverdict

/-- **The timer.** -/
theorem Refines.handleTimer (hp : Permissive allowed) (hw : Refines parser allowed w)
    {now : SteadyTime} {order : List Fd} {modOk : Fd → Bool} (horder : order.Nodup)
    (hallowed : ∀ fd entry, w.entry fd = some entry → w.timerVerdict now fd = some .ping →
      allowed entry (.ping now) ∧ (modOk fd = false → allowed (entry.pinged now) .unarmed)) :
    Refines parser allowed (w.handleTimer now order modOk) := by
  have hwritable : ((w.writableFds now order).map id).Nodup := by
    rw [List.map_id]
    exact horder.filter _
  obtain ⟨hrefines₁, -, hpinged⟩ := hw.foldl id (WebsocketWorker.sendPing now)
    (fun fd entry => fd ∈ w.writableFds now order ∧ entry = w.entry fd)
    (fun fd entry => entry = (w.entry fd).map (Entry.pinged · now)) (by
      rintro w₁ fd - ⟨hmem, hsame⟩
      change w₁.entry fd = w.entry fd at hsame
      obtain ⟨-, hverdict⟩ := mem_writableFds.1 hmem
      constructor
      · refine acts_sendPing now fun entry hentry => ?_
        replace hentry : w.entry fd = some entry := hsame.symm.trans hentry
        exact ⟨deadline_of_ping hentry hverdict, (hallowed fd entry hentry hverdict).1⟩
      · rcases hentry : w.entry fd with _ | entry
        · rw [WebsocketWorker.timerVerdict, WebsocketWorker.entry_eq_none.1 hentry] at hverdict
          cases hverdict
        · exact entry_sendPing (hsame.trans hentry) now)
    hwritable fun fd hfd => ⟨hfd, rfl⟩
  obtain ⟨hrefines₂, hframe₂, -⟩ := hrefines₁.foldl Prod.fst WebsocketWorker.expire
    (fun expired _ => expired.2 = .pongTimeout ∨ expired.2 = .revokeTimeout) (fun _ _ => True) (by
      rintro w₁ ⟨fd, cause⟩ htidy hcause
      refine ⟨?_, trivial⟩
      rcases hentry : w₁.entry fd with _ | entry
      · exact .remove_none (WebsocketWorker.entry_eq_none.1 hentry) htidy cause
      · exact .remove hentry (hp.other entry) (.expired hcause))
    (nodup_expiredFds horder now) fun expired hexpired =>
      cause_of_expired (mem_expiredFds.1 hexpired).2
  refine (hrefines₂.foldl id (fun w fd => w.setWriteInterest fd true (modOk fd))
    (fun fd entry => fd ∈ w.writableFds now order ∧ entry = (w.entry fd).map (Entry.pinged · now))
    (fun _ _ => True) ?_ hwritable ?_).1
  · rintro w₁ fd - ⟨hmem, hsame⟩
    change w₁.entry fd = (w.entry fd).map (Entry.pinged · now) at hsame
    obtain ⟨-, hverdict⟩ := mem_writableFds.1 hmem
    refine ⟨acts_setWriteInterest true (modOk fd) ?_ ?_, trivial⟩
    · intro entry hentry
      obtain ⟨entry₀, hentry₀, rfl⟩ := Option.map_eq_some_iff.1 (hsame.symm.trans hentry)
      have hdeadline := deadline_of_ping hentry₀ hverdict
      exact .inr hdeadline
    · intro hmod entry hentry
      obtain ⟨entry₀, hentry₀, rfl⟩ := Option.map_eq_some_iff.1 (hsame.symm.trans hentry)
      exact (hallowed fd entry₀ hentry₀ hverdict).2 hmod
  · intro fd hfd
    obtain ⟨-, hverdict⟩ := mem_writableFds.1 hfd
    refine ⟨hfd, ?_⟩
    rw [id, hframe₂ fd, ← hpinged fd hfd, id]
    intro hmem
    obtain ⟨⟨_, cause⟩, hexpired, rfl⟩ := List.mem_map.1 hmem
    rw [(mem_expiredFds.1 hexpired).2] at hverdict
    cases hverdict

/-! ### Steps -/

/-- **A revocation.** -/
theorem Refines.runRevocation (hp : Permissive allowed) (hw : Refines parser allowed w)
    {scan : ScanId} {userId deviceId : Uuid} {order : List Fd} {io : Fd → RevocationInputs}
    (horder : order.Nodup)
    (hallowed : ∀ fd entry, w.entry fd = some entry → w.owned userId deviceId fd = true →
      (io fd).modOk = false → entry.closing = true → entry.deadline = none →
        allowed entry .unarmed) :
    Refines parser allowed (w.runRevocation scan userId deviceId order io) := by
  rw [WebsocketWorker.runRevocation]
  split
  · exact hw.of_eq rfl rfl rfl rfl
  · have htargets : ((order.filter (w.owned userId deviceId)).map id).Nodup := by
      rw [List.map_id]
      exact horder.filter _
    have hw₁ : Refines parser allowed { w with
        remaining := update w.remaining scan (order.filter (w.owned userId deviceId)).length
        completions := fun fd => if fd ∈ order.filter (w.owned userId deviceId) then
          w.completions fd ++ [scan] else w.completions fd } := hw.of_eq rfl rfl rfl rfl
    refine (hw₁.foldl id (WebsocketWorker.revoke io)
      (fun fd entry => w.owned userId deviceId fd = true ∧ entry = w.entry fd) (fun _ _ => True)
      ?_ htargets ?_).1
    · rintro w₂ fd - ⟨howned, hsame⟩
      refine ⟨acts_revoke hp io fun hmod entry hentry => ?_, trivial⟩
      exact hallowed fd entry (hsame.symm.trans hentry) howned hmod
    · intro fd hfd
      exact ⟨(List.mem_filter.1 hfd).2, rfl⟩

/-- The moves that an input may lead to are allowed. -/
def WebsocketWorker.Permits (allowed : Entry → Stimulus → Prop) (w : WebsocketWorker) :
    WorkerInput → Prop
  | .socket fd flags input _ => (flags.err || flags.hup) = false → flags.readable = true →
      ∀ entry, w.entry fd = some entry → allowed entry (.readable input)
  | .timer now _ modOk => ∀ fd entry, w.entry fd = some entry →
      w.timerVerdict now fd = some .ping →
        allowed entry (.ping now) ∧ (modOk fd = false → allowed (entry.pinged now) .unarmed)
  | .revocation _ userId deviceId _ io => ∀ fd entry, w.entry fd = some entry →
      w.owned userId deviceId fd = true → (io fd).modOk = false → entry.closing = true →
        entry.deadline = none → allowed entry .unarmed
  | _ => True

theorem Refines.register (hw : Refines parser allowed w) (fd : Fd) {who : Identity}
    (inputBuffer : Bytes) (now : SteadyTime) (addOk : Bool)
    (hfresh : ∀ event ∈ w.log, event.id ≠ who.id) :
    Refines parser allowed (w.register fd who inputBuffer now addOk) := by
  rw [WebsocketWorker.register]
  split
  · exact hw
  · next hfree =>
    rw [Option.not_isSome_iff_eq_none] at hfree
    split
    · exact hw
    · obtain ⟨hclosing, hdeadline⟩ := hw.tidy fd hfree
      simp only
      generalize hsession : (⟨who.id, who.userId, who.deviceId, ⟨inputBuffer, []⟩, now, 0, false, false⟩ :
        WebSocketSession) = session
      have hwho : session.identity = who := by rw [← hsession]; rfl
      generalize hw' : ((({ w with interest := update w.interest fd (some ⟨true, false⟩) } :
        WebsocketWorker).setSession fd session).call
          (.addIndex who.deviceId who.userId fd who.id)).record [.registered fd who] = w'
      have hlog : w'.log = w.log ++ [.registered fd who] := by rw [← hw']; rfl
      have hnew : w'.entry fd = some ⟨fd, session, false, none⟩ := by
        rw [← hw']
        exact WebsocketWorker.entry_eq_some.2 ⟨rfl, Function.update_self .., hclosing, hdeadline⟩
      have hold : ∀ other, other ≠ fd → w'.entry other = w.entry other := by
        intro other hother
        rw [← hw', WebsocketWorker.entry, WebsocketWorker.entry]
        change (update w.sessions fd (some session) other).map _ = _
        rw [Function.update_of_ne hother]
        rfl
      -- The sessions that are there have other ids than the new one, because they have events.
      have hother : ∀ fd' entry, w.entry fd' = some entry → entry.who.id ≠ who.id := by
        intro fd' entry hentry hid
        have hlife := hw.present fd' entry hentry
        rw [hid, history_of_forall_ne hfresh] at hlife
        exact hlife.ne_nil rfl
      have hlife : Life parser allowed (history who.id w'.log) (some ⟨fd, session, false, none⟩) := by
        rw [hlog, history_append, history_of_forall_ne hfresh, List.nil_append,
          history_of_forall (by simp [WorkerEvent.id]), ← hwho]
        have hempty : session.connection.outputBuffer = [] := by rw [← hsession]
        have hunwritten : session.closeWritten = false := by rw [← hsession]
        exact .registered ⟨fd, session, false, none⟩ rfl rfl hempty hunwritten
      refine ⟨?_, ?_, ?_, ?_⟩
      · intro other hnone
        rw [← WebsocketWorker.entry_eq_none] at hnone
        by_cases heq : other = fd
        · rw [heq, hnew] at hnone
          cases hnone
        · rw [hold other heq, WebsocketWorker.entry_eq_none] at hnone
          rw [← hw']
          exact hw.tidy other hnone
      · intro fd₁ fd₂ entry₁ entry₂ hentry₁ hentry₂ hid
        by_cases heq₁ : fd₁ = fd <;> by_cases heq₂ : fd₂ = fd
        · rw [heq₁, heq₂]
        · rw [heq₁, hnew] at hentry₁
          obtain rfl := Option.some.inj hentry₁
          rw [hold fd₂ heq₂] at hentry₂
          exact absurd (hid.symm.trans (congrArg Identity.id hwho)) (hother fd₂ entry₂ hentry₂)
        · rw [heq₂, hnew] at hentry₂
          obtain rfl := Option.some.inj hentry₂
          rw [hold fd₁ heq₁] at hentry₁
          exact absurd (hid.trans (congrArg Identity.id hwho)) (hother fd₁ entry₁ hentry₁)
        · rw [hold fd₁ heq₁] at hentry₁
          rw [hold fd₂ heq₂] at hentry₂
          exact hw.distinct fd₁ fd₂ entry₁ entry₂ hentry₁ hentry₂ hid
      · intro fd' entry hentry
        by_cases heq : fd' = fd
        · rw [heq, hnew] at hentry
          obtain rfl := Option.some.inj hentry
          change Life parser allowed (history session.identity.id w'.log) _
          rw [hwho]
          exact hlife
        · rw [hold fd' heq] at hentry
          have hnone : history entry.who.id [.registered fd who] = [] := by
            refine history_of_forall_ne fun event hevent hid => ?_
            rw [List.mem_singleton.1 hevent] at hid
            exact hother fd' entry hentry hid.symm
          rw [hlog, history_append, hnone, List.append_nil]
          exact hw.present fd' entry hentry
      · intro id
        by_cases hid : id = who.id
        · rw [hid]
          exact .inr ⟨_, hlife⟩
        · have hnone : history id [.registered fd who] = [] := by
            refine history_of_forall_ne fun event hevent hid' => ?_
            rw [List.mem_singleton.1 hevent] at hid'
            exact hid hid'.symm
          rw [hlog, history_append, hnone, List.append_nil]
          exact hw.past id

theorem refines_start : Refines parser allowed .start where
  tidy := fun _ _ => ⟨rfl, rfl⟩
  distinct := fun _ _ _ _ h => by cases h
  present := fun _ _ h => by cases h
  past := fun _ => .inl rfl

/-- **Every step keeps the refinement**, if the moves that it may lead to are allowed. -/
theorem Refines.step (hp : Permissive allowed) (hw : Refines parser allowed w)
    {input : WorkerInput} (hadmits : w.Admits input) (hpermits : w.Permits allowed input) :
    Refines parser allowed (w.step parser writer input) := by
  cases input with
  | register fd who inputBuffer now addOk => exact hw.register fd inputBuffer now addOk hadmits
  | socket fd flags input output =>
    exact hw.acts (acts_socketEvent hp flags input output (hw.tidy fd) hpermits)
  | timer now order modOk => exact hw.handleTimer hp hadmits.1 hpermits
  | reply request response modOk => exact hw.acts (acts_runReply hp request response modOk)
  | push task modOk => exact hw.acts (acts_runPush hp task modOk)
  | close fd sessionId deviceId => exact hw.acts (acts_runClose hp fd sessionId deviceId)
  | revocation scan userId deviceId order io => exact hw.runRevocation hp hadmits.1 hpermits

/-- **The sessions of a worker live lives.** -/
theorem refines_of_reaches (hp : Permissive allowed)
    {condition : WebsocketWorker → WorkerInput → Prop}
    (hpermits : ∀ w input, Refines parser allowed w → w.Admits input → condition w input →
      w.Permits allowed input)
    (hw : w.Reaches parser writer condition) : Refines parser allowed w := by
  induction hw with
  | start => exact refines_start
  | step _ hadmits hcondition ih => exact ih.step hp hadmits (hpermits _ _ ih hadmits hcondition)

/-- In any run, where every move is allowed. -/
theorem refines_of_reaches_any {condition : WebsocketWorker → WorkerInput → Prop}
    (hw : w.Reaches parser writer condition) : Refines parser (fun _ _ => True) w := by
  refine refines_of_reaches ⟨fun _ => trivial, fun _ _ => trivial⟩ ?_ hw
  intro w input _ _ _
  cases input with
  | socket => exact fun _ _ _ _ => trivial
  | timer => exact fun _ _ _ _ => ⟨trivial, fun _ => trivial⟩
  | revocation => exact fun _ _ _ _ _ _ _ => trivial
  | register | reply | push | close => trivial

/-- What holds of the events of every life holds of the events of every session. -/
theorem Refines.of_life {P : List WorkerEvent → Prop} (hw : Refines parser allowed w) (hnil : P [])
    (hlife : ∀ {events result}, Life parser allowed events result → P events) (id : ℕ) :
    P (history id w.log) := by
  rcases hw.past id with hid | ⟨result, hid⟩
  · rw [hid]
    exact hnil
  · exact hlife hid

end ChatBackend
