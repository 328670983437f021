import ChatBackend.Traces
import ChatBackend.Websocket.Refinement

/-!
# Closing sessions and business

A session in `closing_sessions_` is on its way out, because it was revoked or because the peer sent a
Close. Replies and pushes for it are dropped. Messages that it still sends are dropped if it was
revoked; but `handleReadable` only looks at `revoke_deadlines_`, so if it is the peer who closes, what
comes after its Close in another `recv` goes to the dispatcher like any message.

## Main definitions

* `WorkerEvent.isBusiness`
* `QuietWhileClosing` — no readable event of a step brings a message of a closing session

## Main results

* `closing_takes_no_business` — what holds of closing sessions, and when
-/

namespace ChatBackend

open Traces (Always always_append always_cons always_nil always_of_forall always_singleton)
open WebsocketWorker (ReadableInputs answers)

variable {parser : JsonParser} {writer : JsonWriter}

/-- A reply or a push is written. -/
def WorkerEvent.isMessage : WorkerEvent → Bool
  | appended _ (.reply _) _ | appended _ (.push _) _ => true
  | _ => false

/-- A message is dispatched, or a reply or a push is written. -/
def WorkerEvent.isBusiness : WorkerEvent → Bool
  | dispatched _ => true
  | event => event.isMessage

/-- A readable event brings a message to the dispatcher: the handler reads one, and neither does
`epoll_ctl` fail before it nor can it not be dumped. -/
def Entry.Dispatches (parser : JsonParser) (entry : Entry) (io : ReadableInputs) : Prop :=
  ((entry.reading io).result.outputQueued = true → io.modOk = true) ∧
    ∃ frame frames, (entry.reading io).result.frames = frame :: frames ∧
      (applicationParse parser frame).dump = true

/-- **No message of a session that the peer is closing is read**, other than one that never gets to
the dispatcher. -/
def QuietWhileClosing (parser : JsonParser) (w : WebsocketWorker) : WorkerInput → Prop
  | .socket fd flags input _ => (flags.err || flags.hup) = false → flags.readable = true →
      ∀ entry, w.entry fd = some entry → entry.closing = true → entry.deadline = none →
        ¬ entry.Dispatches parser input
  | _ => True

/-- The moves of a session that keeps quiet. -/
def QuietMove (parser : JsonParser) (entry : Entry) : Stimulus → Prop
  | .readable io => entry.closing = true → entry.deadline = none → ¬ entry.Dispatches parser io
  | _ => True

theorem permissive_quietMove : Permissive (QuietMove parser) := ⟨fun _ => trivial, fun _ _ => trivial⟩

theorem permits_quietMove {w : WebsocketWorker} {input : WorkerInput}
    (h : QuietWhileClosing parser w input) : w.Permits (QuietMove parser) input := by
  cases input with
  | socket fd flags input output => exact h
  | timer now order modOk => exact fun _ _ _ _ => ⟨trivial, fun _ => trivial⟩
  | revocation scan userId deviceId order io => exact fun _ _ _ _ _ _ _ => trivial
  | register | reply | push | close => trivial

/-- Answering is not business. -/
theorem isBusiness_of_mem_answers {who : Identity} {handled : List Frame} {event : WorkerEvent}
    (h : event ∈ answers who handled) : event.isBusiness = false := by
  obtain ⟨frame, -, reply, -, rfl⟩ := mem_answers.1 h
  by_cases hclose : frame.opcode = .close
  · rw [if_pos hclose]
    rfl
  · rw [if_neg hclose]
    rfl

/-- Writing messages is business. -/
theorem isBusiness_of_isMessage {event : WorkerEvent} (h : event.isMessage = true) :
    event.isBusiness = true := by
  cases event <;> first | exact h | rfl

/-- A message is dispatched only if there is one that gets that far. -/
theorem Entry.dispatches_of_mem {entry : Entry} {io : ReadableInputs} {request : Request}
    (hmod : (entry.reading io).result.outputQueued = true → io.modOk = true)
    (h : request ∈ (entry.dispatching parser io).1) : entry.Dispatches parser io := by
  refine ⟨hmod, ?_⟩
  rw [Entry.dispatching] at h
  rcases hframes : (entry.reading io).result.frames with _ | ⟨frame, frames⟩
  · rw [hframes] at h
    cases h
  · refine ⟨frame, frames, rfl, ?_⟩
    rw [hframes, WebsocketWorker.dispatchFrames] at h
    split at h
    · cases h
    · next hdump => rwa [Bool.not_eq_false] at hdump

/-! ### In one life -/

theorem closing_notMem_readEvents (entry : Entry) (io : ReadableInputs) (id : ℕ) :
    .closing id ∉ entry.readEvents parser io := by
  intro h
  rcases Entry.mem_readEvents h with h | ⟨_, -, h⟩
  · obtain ⟨_, -, _, -, h⟩ := mem_answers.1 h
    cases h
  · cases h

/-- A move says so if it puts the session into `closing_sessions_`. -/
theorem Move.closing_iff {entry entry' : Entry} {stimulus : Stimulus} {events : List WorkerEvent}
    (h : Move parser entry stimulus events (some entry')) :
    entry'.closing = true ↔ entry.closing = true ∨ .closing entry.who.id ∈ events := by
  cases h with
  | threw | read => simp [closing_notMem_readEvents]
  | readClosing => simp
  | sent | ping | message | limit => simp [Entry.write]
  | revoke => simp

/-- A session is in `closing_sessions_` exactly if its history says so. -/
theorem Life.closing_iff {allowed : Entry → Stimulus → Prop} {events : List WorkerEvent}
    {entry : Entry} (h : Life parser allowed events (some entry)) :
    entry.closing = true ↔ .closing entry.who.id ∈ events := by
  generalize hresult : some entry = result at h
  induction h generalizing entry with
  | registered entry' hopen =>
    obtain rfl := Option.some.inj hresult
    simp [hopen]
  | step h _ hmove ih =>
    subst hresult
    rw [hmove.closing_iff, ih rfl, (hmove.concerns.2 entry rfl).1, List.mem_append]

/-- What is in order, as to business, after the events of a session so far. -/
def Quiet (isBusiness : WorkerEvent → Bool) (before : List WorkerEvent) (event : WorkerEvent) :
    Prop :=
  .closing event.id ∈ before → isBusiness event = false

/-- A session only has business while it is open, except that messages may be dispatched that are
read while it is closing. -/
theorem Move.open_of_business {entry : Entry} {stimulus : Stimulus} {events : List WorkerEvent}
    {result : Option Entry} (h : Move parser entry stimulus events result) {event : WorkerEvent}
    (hevent : event ∈ events) (hbusiness : event.isBusiness = true) :
    entry.closing = false ∨ event.isMessage = false ∧
      ∃ io, stimulus = .readable io ∧ entry.deadline = none ∧ entry.Dispatches parser io := by
  -- In a reading, only the requests are business.
  have hread {io : ReadableInputs} (hdeadline : entry.deadline = none)
      (hmod : (entry.reading io).result.outputQueued = true → io.modOk = true)
      (hevent : event ∈ entry.readEvents parser io) : event.isMessage = false ∧
        ∃ io', Stimulus.readable io = .readable io' ∧ entry.deadline = none ∧
          entry.Dispatches parser io' := by
    rcases Entry.mem_readEvents hevent with hanswer | ⟨request, hrequest, rfl⟩
    · rw [isBusiness_of_mem_answers hanswer] at hbusiness
      cases hbusiness
    · exact ⟨rfl, io, rfl, hdeadline, Entry.dispatches_of_mem hmod hrequest⟩
  cases h with
  | unarmedReading =>
    rcases List.mem_append.1 hevent with hanswer | hremoved
    · rw [isBusiness_of_mem_answers hanswer] at hbusiness
      cases hbusiness
    · rw [List.mem_singleton.1 hremoved] at hbusiness
      cases hbusiness
  | threw hdeadline hmod | read hdeadline hmod => exact .inr (hread hdeadline hmod hevent)
  | readClosing hdeadline hmod | readRemoved hdeadline hmod =>
    rcases List.mem_append.1 hevent with hevent | hlast
    · exact .inr (hread hdeadline hmod hevent)
    · rw [List.mem_singleton.1 hlast] at hbusiness
      cases hbusiness
  | message _ hopen => exact .inl hopen
  | revoke _ hopen => exact .inl hopen
  | unarmedRevoke hopen => exact .inl hopen
  | limit => cases hevent
  | sent | drained | sendFailed | unarmed | ping | expired | hangup | halfClosed | closeTask =>
    rw [List.mem_singleton.1 hevent] at hbusiness
    cases hbusiness

/-- In a move, business comes before the session is put into `closing_sessions_`. -/
theorem Move.business_before_closing {entry : Entry} {stimulus : Stimulus}
    {events : List WorkerEvent} {result : Option Entry}
    (h : Move parser entry stimulus events result) :
    Always (Quiet WorkerEvent.isBusiness) events := by
  have hread (io : ReadableInputs) : Always (Quiet WorkerEvent.isBusiness)
      (entry.readEvents parser io) := by
    intro before event after heq hclosing
    exact absurd (by rw [heq]; exact List.mem_append_left _ hclosing)
      (closing_notMem_readEvents entry io event.id)
  cases h with
  | unarmedReading =>
    refine always_append.2 ⟨?_, always_singleton.2 fun _ => rfl⟩
    exact always_of_forall fun event hevent _ _ => isBusiness_of_mem_answers hevent
  | threw | read => exact hread _
  | readClosing | readRemoved => exact always_append.2 ⟨hread _, always_singleton.2 fun _ => rfl⟩
  | limit => exact always_nil
  | revoke => exact always_of_forall (by simp [Quiet, WorkerEvent.isBusiness, WorkerEvent.isMessage])
  | unarmedRevoke =>
    exact always_of_forall (by simp [Quiet, WorkerEvent.isBusiness, WorkerEvent.isMessage])
  | message =>
    rw [always_singleton]
    simp [Quiet]
  | sent | drained | sendFailed | unarmed | ping | expired | hangup | halfClosed | closeTask =>
    exact always_of_forall (by simp [Quiet, WorkerEvent.isBusiness, WorkerEvent.isMessage])

/-- Business that is only done with open sessions is in order in every life. -/
theorem Life.quiet {allowed : Entry → Stimulus → Prop} {isBusiness : WorkerEvent → Bool}
    (hsub : ∀ event, isBusiness event = true → event.isBusiness = true)
    (hopen : ∀ {entry stimulus events result}, allowed entry stimulus →
      Move parser entry stimulus events result → ∀ event ∈ events, isBusiness event = true →
        entry.closing = false)
    {events : List WorkerEvent} {result : Option Entry} (h : Life parser allowed events result) :
    Always (Quiet isBusiness) events := by
  induction h with
  | registered =>
    rw [always_singleton]
    intro hclosing
    cases hclosing
  | @step events more entry result stimulus h hallowed hmove ih =>
    refine always_append.2 ⟨ih, ?_⟩
    rintro before event after rfl hclosing
    rw [← Bool.not_eq_true]
    intro hbusiness
    have hid : event.id = entry.who.id := hmove.concerns.1 event (by simp)
    rcases List.mem_append.1 hclosing with hclosing | hclosing
    · have hentry := hopen hallowed hmove event (by simp) hbusiness
      rw [hid, ← h.closing_iff, hentry] at hclosing
      cases hclosing
    · have horder := hmove.business_before_closing before event after rfl hclosing
      rw [hsub event hbusiness] at horder
      cases horder

/-! ### In a worker -/

/-- Replies and pushes, in any run. -/
theorem quiet_isMessage_of_reaches {condition : WebsocketWorker → WorkerInput → Prop}
    {w : WebsocketWorker} (hw : w.Reaches parser writer condition) (id : ℕ) :
    Always (Quiet WorkerEvent.isMessage) (history id w.log) := by
  refine (refines_of_reaches_any hw).of_life always_nil (fun hlife => ?_) id
  refine hlife.quiet (fun event => isBusiness_of_isMessage) ?_
  intro entry stimulus events result _ hmove event hevent hmessage
  rcases hmove.open_of_business hevent (isBusiness_of_isMessage hmessage) with hopen | ⟨hno, -⟩
  · exact hopen
  · rw [hno] at hmessage
    cases hmessage

/-- All business, in a run without such readable events. -/
theorem quiet_isBusiness_of_reaches {w : WebsocketWorker}
    (hw : w.Reaches parser writer (QuietWhileClosing parser)) (id : ℕ) :
    Always (Quiet WorkerEvent.isBusiness) (history id w.log) := by
  have hrefines : Refines parser (QuietMove parser) w :=
    refines_of_reaches permissive_quietMove (fun _ _ _ _ => permits_quietMove) hw
  refine hrefines.of_life always_nil (fun hlife => ?_) id
  refine hlife.quiet (fun _ hbusiness => hbusiness) ?_
  intro entry stimulus events result hallowed hmove event hevent hbusiness
  rcases hmove.open_of_business hevent hbusiness with hopen | ⟨-, io, rfl, hdeadline, hdispatches⟩
  · exact hopen
  · rw [← Bool.not_eq_true]
    exact fun hclosing => hallowed hclosing hdeadline hdispatches

/-- A readable event that brings a message to the dispatcher has it dispatched. -/
theorem exists_dispatched {w : WebsocketWorker} {entry : Entry} {io : ReadableInputs}
    (hdispatches : entry.Dispatches parser io) :
    ∃ request more, request.who = entry.who ∧ .dispatched request ∈ more ∧
      (w.handleBatch parser entry.fd (entry.reading io) io).1.log = w.log ++ more := by
  obtain ⟨hmod, frame, frames, hframes, hdump⟩ := hdispatches
  have hrequest : ⟨entry.fd, entry.who, frame⟩ ∈ (entry.dispatching parser io).1 := by
    rw [Entry.dispatching, hframes, WebsocketWorker.dispatchFrames, if_neg (by simp [hdump])]
    split <;> exact List.mem_cons_self
  have hevent : .dispatched ⟨entry.fd, entry.who, frame⟩ ∈ entry.readEvents parser io :=
    List.mem_append_right _ (List.mem_map.2 ⟨_, hrequest, rfl⟩)
  obtain ⟨interest, hbatch⟩ := handleBatch_armed parser w hmod
  have hlog : (w.dispatchedBatch parser entry io interest).log =
      w.log ++ entry.readEvents parser io := rfl
  refine ⟨⟨entry.fd, entry.who, frame⟩, ?_⟩
  rw [hbatch]
  split
  · exact ⟨entry.readEvents parser io, rfl, hevent, hlog⟩
  · obtain ⟨more, hmore⟩ := (w.dispatchedBatch parser entry io interest).log_takeVerdict entry.fd
      (entry.reading io).session (entry.reading io).result
    refine ⟨entry.readEvents parser io ++ more, rfl, List.mem_append_left _ hevent, ?_⟩
    rw [hmore, hlog, List.append_assoc]

/-- **A step that does not keep quiet** has a message dispatched of a session that is closing. -/
theorem not_quiet_of_step (writer : JsonWriter) {w : WebsocketWorker} (hw : Refines parser (fun _ _ => True) w)
    {input : WorkerInput} (h : ¬ QuietWhileClosing parser w input) :
    ∃ id, ¬ Always (Quiet WorkerEvent.isBusiness) (history id (w.step parser writer input).log) := by
  cases input with
  | socket fd flags input output =>
    simp only [QuietWhileClosing, Classical.not_imp, not_forall, not_not] at h
    obtain ⟨hhangup, hreadable, entry, hentry, hclosing, hdeadline, hdispatches⟩ := h
    obtain ⟨rfl, hsession, -, hdeadline'⟩ := WebsocketWorker.entry_eq_some.1 hentry
    obtain ⟨request, more, hwho, hmem, hlog⟩ := exists_dispatched (w := w) hdispatches
    have hread : w.handleReadable parser entry.fd input =
        w.handleBatch parser entry.fd (entry.reading input) input := by
      rw [WebsocketWorker.handleReadable, hdeadline', hdeadline, hsession]
      rfl
    -- What comes after the reading does not take back what it has logged.
    obtain ⟨rest, hrest⟩ : ∃ rest,
        (w.step parser writer (.socket entry.fd flags input output)).log = w.log ++ more ++ rest := by
      rw [← hlog, ← hread]
      change ∃ rest, (w.socketEvent parser entry.fd flags input output).log = _
      rw [WebsocketWorker.socketEvent, hhangup, if_neg Bool.false_ne_true, if_pos hreadable]
      split
      · next h => exact ⟨[], by rw [h, List.append_nil]⟩
      · next w₁ h =>
        have hfinish : Acts parser (fun _ _ => True) entry.fd w₁ (w₁.finishEvent entry.fd flags output) :=
          acts_finishEvent ⟨fun _ => trivial, fun _ _ => trivial⟩ flags output
        obtain ⟨rest, hrest, -⟩ := hfinish.moves
        exact ⟨rest, by rw [h, hrest]⟩
    have hclosed := ((hw.present entry.fd entry hentry).closing_iff).1 hclosing
    refine ⟨entry.who.id, fun halways => ?_⟩
    rw [hrest, history_append, history_append] at halways
    have hmore := (always_append.1 (always_append.1 halways).1).2
    obtain ⟨before, after, hsplit⟩ := List.append_of_mem
      (mem_history.2 ⟨hmem, congrArg Identity.id hwho⟩)
    have hid : (WorkerEvent.dispatched request).id = entry.who.id := congrArg Identity.id hwho
    have hquiet : Quiet WorkerEvent.isBusiness (history entry.who.id w.log ++ before)
      (.dispatched request) := hmore before _ after hsplit
    rw [Quiet, hid] at hquiet
    cases hquiet (List.mem_append_left _ hclosed)
  | register | timer | reply | push | close | revocation => exact absurd trivial h

/-- **A closing session takes no business, if it keeps quiet.** A session is in `closing_sessions_`
exactly if its history says so. From then on, no reply and no push is written to it, in any run; and
no message of it is dispatched, in a run in which no readable event brings one of a session that is
in `closing_sessions_` and not in `revoke_deadlines_`. A step with such an event has that message
dispatched. -/
theorem closing_takes_no_business (parser : JsonParser) (writer : JsonWriter) (w : WebsocketWorker) :
    (w.Reaches parser writer (fun _ _ => True) →
      (∀ fd session, w.sessions fd = some session →
        (w.closing fd = true ↔ .closing session.id ∈ w.log)) ∧
      (∀ id before event after, history id w.log = before ++ event :: after →
        .closing id ∈ before → event.isMessage = false) ∧
      ∀ input, ¬ QuietWhileClosing parser w input →
        ∃ id before event after,
          history id (w.step parser writer input).log = before ++ event :: after ∧
          .closing id ∈ before ∧ event.isBusiness = true) ∧
    (w.Reaches parser writer (QuietWhileClosing parser) →
      ∀ id before event after, history id w.log = before ++ event :: after →
        .closing id ∈ before → event.isBusiness = false) := by
  have hid : ∀ {log id before event after}, history id log = before ++ event :: after →
      event.id = id := by
    intro log id before event after heq
    have hmem : event ∈ history id log := by simp [heq]
    exact (mem_history.1 hmem).2
  constructor
  · intro hw
    have hrefines := refines_of_reaches_any hw
    refine ⟨?_, ?_, ?_⟩
    · intro fd session hsession
      have hlife := hrefines.present fd _ (WebsocketWorker.entry_of_session hsession)
      rw [hlife.closing_iff, mem_history]
      exact and_iff_left rfl
    · intro id before event after heq hclosing
      have hquiet := quiet_isMessage_of_reaches hw id before event after heq
      rw [Quiet, hid heq] at hquiet
      exact hquiet hclosing
    · intro input hinput
      obtain ⟨id, hnot⟩ := not_quiet_of_step writer hrefines hinput
      simp only [Always, not_forall] at hnot
      obtain ⟨before, event, after, heq, hquiet⟩ := hnot
      rw [Quiet, hid heq, Classical.not_imp, Bool.not_eq_false] at hquiet
      exact ⟨id, before, event, after, heq, hquiet⟩
  · intro hw id before event after heq hclosing
    have hquiet := quiet_isBusiness_of_reaches hw id before event after heq
    rw [Quiet, hid heq] at hquiet
    exact hquiet hclosing

/-- The session of device 2 sends its Close, which puts it into `closing_sessions_`, and then a Ping,
which is no business. -/
theorem closing_takes_no_business_ping : .closing 1 ∈ Sample.afterCloseAndPing.log ∧
    ∀ id before event after, history id Sample.afterCloseAndPing.log = before ++ event :: after →
      .closing id ∈ before → event.isBusiness = false := by
  have hopen : ∀ entry ∈ Sample.registered.entry 7, entry.closing = false := by decide +kernel
  have hbefore : Sample.afterClose.Reaches Sample.objectParser Sample.noWriter
      (QuietWhileClosing Sample.objectParser) := by
    refine Sample.reaches_afterClose trivial fun _ _ entry hentry hclosing => ?_
    rw [hopen entry hentry] at hclosing
    cases hclosing
  have hframes : ∀ entry ∈ Sample.afterClose.entry 7,
      (entry.reading ⟨[.data Sample.pingChunk 0 0], true, []⟩).result.frames = [] := by decide +kernel
  have hreaches : Sample.afterCloseAndPing.Reaches Sample.objectParser Sample.noWriter
      (QuietWhileClosing Sample.objectParser) := by
    refine hbefore.step trivial fun _ _ entry hentry _ _ hdispatches => ?_
    obtain ⟨-, frame, frames, hread, -⟩ := hdispatches
    rw [hframes entry hentry] at hread
    cases hread
  obtain ⟨hany, hquiet⟩ :=
    closing_takes_no_business Sample.objectParser Sample.noWriter Sample.afterCloseAndPing
  refine ⟨?_, hquiet hreaches⟩
  have hsession : Sample.afterCloseAndPing.sessions 7 = some ⟨1, 1, 2, ⟨[], frameEncoder
      Sample.closeFrame ++ frameEncoder ⟨true, .pong, []⟩⟩, 0, 0, false, true⟩ := by decide +kernel
  have hclosing : Sample.afterCloseAndPing.closing 7 = true := by decide +kernel
  exact ((hany ((Sample.reaches_afterClose trivial trivial).step trivial trivial)).1 7 _
    hsession).1 hclosing

/-- The session of device 2 sends its Close, which puts it into `closing_sessions_`, and then a
Text; the Text is dispatched. -/
theorem closing_takes_no_business_fails :
    Sample.afterCloseAndText.Reaches Sample.objectParser Sample.noWriter (fun _ _ => True) ∧
      ∃ id before event after,
        history id Sample.afterCloseAndText.log = before ++ event :: after ∧
        .closing id ∈ before ∧ event.isBusiness = true := by
  have hreaches : Sample.afterClose.Reaches Sample.objectParser Sample.noWriter (fun _ _ => True) :=
    Sample.reaches_afterClose trivial trivial
  have hentry := WebsocketWorker.entry_of_session Sample.sessions_afterClose
  rw [Sample.closing_afterClose, Sample.deadlines_afterClose] at hentry
  have hframes : (handleReadable Sample.closingSession
      [.data Sample.objectChunk 0 0]).result.frames = [Sample.objectFrame] := by decide +kernel
  have hdump : (applicationParse Sample.objectParser Sample.objectFrame).dump = true := by
    decide +kernel
  have hinput : ¬ QuietWhileClosing Sample.objectParser Sample.afterClose
      (Sample.arrival [.data Sample.objectChunk 0 0]) := fun h =>
    h rfl rfl _ hentry rfl rfl ⟨fun _ => rfl, Sample.objectFrame, [], hframes, hdump⟩
  obtain ⟨id, hnot⟩ := not_quiet_of_step Sample.noWriter (refines_of_reaches_any hreaches) hinput
  simp only [Always, not_forall] at hnot
  obtain ⟨before, event, after, heq, hquiet⟩ := hnot
  have hid : event.id = id := (mem_history.1 (by rw [heq]; simp)).2
  rw [Quiet, hid, Classical.not_imp, Bool.not_eq_false] at hquiet
  exact ⟨hreaches.step trivial trivial, id, before, event, after, heq, hquiet⟩

end ChatBackend
