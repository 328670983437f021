import ChatBackend.Websocket.Refinement

/-!
# What becomes of a batch

`WebsocketWorker::handleReadable` gets a batch from the message handler: messages, whether output was
queued, and a status. It asks for `EPOLLOUT` first, then dispatches the messages one by one, and acts
on the status last. Each message is dumped for a log line before it is dispatched, and dumping throws
if the message is a text that is neither JSON nor UTF-8; then the rest of the batch and its status
are gone.

## Main definitions

* `Processed` — every message is dispatched, and the status takes effect

## Main results

* `processed_iff` — when a batch is processed
-/

namespace ChatBackend

open WebsocketWorker (ReadableInputs answers)

variable {parser : JsonParser} {w : WebsocketWorker} {fd : Fd}

/-- The messages that are dispatched, in order. -/
def requestsOf (events : List WorkerEvent) : List Request :=
  events.filterMap fun
    | .dispatched request => some request
    | _ => none

/-- What is left of a batch after its messages are dispatched is its status. -/
def VerdictTaken (w : WebsocketWorker) (fd : Fd) (result : WebSocketHandleResult) : Prop :=
  match result.status with
  | .messagesReady | .needMoreData => True
  | .peerClosed =>
    if result.outputQueued then w.closing fd = true ∧ (w.sessions fd).isSome
    else w.sessions fd = none
  | .protocolError | .ioError => w.sessions fd = none

/-- **A batch is processed**: each message is dispatched once, in order, and the status takes
effect. -/
def Processed (parser : JsonParser) (w : WebsocketWorker) (fd : Fd) (who : Identity)
    (result : WebSocketHandleResult) (io : ReadableInputs) : Prop :=
  (∃ more, (w.handleReadable parser fd io).1.log = w.log ++ more ∧
    requestsOf more = result.frames.map fun frame => ⟨fd, who, frame⟩) ∧
  VerdictTaken (w.handleReadable parser fd io).1 fd result

/-- The status asks for something that has not been done yet. -/
def Pending (w : WebsocketWorker) (fd : Fd) (result : WebSocketHandleResult) : Prop :=
  result.removal.isSome ∨ result.status = .peerClosed ∧ w.closing fd = false

/-- **When nothing is in the way of a batch**: the worker can ask for `EPOLLOUT`, each message can be
dumped, and no dispatch throws but the last one where nothing comes after it. If the worker cannot
ask for `EPOLLOUT`, it removes the session, which is right if that is all there was to do. -/
def Unhindered (parser : JsonParser) (w : WebsocketWorker) (fd : Fd)
    (result : WebSocketHandleResult) (io : ReadableInputs) : Prop :=
  if result.outputQueued = true ∧ io.modOk = false then
    result.frames = [] ∧ result.status ≠ .peerClosed
  else
    (∀ frame ∈ result.frames, (applicationParse parser frame).dump = true) ∧
      (∀ i, i + 1 < result.frames.length → io.dispatchThrows.getD i false = false) ∧
      (Pending w fd result → ∀ i < result.frames.length, io.dispatchThrows.getD i false = false)

@[simp] theorem requestsOf_append (events more : List WorkerEvent) :
    requestsOf (events ++ more) = requestsOf events ++ requestsOf more :=
  List.filterMap_append

@[simp] theorem requestsOf_dispatched (requests : List Request) :
    requestsOf (requests.map .dispatched) = requests := by
  rw [requestsOf, List.filterMap_map]
  exact List.filterMap_some

theorem requestsOf_answers (who : Identity) (handled : List Frame) :
    requestsOf (answers who handled) = [] := by
  rw [requestsOf, List.filterMap_eq_nil_iff]
  intro event hevent
  obtain ⟨_, -, _, -, rfl⟩ := mem_answers.1 hevent
  rfl

theorem requestsOf_readEvents (entry : Entry) (io : ReadableInputs) :
    requestsOf (entry.readEvents parser io) = (entry.dispatching parser io).1 := by
  rw [Entry.readEvents, requestsOf_append, requestsOf_answers, requestsOf_dispatched,
    List.nil_append]

/-- The verdict dispatches nothing. -/
theorem requestsOf_takeVerdict (session : WebSocketSession) (result : WebSocketHandleResult) :
    ∃ more, (w.takeVerdict fd session result).log = w.log ++ more ∧ requestsOf more = [] := by
  rw [WebsocketWorker.takeVerdict]
  have hremoved (cause : Cause) : ∃ more, (w.removeSession fd cause).log = w.log ++ more ∧
      requestsOf more = [] := by
    refine ⟨_, w.log_removeSession fd cause, ?_⟩
    cases w.sessions fd <;> rfl
  split
  · exact ⟨[], (List.append_nil _).symm, rfl⟩
  · exact ⟨[], (List.append_nil _).symm, rfl⟩
  · split
    · exact ⟨_, rfl, rfl⟩
    · exact hremoved _
  · exact hremoved _
  · exact hremoved _

/-- A verdict that is taken takes effect. -/
theorem verdictTaken_takeVerdict {session : WebSocketSession} (hsession : w.sessions fd = some session)
    (result : WebSocketHandleResult) :
    VerdictTaken (w.takeVerdict fd session result) fd result := by
  rw [VerdictTaken, WebsocketWorker.takeVerdict]
  cases result.status with
  | messagesReady | needMoreData => trivial
  | protocolError | ioError => simp
  | peerClosed =>
    simp only
    split
    · exact ⟨Function.update_self .., by simp [WebsocketWorker.markClosing, hsession]⟩
    · simp

/-- Before it is taken, a verdict has taken effect only if there is nothing to do. -/
theorem verdictTaken_iff {session : WebSocketSession} (hsession : w.sessions fd = some session)
    (result : WebSocketHandleResult) :
    VerdictTaken w fd result ↔ ¬ Pending w fd result := by
  rw [VerdictTaken, Pending, WebSocketHandleResult.removal]
  cases hstatus : result.status with
  | messagesReady | needMoreData => simp
  | protocolError | ioError => simp [hsession]
  | peerClosed =>
    rcases hqueued : result.outputQueued with _ | _
    · simp [hsession]
    · simp [hsession]

/-- A batch after whose answers `epoll_ctl` fails. -/
theorem processed_unarmed {entry : Entry} {io : ReadableInputs} (hentry : w.entry fd = some entry)
    (hdeadline : entry.deadline = none)
    (hqueued : (entry.reading io).result.outputQueued = true) (hmod : io.modOk = false) :
    Processed parser w fd entry.who (entry.reading io).result io ↔
      (entry.reading io).result.frames = [] ∧ (entry.reading io).result.status ≠ .peerClosed := by
  obtain ⟨rfl, hsession, -, hdeadline'⟩ := WebsocketWorker.entry_eq_some.1 hentry
  have hread : w.handleReadable parser entry.fd io =
      w.handleBatch parser entry.fd (entry.reading io) io := by
    rw [WebsocketWorker.handleReadable, hdeadline', hdeadline, hsession]
    rfl
  rw [Processed, hread, handleBatch_unarmed hqueued hmod]
  simp only [WebsocketWorker.log_removeSession, WebsocketWorker.sessions_record,
    WebsocketWorker.sessions_setSession, Function.update_self, Option.toList_some, List.map_cons,
    List.map_nil, WebsocketWorker.log_record, WebsocketWorker.log_setSession]
  refine and_congr ⟨?_, ?_⟩ ?_
  · rintro ⟨more, hlog, hmore⟩
    rw [List.append_assoc] at hlog
    rw [← List.append_cancel_left hlog, requestsOf_append, requestsOf_answers] at hmore
    exact List.map_eq_nil_iff.1 hmore.symm
  · intro hframes
    refine ⟨_, List.append_assoc .., ?_⟩
    rw [requestsOf_append, requestsOf_answers, hframes]
    rfl
  · rw [VerdictTaken]
    cases (entry.reading io).result.status with
    | messagesReady | needMoreData => simp
    | protocolError | ioError => simp
    | peerClosed => simp [hqueued]

/-- A batch whose messages are dispatched until something throws. -/
theorem processed_armed {entry : Entry} {io : ReadableInputs} (hentry : w.entry fd = some entry)
    (hdeadline : entry.deadline = none)
    (hmod : (entry.reading io).result.outputQueued = true → io.modOk = true) :
    Processed parser w fd entry.who (entry.reading io).result io ↔
      (∀ frame ∈ (entry.reading io).result.frames, (applicationParse parser frame).dump = true) ∧
        (∀ i, i + 1 < (entry.reading io).result.frames.length →
          io.dispatchThrows.getD i false = false) ∧
        (Pending w fd (entry.reading io).result →
          ∀ i < (entry.reading io).result.frames.length, io.dispatchThrows.getD i false = false) := by
  obtain ⟨rfl, hsession, -, hdeadline'⟩ := WebsocketWorker.entry_eq_some.1 hentry
  have hread : w.handleReadable parser entry.fd io =
      w.handleBatch parser entry.fd (entry.reading io) io := by
    rw [WebsocketWorker.handleReadable, hdeadline', hdeadline, hsession]
    rfl
  obtain ⟨interest, hbatch⟩ := handleBatch_armed parser w hmod
  have hlog : (w.dispatchedBatch parser entry io interest).log =
      w.log ++ entry.readEvents parser io := rfl
  have hsession' : (w.dispatchedBatch parser entry io interest).sessions entry.fd =
      some (entry.reading io).session := Function.update_self ..
  have hall : (entry.dispatching parser io).1 =
      (entry.reading io).result.frames.map (fun frame => ⟨entry.fd, entry.who, frame⟩) ↔ _ :=
    WebsocketWorker.dispatchFrames_all parser (fun frame => ⟨entry.fd, entry.who, frame⟩)
      (entry.reading io).result.frames io.dispatchThrows
  have hthrew : (entry.dispatching parser io).2 = false ↔ _ :=
    WebsocketWorker.dispatchFrames_threw parser (fun frame => ⟨entry.fd, entry.who, frame⟩)
      (entry.reading io).result.frames io.dispatchThrows
  -- What is dispatched is the same whether the loop throws or not.
  have hrequests (w' : WebsocketWorker) (hw' : ∃ more,
      w'.log = (w.dispatchedBatch parser entry io interest).log ++ more ∧ requestsOf more = []) :
      (∃ more, w'.log = w.log ++ more ∧ requestsOf more =
        (entry.reading io).result.frames.map fun frame => ⟨entry.fd, entry.who, frame⟩) ↔
      (entry.dispatching parser io).1 =
        (entry.reading io).result.frames.map fun frame => ⟨entry.fd, entry.who, frame⟩ := by
    obtain ⟨rest, hrest, hnone⟩ := hw'
    rw [hrest, hlog, List.append_assoc]
    constructor
    · rintro ⟨more, hmore, heq⟩
      rw [← List.append_cancel_left hmore, requestsOf_append, requestsOf_readEvents, hnone,
        List.append_nil] at heq
      exact heq
    · intro heq
      exact ⟨_, rfl, by rw [requestsOf_append, requestsOf_readEvents, hnone, List.append_nil, heq]⟩
  rw [Processed, hread, hbatch]
  rcases hflag : (entry.dispatching parser io).2 with _ | _
  · obtain ⟨hdump, hthrows⟩ := hthrew.1 hflag
    simp only [Bool.false_eq_true, if_false]
    rw [hrequests _ (requestsOf_takeVerdict _ _), hall]
    exact ⟨fun _ => ⟨hdump, fun i hi => hthrows i (by omega), fun _ => hthrows⟩,
      fun h => ⟨⟨h.1, h.2.1⟩, verdictTaken_takeVerdict hsession' _⟩⟩
  · simp only [if_true]
    rw [hrequests _ ⟨[], (List.append_nil _).symm, rfl⟩, hall, verdictTaken_iff hsession',
      ← and_assoc]
    refine and_congr_right fun h => ⟨fun hnot hpending => absurd hpending hnot, fun himp hpending => ?_⟩
    have hnone := hthrew.2 ⟨h.1, himp hpending⟩
    rw [hflag] at hnone
    cases hnone

/-- **When a batch is processed**: exactly if nothing is in its way. -/
theorem processed_iff (parser : JsonParser) (w : WebsocketWorker) (fd : Fd)
    (session : WebSocketSession) (io : ReadableInputs) (hsession : w.sessions fd = some session)
    (hdeadline : w.deadlines fd = none) :
    Processed parser w fd session.identity (handleReadable session io.recvs).result io ↔
      Unhindered parser w fd (handleReadable session io.recvs).result io := by
  have hentry := WebsocketWorker.entry_of_session hsession
  rw [Unhindered]
  split
  · next hunarmed => exact processed_unarmed hentry hdeadline hunarmed.1 hunarmed.2
  · next hunarmed =>
    refine processed_armed hentry hdeadline fun hqueued => ?_
    rw [← Bool.not_eq_false]
    exact fun hmod => hunarmed ⟨hqueued, hmod⟩

/-- A batch of one JSON text is processed. -/
theorem processed_iff_object :
    Processed Sample.objectParser Sample.registered 7 Sample.who
      (handleReadable Sample.openSession [.data Sample.objectChunk 0 0]).result
      ⟨[.data Sample.objectChunk 0 0], true, []⟩ := by
  have hresult : (handleReadable Sample.openSession [.data Sample.objectChunk 0 0]).result =
      ⟨.messagesReady, [Sample.objectFrame], false⟩ := by decide +kernel
  have hdump : (applicationParse Sample.objectParser Sample.objectFrame).dump = true := by
    decide +kernel
  refine (processed_iff Sample.objectParser Sample.registered 7 Sample.openSession
    ⟨[.data Sample.objectChunk 0 0], true, []⟩ Sample.sessions_registered
    Sample.deadlines_registered).2 ?_
  rw [Unhindered, hresult, if_neg (by simp)]
  refine ⟨?_, fun i _ => rfl, fun _ i _ => rfl⟩
  intro frame hframe
  rw [List.mem_singleton.1 hframe]
  exact hdump

/-- A text that is neither JSON nor UTF-8 is in the way of the JSON text behind it. -/
theorem processed_fails :
    ¬ Processed Sample.objectParser Sample.registered 7 Sample.who
      (handleReadable Sample.openSession [.data Sample.strayChunk 0 0]).result
      ⟨[.data Sample.strayChunk 0 0], true, []⟩ := by
  have hresult : (handleReadable Sample.openSession [.data Sample.strayChunk 0 0]).result =
      ⟨.messagesReady, [Sample.strayFrame, Sample.objectFrame], false⟩ := by decide +kernel
  have hdump : (applicationParse Sample.objectParser Sample.strayFrame).dump = false := by
    decide +kernel
  have hentry := WebsocketWorker.entry_of_session Sample.sessions_registered
  intro h
  obtain ⟨hall, -⟩ := (processed_armed hentry Sample.deadlines_registered fun _ => rfl).1 h
  have hstray : Sample.strayFrame ∈
      (handleReadable Sample.openSession [.data Sample.strayChunk 0 0]).result.frames := by
    rw [hresult]
    exact List.mem_cons_self
  have hcontra := hall Sample.strayFrame hstray
  rw [hdump] at hcontra
  cases hcontra

end ChatBackend
