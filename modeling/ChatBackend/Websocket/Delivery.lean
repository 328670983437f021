import ChatBackend.Websocket.Batch

/-!
# What TCP makes of a stream

The bytes that a peer sends arrive in as many pieces as TCP likes: each `recv` brings up to 1024 of
them, and each readable event reads until there are no more for now. The frames are the same however
the stream is cut, but what the program does with them is not, as frames that it has parsed are given
up in three places: those of one `recv` if the stream turns out to be malformed in it; those behind a
Close that are parsed along with it; and those of an event behind a message at which the dispatch loop
ends, along with the verdict on the event.

## Main definitions

* `WebsocketWorker.readStream` — readable events until all of a stream is read
* `Finish`, `Ended` — how a readable event ends, and what it leaves
* `outcomeOf` — what comes of a stream of which nothing is given up

## Main results

* `ended_readLoop` — how a readable event ends
* `event_of_ended` — when it gives nothing up
* `comes_of_event` — and then what comes of the stream is up to the rest
-/

namespace ChatBackend

open Streaming
open WebsocketWorker (ReadableInputs)

variable {parser : JsonParser} {throws : Frame → Bool} {buffer bytes pre last : Bytes}
  {session : WebSocketSession}

/-! ### Deliveries -/

/-- What `recv` brings while the peer is there and nothing fails: bytes, or nothing for now. -/
def Recv.delivers : Recv → Bool
  | data .. | interrupted | again => true
  | closed | failed => false

theorem length_readLoop (progress : Progress) (recvs : List Recv) :
    (readLoop progress recvs).2.length ≤ recvs.length - 1 := by
  induction recvs generalizing progress with
  | nil => exact Nat.le_refl _
  | cons recv recvs ih =>
    cases recv with
    | closed | failed | again => exact Nat.le_refl _
    | interrupted =>
      rw [readLoop]
      exact (ih progress).trans (by simp)
    | data chunk now pongAt =>
      rw [readLoop]
      split
      · exact Nat.le_refl _
      · split
        · exact (ih _).trans (by simp)
        · exact Nat.le_refl _

/-- A readable event in which nothing fails, and `dispatch` throws for some of the messages. -/
def readableInputs (throws : Frame → Bool) (session : WebSocketSession) (recvs : List Recv) :
    ReadableInputs :=
  ⟨recvs, true, (handleReadable session recvs).result.frames.map throws⟩

/-- **A delivery**: one readable event after the other, until the session is gone or all that `recv`
has to give is read. Nothing fails, and for which messages `dispatch` throws is up to the messages. -/
def WebsocketWorker.readStream (parser : JsonParser) (throws : Frame → Bool) (w : WebsocketWorker)
    (fd : Fd) (recvs : List Recv) : WebsocketWorker :=
  match recvs, w.sessions fd with
  | recv :: recvs, some session =>
    readStream parser throws
      (w.handleReadable parser fd (readableInputs throws session (recv :: recvs))).1 fd
      (readLoop (.start session) (recv :: recvs)).2
  | _, _ => w
termination_by recvs.length
decreasing_by
  have h := length_readLoop (.start session) (recv :: recvs)
  rw [List.length_cons, Nat.add_sub_cancel] at h
  exact Nat.lt_succ_of_le h

/-- How a session stands after a delivery. -/
inductive DeliveryStatus where
  | stillOpen
  | peerClosed
  | protocolError
  deriving DecidableEq, Repr

/-- The status of a session; in a delivery only a violation of the protocol removes it. -/
def WebsocketWorker.deliveryStatus (w : WebsocketWorker) (fd : Fd) : DeliveryStatus :=
  if (w.sessions fd).isNone then .protocolError
  else if w.closing fd then .peerClosed
  else .stillOpen

/-- **What a delivery comes to**: the messages that the dispatcher has been handed, and the status. -/
def WebsocketWorker.handedOver (w : WebsocketWorker) (fd : Fd) : List Request × DeliveryStatus :=
  (requestsOf w.log, w.deliveryStatus fd)

variable {w w' : WebsocketWorker} {fd : Fd} {who : Identity}

theorem readStream_nil : w.readStream parser throws fd [] = w := by
  rw [WebsocketWorker.readStream.eq_def]

theorem readStream_of_none (h : w.sessions fd = none) (recvs : List Recv) :
    w.readStream parser throws fd recvs = w := by
  rw [WebsocketWorker.readStream.eq_def, h]
  cases recvs <;> rfl

theorem readStream_cons (h : w.sessions fd = some session) (recv : Recv) (recvs : List Recv) :
    w.readStream parser throws fd (recv :: recvs) =
      (w.handleReadable parser fd (readableInputs throws session (recv :: recvs))).1.readStream parser
        throws fd (readLoop (.start session) (recv :: recvs)).2 := by
  rw [WebsocketWorker.readStream.eq_def, h]

/-- A session with a deadline is not read. -/
theorem readStream_of_deadline {deadline : SteadyTime} (h : w.deadlines fd = some deadline)
    (recvs : List Recv) : w.readStream parser throws fd recvs = w := by
  induction hn : recvs.length using Nat.strongRecOn generalizing recvs with
  | _ n ih =>
    rcases hsession : w.sessions fd with _ | session
    · exact readStream_of_none hsession recvs
    · cases recvs with
      | nil => exact readStream_nil
      | cons recv recvs =>
        have hlength := length_readLoop (.start session) (recv :: recvs)
        rw [List.length_cons, Nat.add_sub_cancel] at hlength
        have hsame : (w.handleReadable parser fd
            (readableInputs throws session (recv :: recvs))).1 = w := by
          rw [WebsocketWorker.handleReadable, h]
          rfl
        rw [readStream_cons hsession, hsame]
        refine ih _ ?_ _ rfl
        rw [← hn, List.length_cons]
        exact Nat.lt_succ_of_le hlength

/-! ### Frames -/

/-- A fragment of a message; the handler takes it for a violation of the protocol. -/
def Frame.isFragment (frame : Frame) : Bool := frame.stops = some .protocolError

/-- The frame is a message that can be dumped. -/
def Frame.dumps (parser : JsonParser) (frame : Frame) : Bool :=
  frame.isMessage && (applicationParse parser frame).dump

/-- The frame is a message at which the dispatch loop ends: it cannot be dumped, or its dispatch
throws. -/
def Frame.halts (parser : JsonParser) (throws : Frame → Bool) (frame : Frame) : Bool :=
  frame.isMessage && (!(applicationParse parser frame).dump || throws frame)

/-- What is due to the dispatcher: the messages before the first fragment that can be dumped. -/
def dueOf (parser : JsonParser) (items : List Frame) : List Frame :=
  (items.takeWhile fun frame => !frame.isFragment).filter (Frame.dumps parser)

theorem isFragment_of_stops {frame : Frame} (h : frame.stops = none) : frame.isFragment = false := by
  rw [Frame.isFragment, h]
  rfl

theorem isMessage_of_stops {frame : Frame} (h : frame.stops ≠ none) : frame.isMessage = false := by
  obtain ⟨fin, opcode, payload⟩ := frame
  cases opcode <;> cases fin <;> simp [Frame.stops, Frame.isMessage] at h ⊢

theorem stops_of_close {frame : Frame} (h : frame.opcode = .close) :
    frame.stops = some .peerClosed := by
  rw [Frame.stops, h]

theorem stops_ne_none_of_close {frame : Frame} (h : frame.opcode = .close) : frame.stops ≠ none := by
  rw [stops_of_close h]
  exact Option.some_ne_none _

theorem isFragment_of_close {frame : Frame} (h : frame.opcode = .close) :
    frame.isFragment = false := by
  rw [Frame.isFragment, stops_of_close h]
  rfl

theorem stops_of_isFragment {frame : Frame} (h : frame.isFragment = true) : frame.stops ≠ none := by
  rw [of_decide_eq_true h]
  exact Option.some_ne_none _

/-- A frame that ends the reading is a Close or a fragment. -/
theorem stops_cases {frame : Frame} (h : frame.stops ≠ none) :
    (frame.opcode = .close ∧ frame.stops = some .peerClosed) ∨
      (frame.isFragment = true ∧ frame.stops = some .protocolError) := by
  rw [Frame.isFragment]
  obtain ⟨fin, opcode, payload⟩ := frame
  cases opcode <;> cases fin <;> simp [Frame.stops] at h ⊢

/-- Where no frame ends the reading there is no Close. -/
theorem any_close_of_stops {frames : List Frame} (h : ∀ frame ∈ frames, frame.stops = none) :
    (frames.any fun frame => frame.opcode = .close) = false := by
  rw [List.any_eq_false]
  intro frame hframe hclose
  have hstops := h frame hframe
  rw [stops_of_close (of_decide_eq_true hclose)] at hstops
  cases hstops

theorem dueOf_of_unbroken {items : List Frame} (h : ∀ frame ∈ items, frame.isFragment = false) :
    dueOf parser items = items.filter (Frame.dumps parser) := by
  rw [dueOf, List.takeWhile_eq_self_iff.2 fun frame hframe => by rw [h frame hframe]; rfl]

theorem dueOf_append {items more : List Frame} (h : ∀ frame ∈ items, frame.isFragment = false) :
    dueOf parser (items ++ more) = items.filter (Frame.dumps parser) ++ dueOf parser more := by
  rw [dueOf, List.takeWhile_append_of_pos fun frame hframe => by rw [h frame hframe]; rfl,
    List.filter_append]
  rfl

/-- Behind a fragment nothing is due. -/
theorem dueOf_fragment {before : List Frame} {fragment : Frame}
    (h : ∀ frame ∈ before, frame.isFragment = false) (hfragment : fragment.isFragment = true)
    (after : List Frame) :
    dueOf parser (before ++ fragment :: after) = before.filter (Frame.dumps parser) := by
  rw [dueOf_append h, dueOf, List.takeWhile_cons_of_neg (by simp [hfragment])]
  exact List.append_nil _

/-! ### Where a delivery stands -/

/-- The frames that have been parsed when some bytes have come in behind what was in the buffer;
nothing is parsed before any have. -/
def itemsAfter (buffer pre : Bytes) : List Frame :=
  if pre = [] then [] else (framing.parse (buffer ++ pre)).items

/-- The stream is found malformed. -/
def malformedAfter (buffer pre : Bytes) : Bool :=
  pre ≠ [] && (framing.parse (buffer ++ pre)).malformed

/-- **The frames that one `recv` completes**, and whether the stream is found malformed in it; what
came before is not malformed and has no fragment among its frames. -/
structure Completes (buffer pre : Bytes) (chunk : Chunk) (new : List Frame) (malformed : Bool) :
    Prop where
  valid : malformedAfter buffer pre = false
  unbroken : ∀ frame ∈ itemsAfter buffer pre, frame.isFragment = false
  items : itemsAfter buffer (pre ++ chunk.bytes) = itemsAfter buffer pre ++ new
  malformed : malformedAfter buffer (pre ++ chunk.bytes) = malformed

/-- **Where a delivery stands** between two calls of `FrameParse`: the rest of the stream, read on its
own with what is in the buffer, is what has not been read yet. -/
structure Stand (buffer pre : Bytes) (session : WebSocketSession) : Prop where
  items : ∀ more, (framing.parse (buffer ++ (pre ++ more))).items =
    itemsAfter buffer pre ++ (framing.parse (session.connection.inputBuffer ++ more)).items
  malformed : ∀ more, (framing.parse (buffer ++ (pre ++ more))).malformed =
    (framing.parse (session.connection.inputBuffer ++ more)).malformed

theorem stand_start (session : WebSocketSession) : Stand session.connection.inputBuffer [] session :=
  ⟨fun _ => rfl, fun _ => rfl⟩

theorem itemsAfter_of_ne_nil (buffer : Bytes) (h : pre ≠ []) :
    itemsAfter buffer pre = (framing.parse (buffer ++ pre)).items := if_neg h

theorem malformedAfter_of_ne_nil (buffer : Bytes) (h : pre ≠ []) :
    malformedAfter buffer pre = (framing.parse (buffer ++ pre)).malformed := by
  rw [malformedAfter, decide_eq_true h, Bool.true_and]

theorem append_chunk_ne_nil (pre : Bytes) (chunk : Chunk) : pre ++ chunk.bytes ≠ [] := fun h =>
  chunk.ne_nil (List.append_eq_nil_iff.1 h).2

/-- More of the stream adds frames, but none to a malformed one. -/
theorem itemsAfter_append (buffer pre more : Bytes) :
    ∃ extra, itemsAfter buffer (pre ++ more) = itemsAfter buffer pre ++ extra ∧
      (malformedAfter buffer pre = true →
        malformedAfter buffer (pre ++ more) = true ∧ extra = []) := by
  by_cases hpre : pre = []
  · subst hpre
    exact ⟨itemsAfter buffer more, rfl, fun h => by cases h⟩
  · have hne : pre ++ more ≠ [] := fun h => hpre (List.append_eq_nil_iff.1 h).1
    obtain ⟨extra, hextra⟩ := Framing.items_prefix (F := framing) (buffer ++ pre) more
    rw [itemsAfter_of_ne_nil _ hne, itemsAfter_of_ne_nil _ hpre, malformedAfter_of_ne_nil _ hne,
      malformedAfter_of_ne_nil _ hpre, ← List.append_assoc]
    refine ⟨extra, hextra.symm, fun hmalformed => ?_⟩
    rw [Framing.parse_append_of_malformed hmalformed] at hextra ⊢
    exact ⟨hmalformed, by simpa using hextra⟩

/-- **One call of `FrameParse`** on more bytes that finds nothing malformed. -/
theorem Stand.receive (h : Stand buffer pre session) {session' : WebSocketSession} {chunk : Chunk}
    {received : Bytes} (hreceived : session.connection.inputBuffer ++ chunk.bytes = received)
    (hvalid : (framing.parse received).malformed = false)
    (hrest : session'.connection.inputBuffer = received.drop (framing.parse received).taken) :
    Stand buffer (pre ++ chunk.bytes) session' where
  items := by
    intro more
    rw [itemsAfter_of_ne_nil _ (append_chunk_ne_nil pre chunk), List.append_assoc, h.items, h.items,
      ← List.append_assoc, hreceived, Framing.parse_append hvalid, hrest, List.append_assoc]
  malformed := by
    intro more
    rw [List.append_assoc, h.malformed, ← List.append_assoc, hreceived, Framing.parse_append hvalid,
      hrest]

/-! ### How a readable event ends -/

/-- **How a readable event ends**, and the frames that it has parsed and leaves: it reads on later; or
a Close or a fragment has ended it; or the stream is found malformed. -/
inductive Finish where
  | ongoing
  | closed (close : Frame) (tail : List Frame)
  | broken (fragment : Frame) (tail : List Frame)
  | malformed (new : List Frame)

namespace Finish

/-- What was parsed from where the event ends. -/
def rest : Finish → List Frame
  | ongoing => []
  | closed close tail => close :: tail
  | broken fragment tail => fragment :: tail
  | malformed new => new

/-- The frame that ended the event; it was handled. -/
def final : Finish → List Frame
  | ongoing | malformed _ => []
  | closed close _ => [close]
  | broken fragment _ => [fragment]

def isMalformed : Finish → Bool
  | malformed _ => true
  | ongoing | closed .. | broken .. => false

/-- The frame is what it is said to be, and so is the status. -/
def Fits (status : WebSocketHandleStatus) : Finish → Prop
  | ongoing => status = .messagesReady ∨ status = .needMoreData
  | closed close _ => close.opcode = .close ∧ status = .peerClosed
  | broken fragment _ => fragment.isFragment = true ∧ status = .protocolError
  | malformed _ => status = .protocolError

end Finish

/-- **A readable event** that has read the stream up to here; `items` are the frames from before it, and
`front` are those that it has handled before it ends. -/
structure Ended (buffer last : Bytes) (items front : List Frame) (finish : Finish)
    (progress : Progress) : Prop where
  unstopped : ∀ frame ∈ front, frame.stops = none
  handled : progress.handled = front ++ finish.final
  items : itemsAfter buffer last = items ++ (front ++ finish.rest)
  malformed : malformedAfter buffer last = finish.isMalformed
  stand : finish.isMalformed = false → Stand buffer last progress.session
  fits : finish.Fits progress.result.status

/-- The `recv` that ends an event, and what it completes. -/
def EndsWith (buffer pre : Bytes) (chunk : Chunk) (items front : List Frame) (finish : Finish) :
    Prop :=
  finish ≠ .ongoing ∧ ∃ earlier before, front = earlier ++ before ∧ itemsAfter buffer pre = items ++ earlier ∧
    Completes buffer pre chunk (before ++ finish.rest) finish.isMalformed ∧
    (finish.isMalformed = true → before = [])

/-- Between two `recv`s of an event. -/
structure Underway (buffer pre : Bytes) (session : WebSocketSession) (items : List Frame)
    (progress : Progress) : Prop where
  follows : progress.Follows session
  unstopped : ∀ frame ∈ progress.handled, frame.stops = none
  status : progress.result.status = .needMoreData
  unbroken : ∀ frame ∈ items, frame.isFragment = false
  items : itemsAfter buffer pre = items ++ progress.handled
  stand : Stand buffer pre progress.session
  valid : malformedAfter buffer pre = false

variable {items : List Frame} {progress : Progress}

/-- When `recv` would block, the event ends for now. -/
theorem Underway.again (h : Underway buffer pre session items progress) :
    Ended buffer pre items progress.handled .ongoing
      (if progress.result.frames = [] then progress else progress.stop .messagesReady) := by
  have hitems : itemsAfter buffer pre = items ++ (progress.handled ++ []) := by
    rw [List.append_nil]
    exact h.items
  split
  · exact ⟨h.unstopped, (List.append_nil _).symm, hitems, h.valid, fun _ => h.stand, .inr h.status⟩
  · exact ⟨h.unstopped, (List.append_nil _).symm, hitems, h.valid, fun _ => h.stand, .inl rfl⟩

/-- Of the frames of one `FrameParse` all are handled, unless one ends the reading. -/
theorem handledOf_cases (frames : List Frame) :
    (handledOf frames = frames ∧ ∀ frame ∈ frames, frame.stops = none) ∨
      ∃ before final after, frames = before ++ final :: after ∧
        handledOf frames = before ++ [final] ∧
        (∀ frame ∈ before, frame.stops = none) ∧ final.stops ≠ none := by
  induction frames with
  | nil => exact .inl ⟨rfl, by simp⟩
  | cons frame frames ih =>
    rw [handledOf]
    by_cases hstops : frame.stops = none
    · rw [if_pos hstops]
      rcases ih with ⟨hall, hnone⟩ | ⟨before, final, after, rfl, hhandled, hnone, hfinal⟩
      · exact .inl ⟨by rw [hall], List.forall_mem_cons.2 ⟨hstops, hnone⟩⟩
      · exact .inr ⟨frame :: before, final, after, rfl, by rw [hhandled]; rfl,
          List.forall_mem_cons.2 ⟨hstops, hnone⟩, hfinal⟩
    · rw [if_neg hstops]
      exact .inr ⟨[], frame, frames, rfl, rfl, by simp, hstops⟩

/-- The event ends at the first frame that says so. -/
theorem ended_of_stopped {before new : List Frame} (hreached : progress.Reached false)
    (hunstopped : ∀ frame ∈ before, frame.stops = none)
    (hhandled : progress.handled = before ++ handledOf new)
    (hitems : itemsAfter buffer last = items ++ (before ++ new))
    (hstand : Stand buffer last progress.session) (hvalid : malformedAfter buffer last = false) :
    ∃ front finish, Ended buffer last items (before ++ front) finish progress ∧
      new = front ++ finish.rest ∧ finish ≠ .ongoing ∧ finish.isMalformed = false := by
  cases hreached with
  | stopped front final hfront hnone hfinal =>
    rcases handledOf_cases new with ⟨hall, hnew⟩ | ⟨front', final', after, rfl, hfinal', hnew, hstops⟩
    · -- Nothing has ended the reading.
      have hmem : final ∈ before ++ new := by
        rw [← hall, ← hhandled, hfront]
        exact List.mem_append_right _ List.mem_cons_self
      rw [(List.mem_append.1 hmem).elim (hunstopped _) (hnew _)] at hfinal
      cases hfinal
    · rw [hfinal', ← List.append_assoc] at hhandled
      obtain ⟨-, hsame⟩ := List.append_inj' (hfront.symm.trans hhandled) rfl
      obtain ⟨rfl, -⟩ := List.cons.inj hsame
      have hunstopped' : ∀ frame ∈ before ++ front', frame.stops = none := fun frame hframe =>
        (List.mem_append.1 hframe).elim (hunstopped _) (hnew _)
      rw [← List.append_assoc before] at hitems
      rcases stops_cases hstops with ⟨hclose, hstatus⟩ | ⟨hfragment, hstatus⟩
      · refine ⟨front', .closed final after, ⟨hunstopped', hhandled, hitems, hvalid, fun _ => hstand,
          hclose, ?_⟩, rfl, (fun h => by cases h), rfl⟩
        exact Option.some.inj (hfinal.symm.trans hstatus)
      · refine ⟨front', .broken final after, ⟨hunstopped', hhandled, hitems, hvalid, fun _ => hstand,
          hfragment, ?_⟩, rfl, (fun h => by cases h), rfl⟩
        exact Option.some.inj (hfinal.symm.trans hstatus)

/-- **One `recv` of an event**: it ends the event, or is followed by the next one. -/
theorem Underway.receive (h : Underway buffer pre session items progress) (chunk : Chunk)
    (now pongAt : SteadyTime) (recvs : List Recv) :
    (∃ progress' front finish,
        readLoop progress (.data chunk now pongAt :: recvs) = (progress', recvs) ∧
        Ended buffer (pre ++ chunk.bytes) items front finish progress' ∧
        EndsWith buffer pre chunk items front finish) ∨
      ∃ progress', readLoop progress (.data chunk now pongAt :: recvs) = readLoop progress' recvs ∧
        Underway buffer (pre ++ chunk.bytes) session items progress' := by
  -- The buffer after this `recv`, what is parsed of it, and the session after that.
  generalize hreceived : progress.session.connection.inputBuffer ++ chunk.bytes = received
  have hinput : ((progress.session.receive chunk.bytes).recordActivity now).connection.inputBuffer =
      received := hreceived
  generalize hsession : ((progress.session.receive chunk.bytes).recordActivity now).consume
    (framing.parse received).taken = session'
  have hleft : session'.connection.inputBuffer = received.drop (framing.parse received).taken := by
    rw [← hsession, WebSocketSession.consume, Connection.consumeInput_inputBuffer, hinput]
  have hfollows : Progress.Follows session { progress with session := session' } := by
    refine h.follows.withSession ?_ ?_ ?_
    · rw [← hsession]
      rfl
    · rw [← hsession, WebSocketSession.consume, Connection.consumeInput_outputBuffer]
      rfl
    · rw [← hsession]
      rfl
  have hstep : readLoop progress (.data chunk now pongAt :: recvs) =
      if (frameParse received).status = .error then
        (Progress.stop { progress with session := session' } .protocolError, recvs)
      else if (handleFrames pongAt { progress with session := session' } (frameParse received).frames).2
        then readLoop (handleFrames pongAt { progress with session := session' }
          (frameParse received).frames).1 recvs
        else ((handleFrames pongAt { progress with session := session' }
          (frameParse received).frames).1, recvs) := by
    rw [readLoop]
    simp only [hinput, consumed_frameParse, hsession]
    rcases handleFrames pongAt { progress with session := session' } (frameParse received).frames with
      ⟨progress', _ | _⟩ <;> rfl
  -- What this `recv` completes.
  have hunbroken : ∀ frame ∈ itemsAfter buffer pre, frame.isFragment = false := by
    intro frame hframe
    rw [h.items] at hframe
    exact (List.mem_append.1 hframe).elim (h.unbroken _)
      fun hframe => isFragment_of_stops (h.unstopped _ hframe)
  have hnew : itemsAfter buffer (pre ++ chunk.bytes) =
      itemsAfter buffer pre ++ (framing.parse received).items := by
    rw [itemsAfter_of_ne_nil _ (append_chunk_ne_nil pre chunk), h.stand.items, hreceived]
  have hmalformed : malformedAfter buffer (pre ++ chunk.bytes) =
      (framing.parse received).malformed := by
    rw [malformedAfter_of_ne_nil _ (append_chunk_ne_nil pre chunk), h.stand.malformed, hreceived]
  have hcompletes : Completes buffer pre chunk (framing.parse received).items
      (framing.parse received).malformed := ⟨h.valid, hunbroken, hnew, hmalformed⟩
  have hitems : itemsAfter buffer (pre ++ chunk.bytes) =
      items ++ (progress.handled ++ (framing.parse received).items) := by
    rw [hnew, h.items, List.append_assoc]
  rw [hstep]
  rcases hverdict : (framing.parse received).malformed with _ | _
  · rw [hverdict] at hcompletes hmalformed
    have hvalid : ¬ (frameParse received).status = .error := by
      rw [status_frameParse, hverdict]
      exact Bool.false_ne_true
    rw [if_neg hvalid, frames_frameParse hverdict]
    obtain ⟨hfollows', hreached, hhandled, hinput', hstatus⟩ :=
      hfollows.handleFrames h.unstopped pongAt (framing.parse received).items
    have hstand : Stand buffer (pre ++ chunk.bytes) (handleFrames pongAt
        { progress with session := session' } (framing.parse received).items).1.session :=
      h.stand.receive hreceived hverdict (hinput'.trans hleft)
    rcases hframes : handleFrames pongAt { progress with session := session' }
      (framing.parse received).items with ⟨progress', _ | _⟩
    all_goals rw [hframes] at hfollows' hreached hhandled hstatus hstand
    · obtain ⟨front, finish, hended, hsplit, hfinish, hmalformed'⟩ :=
        ended_of_stopped hreached h.unstopped hhandled hitems hstand hmalformed
      rw [hsplit, ← hmalformed'] at hcompletes
      exact .inl ⟨progress', _, finish, rfl, hended, hfinish, progress.handled, front, rfl, h.items,
        hcompletes, fun h => by rw [hmalformed'] at h; cases h⟩
    · cases hreached with
      | more hnone =>
        have hall : handledOf (framing.parse received).items = (framing.parse received).items := by
          refine handledOf_eq_self fun frame hframe => hnone frame ?_
          rw [hhandled]
          exact List.mem_append_right _ hframe
        rw [hall] at hhandled
        refine .inr ⟨progress', rfl, hfollows', hnone, (hstatus rfl).trans h.status, h.unbroken, ?_,
          hstand, hmalformed⟩
        rw [hhandled]
        exact hitems
  · rw [hverdict] at hcompletes hmalformed
    rw [if_pos (by rw [status_frameParse, hverdict])]
    refine .inl ⟨_, progress.handled, .malformed (framing.parse received).items, rfl,
      ⟨h.unstopped, (List.append_nil _).symm, hitems, hmalformed, (fun h => by cases h), rfl⟩,
      (fun h => by cases h), progress.handled, [], (List.append_nil _).symm, h.items, hcompletes,
      fun _ => rfl⟩

/-- **How a readable event ends**, and what is left for the next one. -/
theorem ended_readLoop (h : Underway buffer pre session items progress) {recvs : List Recv}
    (hrecvs : ∀ recv ∈ recvs, recv.delivers = true) :
    ∃ last front finish, pre ++ receivedBytes recvs = last ++ receivedBytes (readLoop progress recvs).2 ∧
      (∀ recv ∈ (readLoop progress recvs).2, recv.delivers = true) ∧
      Ended buffer last items front finish (readLoop progress recvs).1 ∧
      (finish = .ongoing ∨
        ∃ pre chunk, last = pre ++ chunk.bytes ∧ EndsWith buffer pre chunk items front finish) := by
  induction recvs generalizing progress pre with
  | nil => exact ⟨pre, _, _, rfl, hrecvs, h.again, .inl rfl⟩
  | cons recv recvs ih =>
    obtain ⟨hrecv, hrest⟩ := List.forall_mem_cons.1 hrecvs
    cases recv with
    | closed | failed => cases hrecv
    | interrupted => exact ih h hrest
    | again => exact ⟨pre, _, _, rfl, hrest, h.again, .inl rfl⟩
    | data chunk now pongAt =>
      rw [receivedBytes, ← List.append_assoc]
      rcases h.receive chunk now pongAt recvs with
        ⟨progress', front, finish, hstep, hended, hfinish⟩ | ⟨progress', hstep, hnext⟩
      · rw [hstep]
        exact ⟨_, front, finish, rfl, hrest, hended, .inr ⟨pre, chunk, rfl, hfinish⟩⟩
      · rw [hstep]
        exact ih hnext hrest

theorem underway_start {items : List Frame} (hstand : Stand buffer pre session)
    (hvalid : malformedAfter buffer pre = false) (hitems : itemsAfter buffer pre = items)
    (hunbroken : ∀ frame ∈ items, frame.isFragment = false) :
    Underway buffer pre session items (.start session) where
  follows := Progress.follows_start session
  unstopped := by simp [Progress.start]
  status := rfl
  unbroken := hunbroken
  items := hitems.trans (List.append_nil _).symm
  stand := hstand
  valid := hvalid

/-! ### In the worker -/

/-- **The dispatch loop** over the messages among these frames: it hands over those that can be dumped,
up to the first at which it ends. -/
theorem dispatchFrames_halts (parser : JsonParser) (throws : Frame → Bool)
    (request : Frame → Request) (frames : List Frame) :
    (∀ frame ∈ frames, frame.halts parser throws = false) ∧
        WebsocketWorker.dispatchFrames parser request (frames.filter Frame.isMessage)
            ((frames.filter Frame.isMessage).map throws) =
          ((frames.filter (Frame.dumps parser)).map request, false) ∨
      ∃ before text between, frames = before ++ text :: between ∧
        (∀ frame ∈ before, frame.halts parser throws = false) ∧ text.halts parser throws = true ∧
        WebsocketWorker.dispatchFrames parser request (frames.filter Frame.isMessage)
            ((frames.filter Frame.isMessage).map throws) =
          (((before ++ [text]).filter (Frame.dumps parser)).map request, true) := by
  induction frames with
  | nil => exact .inl ⟨by simp, rfl⟩
  | cons frame frames ih =>
    rcases hmessage : frame.isMessage with _ | _
    · have hdumps : ¬ frame.dumps parser = true := by simp [Frame.dumps, hmessage]
      have hhalts : frame.halts parser throws = false := by simp [Frame.halts, hmessage]
      rw [List.filter_cons_of_neg (by simp [hmessage])]
      rcases ih with ⟨hnone, hall⟩ | ⟨before, text, between, rfl, hbefore, htext, hhanded⟩
      · refine .inl ⟨List.forall_mem_cons.2 ⟨hhalts, hnone⟩, ?_⟩
        rw [hall, List.filter_cons_of_neg hdumps]
      · refine .inr ⟨frame :: before, text, between, rfl, List.forall_mem_cons.2 ⟨hhalts, hbefore⟩,
          htext, ?_⟩
        rw [hhanded, List.cons_append, List.filter_cons_of_neg hdumps]
    · rw [List.filter_cons_of_pos hmessage, List.map_cons, WebsocketWorker.dispatchFrames]
      rcases hdump : (applicationParse parser frame).dump with _ | _
      · refine .inr ⟨[], frame, frames, rfl, by simp, by simp [Frame.halts, hmessage, hdump], ?_⟩
        rw [if_pos rfl]
        simp [Frame.dumps, hdump]
      · have hdumps : frame.dumps parser = true := by simp [Frame.dumps, hmessage, hdump]
        rw [if_neg (by simp), List.headD_cons, List.tail_cons]
        rcases hthrows : throws frame with _ | _
        · have hhalts : frame.halts parser throws = false := by
            simp [Frame.halts, hdump, hthrows]
          rw [if_neg Bool.false_ne_true]
          rcases ih with ⟨hnone, hall⟩ | ⟨before, text, between, rfl, hbefore, htext, hhanded⟩
          · refine .inl ⟨List.forall_mem_cons.2 ⟨hhalts, hnone⟩, ?_⟩
            rw [hall, List.filter_cons_of_pos hdumps, List.map_cons]
          · refine .inr ⟨frame :: before, text, between, rfl,
              List.forall_mem_cons.2 ⟨hhalts, hbefore⟩, htext, ?_⟩
            rw [hhanded, List.cons_append, List.filter_cons_of_pos hdumps, List.map_cons]
        · refine .inr ⟨[], frame, frames, rfl, by simp,
            by simp [Frame.halts, hmessage, hthrows], ?_⟩
          rw [if_pos rfl]
          simp [hdumps]

/-- **A session in a delivery**, and where it stands. -/
structure Listening (buffer pre : Bytes) (fd : Fd) (who : Identity) (w : WebsocketWorker)
    (session : WebSocketSession) : Prop where
  registered : w.sessions fd = some session
  identity : session.identity = who
  deadline : w.deadlines fd = none
  stand : Stand buffer pre session
  valid : malformedAfter buffer pre = false
  unbroken : ∀ frame ∈ itemsAfter buffer pre, frame.isFragment = false

/-- The worker after the dispatch loop of an event. -/
structure Handed (fd : Fd) (who : Identity) (w w' : WebsocketWorker) (progress : Progress)
    (handed : List Frame) : Prop where
  session : w'.sessions fd = some progress.session
  identity : progress.session.identity = who
  closing : w'.closing = w.closing
  deadline : w'.deadlines fd = none
  requests : requestsOf w'.log = requestsOf w.log ++ handed.map fun frame => ⟨fd, who, frame⟩

/-- **A readable event in a delivery**: the verdict is taken, unless the dispatch loop ends before. -/
theorem handleReadable_halts (parser : JsonParser) (throws : Frame → Bool)
    (h : Listening buffer pre fd who w session) {recvs : List Recv} {front final : List Frame}
    (hhandled : (handleReadable session recvs).handled = front ++ final)
    (hfinal : ∀ frame ∈ final, frame.isMessage = false) :
    (∃ w', (∀ frame ∈ front, frame.halts parser throws = false) ∧
        Handed fd who w w' (handleReadable session recvs) (front.filter (Frame.dumps parser)) ∧
        (w.handleReadable parser fd (readableInputs throws session recvs)).1 =
          w'.takeVerdict fd (handleReadable session recvs).session
            (handleReadable session recvs).result) ∨
      ∃ before text between, front = before ++ text :: between ∧
        (∀ frame ∈ before, frame.halts parser throws = false) ∧ text.halts parser throws = true ∧
        Handed fd who w (w.handleReadable parser fd (readableInputs throws session recvs)).1
          (handleReadable session recvs) ((before ++ [text]).filter (Frame.dumps parser)) := by
  generalize hio : readableInputs throws session recvs = io
  generalize hentry : (⟨fd, session, w.closing fd, none⟩ : Entry) = entry
  have hfd : entry.fd = fd := by rw [← hentry]
  have hwho : entry.who = who := by
    rw [← hentry]
    exact h.identity
  have hreading : entry.reading io = ChatBackend.handleReadable session recvs := by
    rw [← hentry, ← hio]
    rfl
  have hframes : (ChatBackend.handleReadable session recvs).result.frames =
      front.filter Frame.isMessage := by
    have hnone : final.filter Frame.isMessage = [] :=
      List.filter_eq_nil_iff.2 fun frame hframe => by simp [hfinal frame hframe]
    rw [(reading_handleReadable session recvs).frames, hhandled, List.filter_append, hnone,
      List.append_nil]
  have hdispatching : entry.dispatching parser io = WebsocketWorker.dispatchFrames parser
      (fun frame => ⟨fd, who, frame⟩) (front.filter Frame.isMessage)
      ((front.filter Frame.isMessage).map throws) := by
    rw [Entry.dispatching, hreading, hfd, hwho, ← hio, readableInputs, hframes]
  have hmod : (entry.reading io).result.outputQueued = true → io.modOk = true := by
    intro _
    rw [← hio]
    rfl
  obtain ⟨interest, hbatch⟩ := handleBatch_armed parser w hmod
  have hunfold : w.handleReadable parser fd io = w.handleBatch parser fd (entry.reading io) io := by
    rw [WebsocketWorker.handleReadable, h.deadline, h.registered, hreading, ← hio]
    rfl
  rw [hfd] at hbatch
  rw [hunfold, ← hreading]
  have hhanded {handed : List Frame} {threw : Bool}
      (hloop : entry.dispatching parser io = (handed.map fun frame => ⟨fd, who, frame⟩, threw)) :
      Handed fd who w (w.dispatchedBatch parser entry io interest) (entry.reading io) handed := by
    refine ⟨?_, ?_, rfl, h.deadline, ?_⟩
    · rw [← hfd]
      exact Function.update_self ..
    · rw [← hwho]
      exact entry.identity_reading io
    · have hlog : (w.dispatchedBatch parser entry io interest).log =
          w.log ++ entry.readEvents parser io := rfl
      rw [hlog, requestsOf_append, requestsOf_readEvents, hloop]
  rcases dispatchFrames_halts parser throws (fun frame => ⟨fd, who, frame⟩) front with
    ⟨hnone, hloop⟩ | ⟨before, text, between, hfront, hbefore, htext, hloop⟩
  · rw [← hdispatching] at hloop
    refine .inl ⟨_, hnone, hhanded hloop, ?_⟩
    rw [hbatch, hloop]
    rfl
  · rw [← hdispatching] at hloop
    refine .inr ⟨before, text, between, hfront, hbefore, htext, ?_⟩
    rw [hbatch, hloop]
    exact hhanded hloop

/-! ### Events that give nothing up -/

/-- What is left behind the end of the event makes no difference. -/
def Finish.Lossless (parser : JsonParser) : Finish → Prop
  | ongoing | broken .. => True
  | closed _ tail => ∀ frame ∈ tail, frame.dumps parser = false ∧ frame.isFragment = false
  | malformed new => dueOf parser new = []

/-- It makes no difference if the verdict is given up. -/
def Finish.Idle (closing : Bool) : Finish → Prop
  | ongoing => True
  | closed .. => closing = true
  | broken .. | malformed _ => False

/-- Wherever the dispatch loop ends, nothing behind makes a difference. -/
def Resumable (parser : JsonParser) (throws : Frame → Bool) (closing : Bool) (front : List Frame)
    (finish : Finish) : Prop :=
  ∀ before text between, front = before ++ text :: between → text.halts parser throws = true →
    (∀ frame ∈ between, frame.dumps parser = false) ∧ finish.Idle closing

variable {front new : List Frame} {finish : Finish}

theorem Ended.final (h : Ended buffer last items front finish progress) :
    ∀ frame ∈ finish.final, frame.isMessage = false := by
  have hfits := h.fits
  cases finish with
  | ongoing | malformed => exact List.forall_mem_nil _
  | closed close tail =>
    exact List.forall_mem_singleton.2 (isMessage_of_stops (stops_ne_none_of_close hfits.1))
  | broken fragment tail =>
    exact List.forall_mem_singleton.2 (isMessage_of_stops (stops_of_isFragment hfits.1))

/-- A Close and what makes no difference behind it. -/
theorem unbroken_of_close {close : Frame} {tail : List Frame} (hclose : close.opcode = .close)
    (htail : ∀ frame ∈ tail, frame.dumps parser = false ∧ frame.isFragment = false) :
    ∀ frame ∈ close :: tail, frame.isFragment = false :=
  List.forall_mem_cons.2 ⟨isFragment_of_close hclose, fun frame hframe => (htail frame hframe).2⟩

/-- Then all that is due is in front. -/
theorem Ended.due (h : Ended buffer last items front finish progress)
    (hlossless : finish.Lossless parser) :
    dueOf parser (front ++ finish.rest) = front.filter (Frame.dumps parser) := by
  rw [dueOf_append fun frame hframe => isFragment_of_stops (h.unstopped frame hframe)]
  have hfits := h.fits
  suffices hrest : dueOf parser finish.rest = [] by rw [hrest, List.append_nil]
  cases finish with
  | ongoing => rfl
  | closed close tail =>
    have hmessage : close.isMessage = false := isMessage_of_stops (stops_ne_none_of_close hfits.1)
    rw [Finish.rest, dueOf_of_unbroken (unbroken_of_close hfits.1 hlossless),
      List.filter_eq_nil_iff]
    refine List.forall_mem_cons.2 ⟨?_, fun frame hframe => by simp [(hlossless frame hframe).1]⟩
    simp [Frame.dumps, hmessage]
  | broken fragment tail =>
    exact dueOf_fragment (List.forall_mem_nil _) hfits.1 tail
  | malformed new => exact hlossless

/-- **What a readable event does**, and where it leaves the delivery; `new` are the frames that it has
parsed. -/
structure Event (parser : JsonParser) (buffer pre last : Bytes) (fd : Fd) (who : Identity)
    (w w' : WebsocketWorker) (new : List Frame) : Prop where
  items : itemsAfter buffer last = itemsAfter buffer pre ++ new
  requests : requestsOf w'.log =
    requestsOf w.log ++ (dueOf parser new).map fun frame => ⟨fd, who, frame⟩
  session : (∃ session, Listening buffer last fd who w' session ∧
      w'.closing fd = (w.closing fd || new.any fun frame => frame.opcode = .close)) ∨
    (w'.sessions fd = none ∧
      (malformedAfter buffer last = true ∨ ∃ frame ∈ new, frame.isFragment = true))

/-- The frames of an event behind which the session listens on. -/
theorem Event.unbroken {session' : WebSocketSession}
    (h : Event parser buffer pre last fd who w w' new)
    (hsession : Listening buffer last fd who w' session') :
    ∀ frame ∈ new, frame.isFragment = false := by
  have hall := hsession.unbroken
  rw [h.items] at hall
  exact fun frame hframe => hall frame (List.mem_append_right _ hframe)

/-- A session that is there after the event listens on. -/
theorem Ended.listening {recvs : List Recv}
    (hended : Ended buffer last (itemsAfter buffer pre) front finish (handleReadable session recvs))
    (h : Listening buffer pre fd who w session) (hvalid : finish.isMalformed = false)
    (hrest : ∀ frame ∈ finish.rest, frame.isFragment = false) {handed : List Frame}
    {w' w'' : WebsocketWorker} (hhanded : Handed fd who w w' (handleReadable session recvs) handed)
    (hsessions : w''.sessions = w'.sessions) (hdeadlines : w''.deadlines = w'.deadlines) :
    Listening buffer last fd who w'' (handleReadable session recvs).session where
  registered := by rw [hsessions, hhanded.session]
  identity := hhanded.identity
  deadline := by rw [hdeadlines, hhanded.deadline]
  stand := hended.stand hvalid
  valid := hended.malformed.trans hvalid
  unbroken := by
    rw [hended.items]
    refine List.forall_mem_append.2 ⟨h.unbroken, List.forall_mem_append.2 ⟨?_, hrest⟩⟩
    exact fun frame hframe => isFragment_of_stops (hended.unstopped frame hframe)

/-- **The verdict of an event is taken.** -/
theorem event_of_verdict (h : Listening buffer pre fd who w session) {recvs : List Recv}
    (hended : Ended buffer last (itemsAfter buffer pre) front finish (handleReadable session recvs))
    (hlossless : finish.Lossless parser)
    (hhanded : Handed fd who w w' (handleReadable session recvs)
      (front.filter (Frame.dumps parser))) :
    Event parser buffer pre last fd who w
      (w'.takeVerdict fd (handleReadable session recvs).session
        (handleReadable session recvs).result) (front ++ finish.rest) := by
  have hfits := hended.fits
  have hrequests : requestsOf w'.log = requestsOf w.log ++
      (dueOf parser (front ++ finish.rest)).map fun frame => ⟨fd, who, frame⟩ := by
    rw [hended.due hlossless]
    exact hhanded.requests
  have hgone (cause : Cause) : (w'.removeSession fd cause).sessions fd = none ∧
      requestsOf (w'.removeSession fd cause).log = requestsOf w'.log := by
    refine ⟨by simp, ?_⟩
    rw [WebsocketWorker.log_removeSession, requestsOf_append, hhanded.session]
    exact List.append_nil _
  rw [WebsocketWorker.takeVerdict]
  cases finish with
  | ongoing =>
    have hsession := hended.listening h rfl (List.forall_mem_nil _) hhanded rfl rfl
    have hclosing : w'.closing fd = (w.closing fd ||
        (front ++ Finish.ongoing.rest).any fun frame => frame.opcode = .close) := by
      rw [Finish.rest, List.append_nil, any_close_of_stops hended.unstopped, Bool.or_false,
        hhanded.closing]
    rcases hfits with hstatus | hstatus <;> rw [hstatus] <;>
      exact ⟨hended.items, hrequests, .inl ⟨_, hsession, hclosing⟩⟩
  | closed close tail =>
    obtain ⟨hclose, hstatus⟩ := hfits
    have hanswered : (handleReadable session recvs).result.outputQueued = true := by
      rw [(reading_handleReadable session recvs).queued, hended.handled]
      simp [Finish.final, Frame.answer, hclose]
    simp only [hstatus, hanswered, if_true]
    refine ⟨hended.items, ?_, .inl ⟨_, hended.listening h rfl
      (unbroken_of_close hclose hlossless) hhanded rfl rfl, ?_⟩⟩
    · have hlog : requestsOf (w'.markClosing fd (handleReadable session recvs).session).log =
          requestsOf w'.log := by
        rw [WebsocketWorker.markClosing, WebsocketWorker.log_record, requestsOf_append]
        exact List.append_nil _
      rw [hlog]
      exact hrequests
    · rw [WebsocketWorker.markClosing]
      simp [Finish.rest, hclose]
  | broken fragment tail =>
    obtain ⟨hfragment, hstatus⟩ := hfits
    obtain ⟨hsession, hlog⟩ := hgone .protocolError
    rw [hstatus]
    refine ⟨hended.items, by rw [hlog, hrequests], .inr ⟨hsession, .inr ⟨fragment, ?_, hfragment⟩⟩⟩
    exact List.mem_append_right _ List.mem_cons_self
  | malformed new =>
    obtain ⟨hsession, hlog⟩ := hgone .protocolError
    rw [show (handleReadable session recvs).result.status = .protocolError from hfits]
    exact ⟨hended.items, by rw [hlog, hrequests], .inr ⟨hsession, .inl hended.malformed⟩⟩

/-- **The verdict of an event is given up**, where that makes no difference. -/
theorem event_of_halt (h : Listening buffer pre fd who w session) {recvs : List Recv}
    (hended : Ended buffer last (itemsAfter buffer pre) front finish (handleReadable session recvs))
    (hlossless : finish.Lossless parser) {before between : List Frame} {text : Frame}
    (hfront : front = before ++ text :: between)
    (hbetween : ∀ frame ∈ between, frame.dumps parser = false) (hidle : finish.Idle (w.closing fd))
    (hhanded : Handed fd who w w' (handleReadable session recvs)
      ((before ++ [text]).filter (Frame.dumps parser))) :
    Event parser buffer pre last fd who w w' (front ++ finish.rest) := by
  have hrequests : requestsOf w'.log = requestsOf w.log ++
      (dueOf parser (front ++ finish.rest)).map fun frame => ⟨fd, who, frame⟩ := by
    have hnone : between.filter (Frame.dumps parser) = [] :=
      List.filter_eq_nil_iff.2 fun frame hframe => by simp [hbetween frame hframe]
    have hsplit : before ++ text :: between = before ++ [text] ++ between := by simp
    rw [hended.due hlossless, hfront, hsplit, List.filter_append, hnone, List.append_nil]
    exact hhanded.requests
  cases finish with
  | ongoing =>
    have hsession := hended.listening h rfl (List.forall_mem_nil _) hhanded rfl rfl
    refine ⟨hended.items, hrequests, .inl ⟨_, hsession, ?_⟩⟩
    rw [Finish.rest, List.append_nil, any_close_of_stops hended.unstopped, Bool.or_false,
      hhanded.closing]
  | closed close tail =>
    have hsession := hended.listening h rfl (unbroken_of_close hended.fits.1 hlossless) hhanded
      rfl rfl
    refine ⟨hended.items, hrequests, .inl ⟨_, hsession, ?_⟩⟩
    rw [hhanded.closing, show w.closing fd = true from hidle, Bool.true_or]
  | broken | malformed => exact hidle.elim

/-- **A readable event that gives nothing up** hands over what is due, and its verdict is taken. -/
theorem event_of_ended (h : Listening buffer pre fd who w session) {recvs : List Recv}
    (hended : Ended buffer last (itemsAfter buffer pre) front finish (handleReadable session recvs))
    (hlossless : finish.Lossless parser)
    (hresumable : Resumable parser throws (w.closing fd) front finish) :
    Event parser buffer pre last fd who w
      (w.handleReadable parser fd (readableInputs throws session recvs)).1
      (front ++ finish.rest) := by
  rcases handleReadable_halts parser throws h hended.handled hended.final with
    ⟨w', -, hhanded, hverdict⟩ | ⟨before, text, between, hfront, -, htext, hhanded⟩
  · rw [hverdict]
    exact event_of_verdict h hended hlossless hhanded
  · obtain ⟨hbetween, hidle⟩ := hresumable before text between hfront htext
    exact event_of_halt h hended hlossless hfront hbetween hidle hhanded

/-- **One event after the other**, as long as the session is there. -/
theorem Event.trans {mid : Bytes} {w'' : WebsocketWorker} {session' : WebSocketSession}
    {more : List Frame} (h : Event parser buffer pre mid fd who w w' new)
    (hsession : Listening buffer mid fd who w' session')
    (h' : Event parser buffer mid last fd who w' w'' more) :
    Event parser buffer pre last fd who w w'' (new ++ more) := by
  obtain ⟨-, -, hclosing⟩ | ⟨hgone, -⟩ := h.session
  · have hunbroken := h.unbroken hsession
    refine ⟨?_, ?_, ?_⟩
    · rw [h'.items, h.items, List.append_assoc]
    · rw [h'.requests, h.requests, dueOf_append hunbroken, dueOf_of_unbroken hunbroken,
        List.map_append, List.append_assoc]
    · rcases h'.session with ⟨session'', hsession'', hclosing'⟩ | ⟨hgone, hlost⟩
      · refine .inl ⟨session'', hsession'', ?_⟩
        rw [hclosing', hclosing, List.any_append, Bool.or_assoc]
      · exact .inr ⟨hgone, hlost.imp_right fun ⟨frame, hframe, hfragment⟩ =>
          ⟨frame, List.mem_append_right _ hframe, hfragment⟩⟩
  · rw [hsession.registered] at hgone
    cases hgone

/-! ### The whole stream -/

/-- What a stream comes to, if nothing is given up: what is due, and a status. -/
def outcomeOf (parser : JsonParser) (request : Frame → Request) (before : List Request)
    (closing : Bool) (items : List Frame) (malformed : Bool) : List Request × DeliveryStatus :=
  (before ++ (dueOf parser items).map request,
    if malformed || items.any Frame.isFragment then .protocolError
    else if closing || items.any (fun frame => frame.opcode = .close) then .peerClosed
    else .stillOpen)

/-- Frames without a fragment come to the same, one part after the other. -/
theorem outcomeOf_append (request : Frame → Request) (before : List Request) (closing : Bool)
    {items : List Frame} (h : ∀ frame ∈ items, frame.isFragment = false) (more : List Frame)
    (malformed : Bool) :
    outcomeOf parser request (before ++ (dueOf parser items).map request)
        (closing || items.any fun frame => frame.opcode = .close) more malformed =
      outcomeOf parser request before closing (items ++ more) malformed := by
  have hunbroken : items.any Frame.isFragment = false :=
    List.any_eq_false.2 fun frame hframe => by simp [h frame hframe]
  rw [outcomeOf, outcomeOf, dueOf_append h, dueOf_of_unbroken h, List.map_append, List.any_append,
    List.any_append, hunbroken, Bool.false_or, List.append_assoc, Bool.or_assoc]

/-- Where there is a fragment, there is a first one. -/
theorem exists_first_fragment {items : List Frame} {fragment : Frame} (hmem : fragment ∈ items)
    (hfragment : fragment.isFragment = true) : ∃ front first tail,
      items = front ++ first :: tail ∧ first.isFragment = true ∧
        ∀ frame ∈ front, frame.isFragment = false := by
  induction items with
  | nil => cases hmem
  | cons frame items ih =>
    rcases hframe : frame.isFragment with _ | _
    · have hlater : fragment ∈ items := by
        rcases List.mem_cons.1 hmem with rfl | hlater
        · rw [hfragment] at hframe
          cases hframe
        · exact hlater
      obtain ⟨front, first, tail, rfl, hfirst, hfront⟩ := ih hlater
      exact ⟨frame :: front, first, tail, rfl, hfirst, List.forall_mem_cons.2 ⟨hframe, hfront⟩⟩
    · exact ⟨[], frame, items, rfl, hframe, by simp⟩

/-- Behind a fragment nothing makes a difference. -/
theorem outcomeOf_fragment (request : Frame → Request) (before : List Request) (closing : Bool)
    {items : List Frame} {fragment : Frame} (hmem : fragment ∈ items)
    (hfragment : fragment.isFragment = true) (more : List Frame) (malformed : Bool) :
    outcomeOf parser request before closing (items ++ more) malformed =
      (before ++ (dueOf parser items).map request, .protocolError) := by
  obtain ⟨front, first, tail, rfl, hfirst, hfront⟩ := exists_first_fragment hmem hfragment
  rw [outcomeOf, List.append_assoc, List.cons_append, dueOf_fragment hfront hfirst,
    dueOf_fragment hfront hfirst]
  simp [hfirst]

/-- **What the rest of a delivery comes to** is what a stream comes to of which nothing is given up. -/
def Comes (parser : JsonParser) (throws : Frame → Bool) (buffer bytes pre : Bytes) (fd : Fd)
    (who : Identity) (w : WebsocketWorker) (recvs : List Recv) : Prop :=
  ∃ rest, itemsAfter buffer bytes = itemsAfter buffer pre ++ rest ∧
    (w.readStream parser throws fd recvs).handedOver fd =
      outcomeOf parser (fun frame => ⟨fd, who, frame⟩) (requestsOf w.log) (w.closing fd) rest
        (malformedAfter buffer bytes)

theorem comes_nil (h : Listening buffer bytes fd who w session) :
    Comes parser throws buffer bytes bytes fd who w [] := by
  refine ⟨[], (List.append_nil _).symm, ?_⟩
  rw [readStream_nil, WebsocketWorker.handedOver, WebsocketWorker.deliveryStatus, h.registered,
    outcomeOf, h.valid]
  simp [dueOf]

/-- **An event that gives nothing up** leaves it to the rest of the delivery. -/
theorem comes_of_event {recvs recvs' : List Recv} (hbytes : last <+: bytes)
    (hevent : Event parser buffer pre last fd who w w' new)
    (hread : w.readStream parser throws fd recvs = w'.readStream parser throws fd recvs')
    (hnext : ∀ session, Listening buffer last fd who w' session →
      w'.closing fd = (w.closing fd || new.any fun frame => frame.opcode = .close) →
        Comes parser throws buffer bytes last fd who w' recvs') :
    Comes parser throws buffer bytes pre fd who w recvs := by
  rw [Comes, hread]
  rcases hevent.session with ⟨session, hsession, hclosing⟩ | ⟨hgone, hlost⟩
  · -- The session is read on.
    obtain ⟨rest, hitems, houtcome⟩ := hnext session hsession hclosing
    refine ⟨new ++ rest, by rw [hitems, hevent.items, List.append_assoc], ?_⟩
    rw [houtcome, hevent.requests, hclosing, outcomeOf_append _ _ _ (hevent.unbroken hsession)]
  · -- The session is removed, for what was read.
    obtain ⟨more, rfl⟩ := hbytes
    obtain ⟨extra, hextra, hmalformed⟩ := itemsAfter_append buffer last more
    refine ⟨new ++ extra, by rw [hextra, hevent.items, List.append_assoc], ?_⟩
    have hstatus : w'.handedOver fd = (requestsOf w.log ++
        (dueOf parser new).map fun frame => ⟨fd, who, frame⟩, .protocolError) := by
      rw [WebsocketWorker.handedOver, WebsocketWorker.deliveryStatus, hgone, hevent.requests]
      rfl
    rw [readStream_of_none hgone, hstatus]
    rcases hlost with hlost | ⟨fragment, hmem, hfragment⟩
    · obtain ⟨hmalformed', rfl⟩ := hmalformed hlost
      rw [outcomeOf, List.append_nil, hmalformed']
      simp
    · exact (outcomeOf_fragment _ _ _ hmem hfragment extra _).symm

end ChatBackend
