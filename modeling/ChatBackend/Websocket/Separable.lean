import ChatBackend.Websocket.Delivery
import Mathlib.Data.List.Induction

/-!
# When the cutting of a stream makes no difference

What reaches the dispatcher depends on how TCP has cut the stream just where a readable event gives
something up. `Separable` says of a stream that there is no such place, however it is cut: then every
delivery comes to the same. The converse is about a stream and all its beginnings, as what was given up
may be made good further on (a fragment that was overlooked, by another one). Where there is such a
place, the stream up to it comes to one thing if every byte is an event of its own, and to another if
the bytes from there on are read in one event.

## Main definitions

* `Separable` — the streams of which nothing is given up, however they are cut
* `Irrelevant` — every delivery of the stream comes to the same

## Main results

* `irrelevant_of_separable`, `separable_of_irrelevant`
* `segmentation_irrelevant`
-/

namespace ChatBackend

open Streaming

variable {parser : JsonParser} {throws : Frame → Bool} {closing : Bool}
  {buffer bytes pre last t : Bytes} {session : WebSocketSession} {w : WebsocketWorker} {fd : Fd}
  {who : Identity} {items front mid : List Frame} {finish : Finish} {progress : Progress}
  {recvs : List Recv}

/-! ### Streams of which nothing is given up -/

/-- **A stream of which nothing is given up**, however it is cut. No `recv` in which it is found
malformed completes a message that is due, or comes behind a message at which the dispatch loop ends,
with no Close or fragment in between. None completes a Close and, behind it, a message that can be
dumped or a fragment. And behind a message at which the dispatch loop ends there is no message that can
be dumped up to the next Close or fragment; and that one is a Close of a session that is closing. -/
structure Separable (parser : JsonParser) (throws : Frame → Bool) (closing : Bool)
    (buffer bytes : Bytes) : Prop where
  malformed : ∀ pre chunk new, pre ++ chunk.bytes <+: bytes → Completes buffer pre chunk new true →
    dueOf parser new = [] ∧
      ∀ before text between, itemsAfter buffer pre = before ++ text :: between →
        text.halts parser throws = true → ∃ stop ∈ between, stop.stops ≠ none
  closed : ∀ pre chunk before close after, pre ++ chunk.bytes <+: bytes →
    Completes buffer pre chunk (before ++ close :: after) false → close.opcode = .close →
      (∀ frame ∈ before, frame.stops = none) →
        ∀ frame ∈ after, frame.dumps parser = false ∧ frame.isFragment = false
  halted : ∀ before text between after,
    itemsAfter buffer bytes = before ++ text :: (between ++ after) →
      (∀ frame ∈ before, frame.isFragment = false) → text.halts parser throws = true →
        (∀ frame ∈ between, frame.stops = none) →
          (∀ frame ∈ between, frame.dumps parser = false) ∧
            ∀ stop ∈ after.head?, stop.stops ≠ none → stop.opcode = .close ∧
              (closing || before.any fun frame => frame.opcode = .close) = true

/-- **The cutting makes no difference**: every two deliveries of the stream come to the same. -/
def Irrelevant (parser : JsonParser) (throws : Frame → Bool) (w : WebsocketWorker) (fd : Fd)
    (bytes : Bytes) : Prop :=
  ∀ recvs recvs' : List Recv, (∀ recv ∈ recvs, recv.delivers = true) →
    (∀ recv ∈ recvs', recv.delivers = true) → receivedBytes recvs = bytes →
      receivedBytes recvs' = bytes →
        (w.readStream parser throws fd recvs).handedOver fd =
          (w.readStream parser throws fd recvs').handedOver fd

/-- Nothing is given up of the beginnings of such a stream. -/
theorem Separable.mono (h : Separable parser throws closing buffer bytes) {beginning : Bytes}
    (hbeginning : beginning <+: bytes) : Separable parser throws closing buffer beginning where
  malformed pre chunk new hpre := h.malformed pre chunk new (hpre.trans hbeginning)
  closed pre chunk before close after hpre :=
    h.closed pre chunk before close after (hpre.trans hbeginning)
  halted := by
    intro before text between after hitems hbefore htext hbetween
    obtain ⟨more, rfl⟩ := hbeginning
    obtain ⟨extra, hextra, -⟩ := itemsAfter_append buffer beginning more
    obtain ⟨hdumps, hstop⟩ := h.halted before text between (after ++ extra)
      (by rw [hextra, hitems]; simp) hbefore htext hbetween
    refine ⟨hdumps, fun stop hmem => hstop stop ?_⟩
    cases after with
    | nil => cases hmem
    | cons first after => exact hmem

/-- **An event in such a stream** gives nothing up. -/
theorem Separable.lossless (h : Separable parser throws closing buffer bytes)
    (hlast : last <+: bytes) (hunbroken : ∀ frame ∈ items, frame.isFragment = false)
    (hended : Ended buffer last items front finish progress)
    (hfinish : finish = .ongoing ∨
      ∃ pre chunk, last = pre ++ chunk.bytes ∧ EndsWith buffer pre chunk items front finish) :
    finish.Lossless parser ∧ Resumable parser throws
      (closing || items.any fun frame => frame.opcode = .close) front finish := by
  have hfits := hended.fits
  have hunstopped := hended.unstopped
  constructor
  · rcases hfinish with rfl | ⟨pre, chunk, rfl, -, earlier, before, rfl, -, hcompletes, hbare⟩
    · trivial
    · cases finish with
      | ongoing | broken => trivial
      | closed close tail =>
        exact h.closed pre chunk before close tail hlast hcompletes hfits.1 fun frame hframe =>
          hunstopped frame (List.mem_append_right _ hframe)
      | malformed new =>
        rw [hbare rfl] at hcompletes
        exact (h.malformed pre chunk new hlast hcompletes).1
  · intro before text between hfront htext
    rw [hfront] at hunstopped
    have hbetween : ∀ frame ∈ between, frame.stops = none := fun frame hframe =>
      hunstopped frame (List.mem_append_right _ (List.mem_cons_of_mem _ hframe))
    have hbefore : ∀ frame ∈ before, frame.stops = none := fun frame hframe =>
      hunstopped frame (List.mem_append_left _ hframe)
    obtain ⟨more, hmore⟩ := hlast
    obtain ⟨extra, hextra, -⟩ := itemsAfter_append buffer last more
    have hitems : itemsAfter buffer bytes =
        (items ++ before) ++ text :: (between ++ (finish.rest ++ extra)) := by
      rw [← hmore, hextra, hended.items, hfront]
      simp
    obtain ⟨hdumps, hstop⟩ := h.halted _ text between _ hitems
      (List.forall_mem_append.2 ⟨hunbroken, fun frame hframe =>
        isFragment_of_stops (hbefore frame hframe)⟩) htext hbetween
    refine ⟨hdumps, ?_⟩
    cases finish with
    | ongoing => trivial
    | closed close tail =>
      obtain ⟨-, hclosing⟩ := hstop close rfl (stops_ne_none_of_close hfits.1)
      rw [List.any_append, any_close_of_stops hbefore, Bool.or_false] at hclosing
      exact hclosing
    | broken fragment tail =>
      obtain ⟨hclose, -⟩ := hstop fragment rfl (stops_of_isFragment hfits.1)
      have hfragment := hfits.1
      rw [isFragment_of_close hclose] at hfragment
      cases hfragment
    | malformed new =>
      rcases hfinish with hongoing | ⟨pre, chunk, rfl, -, earlier, before', hsplit, hearlier,
        hcompletes, hbare⟩
      · cases hongoing
      · rw [hbare rfl] at hcompletes hsplit
        rw [List.append_nil, hfront] at hsplit
        obtain ⟨stop, hmem, hstops⟩ := (h.malformed pre chunk new ⟨more, hmore⟩ hcompletes).2
          (items ++ before) text between (by rw [hearlier, ← hsplit, List.append_assoc]) htext
        exact absurd (hbetween stop hmem) hstops

/-- **What comes of a stream of which nothing is given up**: it does not depend on how it is cut. -/
theorem comes_of_separable (hsep : Separable parser throws closing buffer bytes)
    (hrecvs : ∀ recv ∈ recvs, recv.delivers = true) (h : Listening buffer pre fd who w session)
    (hclosing : w.closing fd =
      (closing || (itemsAfter buffer pre).any fun frame => frame.opcode = .close))
    (hbytes : pre ++ receivedBytes recvs = bytes) :
    Comes parser throws buffer bytes pre fd who w recvs := by
  induction hn : recvs.length using Nat.strongRecOn generalizing recvs w session pre with
  | _ n ih =>
    cases recvs with
    | nil =>
      rw [receivedBytes, List.append_nil] at hbytes
      subst hbytes
      exact comes_nil h
    | cons recv recvs =>
      obtain ⟨last, front, finish, hlast, hrest, hended, hfinish⟩ :=
        ended_readLoop (underway_start h.stand h.valid rfl h.unbroken) hrecvs
      rw [hbytes] at hlast
      obtain ⟨hlossless, hresumable⟩ :=
        hsep.lossless ⟨_, hlast.symm⟩ h.unbroken hended hfinish
      rw [← hclosing] at hresumable
      have hevent := event_of_ended h hended hlossless hresumable
      refine comes_of_event ⟨_, hlast.symm⟩ hevent (readStream_cons h.registered _ _)
        fun session' hsession' hclosing' => ?_
      have hlength := length_readLoop (.start session) (recv :: recvs)
      have hless : (readLoop (.start session) (recv :: recvs)).2.length < n := by
        rw [List.length_cons, Nat.add_sub_cancel] at hlength
        rw [← hn, List.length_cons]
        exact Nat.lt_succ_of_le hlength
      refine ih _ hless hrest hsession' ?_ hlast.symm rfl
      rw [hclosing', hclosing, hevent.items, Bool.or_assoc, ← List.any_append]

theorem listening_start (hsession : w.sessions fd = some session) (hdeadline : w.deadlines fd = none) :
    Listening session.connection.inputBuffer [] fd session.identity w session where
  registered := hsession
  identity := rfl
  deadline := hdeadline
  stand := stand_start session
  valid := rfl
  unbroken := by simp [itemsAfter]

/-- So the cutting of such a stream makes no difference. -/
theorem irrelevant_of_separable (hsession : w.sessions fd = some session)
    (hsep : w.deadlines fd = none →
      Separable parser throws (w.closing fd) session.connection.inputBuffer bytes) :
    Irrelevant parser throws w fd bytes := by
  intro recvs recvs' hrecvs hrecvs' hbytes hbytes'
  rcases hdeadline : w.deadlines fd with _ | deadline
  · have hstart := listening_start hsession hdeadline
    have hclosing : w.closing fd = (w.closing fd ||
        (itemsAfter session.connection.inputBuffer []).any fun frame => frame.opcode = .close) :=
      (Bool.or_false _).symm
    obtain ⟨rest, hitems, houtcome⟩ :=
      comes_of_separable (hsep hdeadline) hrecvs hstart hclosing hbytes
    obtain ⟨rest', hitems', houtcome'⟩ :=
      comes_of_separable (hsep hdeadline) hrecvs' hstart hclosing hbytes'
    rw [houtcome, houtcome', List.append_cancel_left (hitems'.symm.trans hitems)]
  · rw [readStream_of_deadline hdeadline, readStream_of_deadline hdeadline]

/-! ### A byte at a time -/

/-- A `recv` of one byte. -/
def Chunk.single (b : UInt8) : Chunk := ⟨[b], List.cons_ne_nil b [], by simp⟩

/-- Every byte in an event of its own. -/
def bytewise (bytes : Bytes) : List Recv := bytes.flatMap fun b => [.data (.single b) 0 0, .again]

/-- Every byte in a `recv` of its own. -/
def singles (bytes : Bytes) : List Recv := bytes.map fun b => .data (.single b) 0 0

theorem receivedBytes_append (recvs recvs' : List Recv) :
    receivedBytes (recvs ++ recvs') = receivedBytes recvs ++ receivedBytes recvs' := by
  induction recvs with
  | nil => rfl
  | cons recv recvs ih =>
    cases recv with
    | data chunk now pongAt =>
      rw [List.cons_append, receivedBytes, receivedBytes, ih, List.append_assoc]
    | closed | interrupted | again | failed => exact ih

@[simp] theorem receivedBytes_bytewise (bytes : Bytes) : receivedBytes (bytewise bytes) = bytes := by
  induction bytes with
  | nil => rfl
  | cons b bytes ih => exact congrArg (List.cons b) ih

@[simp] theorem receivedBytes_singles (bytes : Bytes) : receivedBytes (singles bytes) = bytes := by
  induction bytes with
  | nil => rfl
  | cons b bytes ih => exact congrArg (List.cons b) ih

theorem delivers_bytewise (bytes : Bytes) : ∀ recv ∈ bytewise bytes, recv.delivers = true := by
  intro recv hrecv
  obtain ⟨b, -, hmem⟩ := List.mem_flatMap.1 hrecv
  simp only [List.mem_cons, List.not_mem_nil, or_false] at hmem
  rcases hmem with rfl | rfl <;> rfl

theorem delivers_singles (bytes : Bytes) : ∀ recv ∈ singles bytes, recv.delivers = true := by
  intro recv hrecv
  obtain ⟨b, -, rfl⟩ := List.mem_map.1 hrecv
  rfl

/-- **One more byte** completes one frame at most, if the buffer had none to begin with. -/
theorem itemsAfter_snoc (hbuffer : (framing.parse buffer).items = []) (pre : Bytes) (b : UInt8) :
    ∃ new, itemsAfter buffer (pre ++ [b]) = itemsAfter buffer pre ++ new ∧ new.length ≤ 1 ∧
      (new ≠ [] → malformedAfter buffer (pre ++ [b]) = false) := by
  have hne : pre ++ [b] ≠ [] := List.append_ne_nil_of_right_ne_nil _ (List.cons_ne_nil b [])
  have hpre : itemsAfter buffer pre = (framing.parse (buffer ++ pre)).items := by
    by_cases hnil : pre = []
    · rw [hnil, List.append_nil, hbuffer]
      rfl
    · exact itemsAfter_of_ne_nil _ hnil
  rw [itemsAfter_of_ne_nil _ hne, malformedAfter_of_ne_nil _ hne, hpre, ← List.append_assoc]
  exact Framing.parse_snoc _ _

/-- An event that parses no more than one frame gives nothing up. -/
theorem lossless_of_length (hlength : (front ++ finish.rest).length ≤ 1)
    (hvalid : front ++ finish.rest ≠ [] → finish.isMalformed = false) :
    finish.Lossless parser ∧ Resumable parser throws closing front finish := by
  constructor
  · cases finish with
    | ongoing | broken => trivial
    | closed close tail =>
      rw [Finish.rest, List.length_append, List.length_cons] at hlength
      obtain rfl : tail = [] := List.length_eq_zero_iff.1 (by omega)
      exact List.forall_mem_nil _
    | malformed new =>
      by_contra hnew
      have hne : front ++ (Finish.malformed new).rest ≠ [] := by
        intro hnil
        rw [Finish.rest] at hnil
        exact hnew (by rw [(List.append_eq_nil_iff.1 hnil).2]; rfl)
      cases hvalid hne
  · intro before text between hfront htext
    rw [hfront, List.length_append, List.length_append, List.length_cons] at hlength
    obtain rfl : between = [] := List.length_eq_zero_iff.1 (by omega)
    refine ⟨List.forall_mem_nil _, ?_⟩
    have hrest : finish.rest = [] := List.length_eq_zero_iff.1 (by omega)
    cases finish with
    | ongoing => trivial
    | closed | broken => cases hrest
    | malformed new => cases hvalid (by rw [hfront]; simp)

theorem handleReadable_of_readLoop {rest : List Recv}
    (h : readLoop (.start session) recvs = (progress, rest)) :
    handleReadable session recvs = progress := congrArg Prod.fst h

/-- An event without a byte. -/
theorem event_of_again (parser : JsonParser) (throws : Frame → Bool)
    (h : Listening buffer pre fd who w session) (recvs : List Recv) :
    ∃ w', w.readStream parser throws fd (.again :: recvs) = w'.readStream parser throws fd recvs ∧
      Event parser buffer pre pre fd who w w' [] := by
  have hended := (underway_start h.stand h.valid rfl h.unbroken).again
  have hresumable : Resumable parser throws (w.closing fd) [] .ongoing := fun before text between hnil =>
    absurd hnil.symm (List.append_ne_nil_of_right_ne_nil _ (List.cons_ne_nil _ _))
  have hlossless : Finish.ongoing.Lossless parser := trivial
  exact ⟨_, readStream_cons h.registered _ _, event_of_ended h hended hlossless hresumable⟩

/-- **An event of one byte** gives nothing up. -/
theorem event_of_byte (parser : JsonParser) (throws : Frame → Bool)
    (hbuffer : (framing.parse buffer).items = [])
    (h : Listening buffer pre fd who w session) (b : UInt8) (recvs : List Recv) :
    ∃ w' new, w.readStream parser throws fd (.data (.single b) 0 0 :: .again :: recvs) =
        w'.readStream parser throws fd recvs ∧
      Event parser buffer pre (pre ++ [b]) fd who w w' new := by
  obtain ⟨new, hnew, hlength, hvalid⟩ := itemsAfter_snoc hbuffer pre b
  have hstart := underway_start h.stand h.valid rfl h.unbroken
  have hevent {front : List Frame} {finish : Finish} {recvs : List Recv}
      (hended : Ended buffer (pre ++ [b]) (itemsAfter buffer pre) front finish
        (handleReadable session recvs)) :
      Event parser buffer pre (pre ++ [b]) fd who w
        (w.handleReadable parser fd (readableInputs throws session recvs)).1
        (front ++ finish.rest) := by
    have hsame : front ++ finish.rest = new :=
      List.append_cancel_left (hended.items.symm.trans hnew)
    rw [← hsame] at hlength hvalid
    obtain ⟨hlossless, hresumable⟩ := lossless_of_length hlength fun hne =>
      hended.malformed.symm.trans (hvalid hne)
    exact event_of_ended h hended hlossless hresumable
  rcases hstart.receive (.single b) 0 0 (.again :: recvs) with
    ⟨progress, front, finish, hstep, hended, -⟩ | ⟨progress, hstep, hnext⟩
  · -- The byte ends the event, and there is one without a byte.
    rw [← handleReadable_of_readLoop hstep] at hended
    have hfirst := hevent hended
    have hread : w.readStream parser throws fd (.data (.single b) 0 0 :: .again :: recvs) = _ :=
      readStream_cons h.registered _ _
    rw [hstep] at hread
    rcases hfirst.session with ⟨session', hsession', -⟩ | ⟨hgone, -⟩
    · obtain ⟨w', hread', hagain⟩ := event_of_again parser throws hsession' recvs
      exact ⟨w', _, hread.trans hread', hfirst.trans hsession' hagain⟩
    · refine ⟨_, _, hread.trans ?_, hfirst⟩
      rw [readStream_of_none hgone, readStream_of_none hgone]
  · have hended := hnext.again
    have hloop : readLoop (.start session) (.data (.single b) 0 0 :: .again :: recvs) =
        (if progress.result.frames = [] then progress else progress.stop .messagesReady, recvs) := by
      rw [hstep, readLoop]
    have hread : w.readStream parser throws fd (.data (.single b) 0 0 :: .again :: recvs) = _ :=
      readStream_cons h.registered _ _
    rw [hloop] at hread
    rw [← handleReadable_of_readLoop hloop] at hended
    exact ⟨_, _, hread, hevent hended⟩

/-- **A byte at a time**, nothing is given up of any stream. -/
theorem comes_of_bytewise (parser : JsonParser) (throws : Frame → Bool)
    (hbuffer : (framing.parse buffer).items = [])
    (h : Listening buffer pre fd who w session) (hbytes : pre ++ t = bytes) :
    Comes parser throws buffer bytes pre fd who w (bytewise t) := by
  induction t generalizing pre w session with
  | nil =>
    rw [List.append_nil] at hbytes
    subst hbytes
    exact comes_nil h
  | cons b t ih =>
    rw [List.append_cons] at hbytes
    obtain ⟨w', new, hread, hevent⟩ := event_of_byte parser throws hbuffer h b (bytewise t)
    exact comes_of_event ⟨t, hbytes⟩ hevent hread fun session' hsession' _ => ih hsession' hbytes

/-- And where the stream goes on, so does the session. -/
theorem listening_bytewise (parser : JsonParser) (throws : Frame → Bool)
    (hbuffer : (framing.parse buffer).items = [])
    (h : Listening buffer pre fd who w session) (hvalid : malformedAfter buffer (pre ++ t) = false)
    (hunbroken : ∀ frame ∈ itemsAfter buffer (pre ++ t), frame.isFragment = false)
    (recvs : List Recv) :
    ∃ w' session' new, w.readStream parser throws fd (bytewise t ++ recvs) =
        w'.readStream parser throws fd recvs ∧
      Event parser buffer pre (pre ++ t) fd who w w' new ∧
      Listening buffer (pre ++ t) fd who w' session' ∧
      w'.closing fd = (w.closing fd || new.any fun frame => frame.opcode = .close) := by
  induction t generalizing pre w session with
  | nil =>
    rw [List.append_nil] at hvalid hunbroken ⊢
    refine ⟨w, session, [], rfl, ⟨(List.append_nil _).symm, (List.append_nil _).symm,
      .inl ⟨session, h, (Bool.or_false _).symm⟩⟩, h, (Bool.or_false _).symm⟩
  | cons b t ih =>
    rw [List.append_cons] at hvalid hunbroken ⊢
    obtain ⟨w', new, hread, hevent⟩ := event_of_byte parser throws hbuffer h b
      (bytewise t ++ recvs)
    obtain ⟨extra, hextra, hmalformed⟩ := itemsAfter_append buffer (pre ++ [b]) t
    rcases hevent.session with ⟨session', hsession', hclosing⟩ | ⟨-, hlost | ⟨frame, hframe, hfragment⟩⟩
    · obtain ⟨w'', session'', more, hread', hevent', hsession'', hclosing'⟩ :=
        ih hsession' hvalid hunbroken
      refine ⟨w'', session'', new ++ more, hread.trans hread', hevent.trans hsession' hevent',
        hsession'', ?_⟩
      rw [hclosing', hclosing, List.any_append, Bool.or_assoc]
    · rw [(hmalformed hlost).1] at hvalid
      cases hvalid
    · have hmem : frame ∈ itemsAfter buffer (pre ++ [b] ++ t) := by
        rw [hextra, hevent.items]
        exact List.mem_append_left _ (List.mem_append_right _ hframe)
      rw [hunbroken frame hmem] at hfragment
      cases hfragment

/-! ### A stretch in one event -/

/-- **Byte by byte in one event**, as long as no frame ends it. -/
theorem readLoop_singles (h : Underway buffer pre session items progress)
    (hmid : itemsAfter buffer (pre ++ t) = itemsAfter buffer pre ++ mid)
    (hunstopped : ∀ frame ∈ mid, frame.stops = none)
    (hvalid : malformedAfter buffer (pre ++ t) = false) (recvs : List Recv) :
    ∃ progress', readLoop progress (singles t ++ recvs) = readLoop progress' recvs ∧
      Underway buffer (pre ++ t) session items progress' := by
  induction t generalizing pre mid progress with
  | nil =>
    rw [List.append_nil]
    exact ⟨progress, rfl, h⟩
  | cons b t ih =>
    rw [List.append_cons] at hmid hvalid ⊢
    obtain ⟨extra, hextra, hmalformed⟩ := itemsAfter_append buffer (pre ++ [b]) t
    rcases h.receive (.single b) 0 0 (singles t ++ recvs) with
      ⟨progress', front, finish, -, hended, hfinish, earlier, before, -, -, hcompletes, -⟩ |
        ⟨progress', hstep, hnext⟩
    · -- No byte ends the event.
      have hsame : before ++ finish.rest ++ extra = mid := by
        have hitems := hcompletes.items
        rw [show pre ++ (Chunk.single b).bytes = pre ++ [b] from rfl] at hitems
        rw [hextra, hitems, List.append_assoc] at hmid
        rw [← List.append_cancel_left hmid]
      have hrest : ∀ frame ∈ finish.rest, frame.stops = none := fun frame hframe =>
        hunstopped frame (by rw [← hsame]; simp [hframe])
      have hfits := hended.fits
      cases finish with
      | ongoing => exact absurd rfl hfinish
      | closed close tail =>
        exact absurd (hrest close List.mem_cons_self) (stops_ne_none_of_close hfits.1)
      | broken fragment tail =>
        exact absurd (hrest fragment List.mem_cons_self) (stops_of_isFragment hfits.1)
      | malformed new =>
        rw [(hmalformed hended.malformed).1] at hvalid
        cases hvalid
    · obtain ⟨new, hnew, -⟩ := itemsAfter_append buffer pre [b]
      have hsame : new ++ extra = mid := by
        rw [hextra, hnew, List.append_assoc] at hmid
        exact List.append_cancel_left hmid
      obtain ⟨progress'', hloop, hunderway⟩ := ih hnext hextra (fun frame hframe =>
        hunstopped frame (by rw [← hsame]; exact List.mem_append_right _ hframe)) hvalid
      exact ⟨progress'', hstep.trans hloop, hunderway⟩

/-- A stretch, and one more `recv`, in one event. -/
def stretch (t : Bytes) (chunk : Chunk) : List Recv := singles t ++ [.data chunk 0 0]

/-- **A stretch that no frame ends, and one more `recv`**: one event that reads it all. -/
theorem ended_stretch (parser : JsonParser) (throws : Frame → Bool)
    (h : Listening buffer pre fd who w session)
    (hmid : itemsAfter buffer (pre ++ t) = itemsAfter buffer pre ++ mid)
    (hunstopped : ∀ frame ∈ mid, frame.stops = none)
    (hvalid : malformedAfter buffer (pre ++ t) = false) (chunk : Chunk) :
    ∃ front finish, w.readStream parser throws fd (stretch t chunk) =
        (w.handleReadable parser fd (readableInputs throws session (stretch t chunk))).1 ∧
      Ended buffer (pre ++ t ++ chunk.bytes) (itemsAfter buffer pre) (mid ++ front) finish
        (handleReadable session (stretch t chunk)) ∧
      (finish.isMalformed = true → front = []) := by
  obtain ⟨progress, hloop, hunderway⟩ := readLoop_singles
    (underway_start h.stand h.valid rfl h.unbroken) hmid hunstopped hvalid [.data chunk 0 0]
  have hread (hall : (readLoop (.start session) (stretch t chunk)).2 = []) :
      w.readStream parser throws fd (stretch t chunk) =
        (w.handleReadable parser fd (readableInputs throws session (stretch t chunk))).1 := by
    obtain ⟨recv, recvs, hcons⟩ : ∃ recv recvs, stretch t chunk = recv :: recvs :=
      List.exists_cons_of_ne_nil (List.append_ne_nil_of_right_ne_nil _ (List.cons_ne_nil _ _))
    rw [hcons] at hall ⊢
    rw [readStream_cons h.registered, hall, readStream_nil]
  rcases hunderway.receive chunk 0 0 [] with
    ⟨progress', front, finish, hstep, hended, -, earlier, before, rfl, hearlier, hcompletes, hbare⟩ |
      ⟨progress', hstep, hnext⟩
  · have hall := hloop.trans hstep
    obtain rfl : earlier = mid := List.append_cancel_left (hearlier.symm.trans hmid)
    rw [← handleReadable_of_readLoop hall] at hended
    exact ⟨before, finish, hread (congrArg Prod.snd hall), hended, hbare⟩
  · have hall : readLoop (.start session) (stretch t chunk) =
        (if progress'.result.frames = [] then progress' else progress'.stop .messagesReady, []) :=
      (hloop.trans hstep).trans (by rw [readLoop])
    obtain ⟨extra, hextra, -⟩ := itemsAfter_append buffer (pre ++ t) chunk.bytes
    have hhandled : progress'.handled = mid ++ extra := by
      have hitems := hnext.items
      rw [hextra, hmid, List.append_assoc] at hitems
      exact (List.append_cancel_left hitems).symm
    have hended := hnext.again
    rw [hhandled, ← handleReadable_of_readLoop hall] at hended
    exact ⟨extra, .ongoing, hread (congrArg Prod.snd hall), hended, fun h => by cases h⟩

theorem receivedBytes_stretch (t : Bytes) (chunk : Chunk) :
    receivedBytes (stretch t chunk) = t ++ chunk.bytes := by
  rw [stretch, receivedBytes_append, receivedBytes_singles, receivedBytes, receivedBytes,
    List.append_nil]

theorem delivers_stretch (t : Bytes) (chunk : Chunk) :
    ∀ recv ∈ stretch t chunk, recv.delivers = true :=
  List.forall_mem_append.2 ⟨delivers_singles t, List.forall_mem_singleton.2 rfl⟩

/-- **What a stretch in one event comes to** if the cutting makes no difference: the same as a byte at
a time. -/
theorem handedOver_stretch (hbuffer : (framing.parse buffer).items = [])
    (h : Listening buffer [] fd who w session) {chunk : Chunk}
    (hirrelevant : Irrelevant parser throws w fd (pre ++ t ++ chunk.bytes))
    (hunbroken : ∀ frame ∈ itemsAfter buffer pre, frame.isFragment = false)
    (hmid : itemsAfter buffer (pre ++ t) = itemsAfter buffer pre ++ mid)
    (hunstopped : ∀ frame ∈ mid, frame.stops = none)
    (hvalid : malformedAfter buffer (pre ++ t) = false) :
    ∃ w' session' front finish, Listening buffer pre fd who w' session' ∧
      w'.closing fd =
        (w.closing fd || (itemsAfter buffer pre).any fun frame => frame.opcode = .close) ∧
      Ended buffer (pre ++ t ++ chunk.bytes) (itemsAfter buffer pre) (mid ++ front) finish
        (handleReadable session' (stretch t chunk)) ∧
      (finish.isMalformed = true → front = []) ∧
      (w'.handleReadable parser fd (readableInputs throws session' (stretch t chunk))).1.handedOver fd =
        outcomeOf parser (fun frame => ⟨fd, who, frame⟩) (requestsOf w'.log) (w'.closing fd)
          (mid ++ front ++ finish.rest) finish.isMalformed := by
  have hvalid' : malformedAfter buffer pre = false := by
    rw [← Bool.not_eq_true]
    intro hmalformed
    obtain ⟨_, -, hlater⟩ := itemsAfter_append buffer pre t
    rw [(hlater hmalformed).1] at hvalid
    cases hvalid
  obtain ⟨w', session', new, hread, hevent, hsession', hclosing⟩ :=
    listening_bytewise (t := pre) parser throws hbuffer h hvalid' hunbroken (stretch t chunk)
  rw [List.nil_append] at hsession' hevent
  obtain rfl : itemsAfter buffer pre = new := hevent.items
  obtain ⟨front, finish, hread', hended, hbare⟩ :=
    ended_stretch parser throws hsession' hmid hunstopped hvalid chunk
  refine ⟨w', session', front, finish, hsession', hclosing, hended, hbare, ?_⟩
  obtain ⟨rest, hrest, houtcome⟩ := comes_of_bytewise parser throws hbuffer h
    (List.nil_append (pre ++ t ++ chunk.bytes))
  obtain rfl : rest = itemsAfter buffer pre ++ (mid ++ front ++ finish.rest) :=
    hrest.symm.trans hended.items
  have hsame := hirrelevant (bytewise pre ++ stretch t chunk) _
    (List.forall_mem_append.2 ⟨delivers_bytewise pre, delivers_stretch t chunk⟩)
    (delivers_bytewise _) (by rw [receivedBytes_append, receivedBytes_bytewise, receivedBytes_stretch,
      List.append_assoc]) (receivedBytes_bytewise _)
  rw [hread, hread', houtcome, hended.malformed, ← outcomeOf_append _ _ _ hunbroken,
    ← hevent.requests, ← hclosing] at hsame
  exact hsame

/-! ### What makes a difference -/

/-- A message that is due and parsed along with a malformed frame makes a difference. -/
theorem due_of_irrelevant (hbuffer : (framing.parse buffer).items = [])
    (h : Listening buffer [] fd who w session) {chunk : Chunk} {new : List Frame}
    (hirrelevant : Irrelevant parser throws w fd (pre ++ chunk.bytes))
    (hcompletes : Completes buffer pre chunk new true) : dueOf parser new = [] := by
  have hnil : pre ++ [] = pre := List.append_nil pre
  obtain ⟨w', session', front, finish, hsession', -, hended, hbare, houtcome⟩ :=
    handedOver_stretch hbuffer h (by rw [hnil]; exact hirrelevant) hcompletes.unbroken
      (show itemsAfter buffer (pre ++ []) = itemsAfter buffer pre ++ [] by rw [hnil, List.append_nil])
      (List.forall_mem_nil _) (by rw [hnil]; exact hcompletes.valid)
  have hmalformed : finish.isMalformed = true := by
    rw [← hended.malformed, hnil]
    exact hcompletes.malformed
  obtain rfl := hbare hmalformed
  have hrest : finish.rest = new := by
    have hitems := hended.items
    rw [hnil, hcompletes.items] at hitems
    exact (List.append_cancel_left hitems).symm
  rcases handleReadable_halts parser throws hsession' hended.handled hended.final with
    ⟨w'', -, hhanded, hverdict⟩ | ⟨before, text, between, hsplit, -⟩
  · obtain ⟨more, hlog, hmore⟩ := @requestsOf_takeVerdict w'' fd
      (handleReadable session' (stretch [] chunk)).session
      (handleReadable session' (stretch [] chunk)).result
    have hrequests := congrArg Prod.fst houtcome
    rw [hverdict, WebsocketWorker.handedOver, outcomeOf, hlog, requestsOf_append, hmore,
      hhanded.requests, hrest] at hrequests
    have hsame : requestsOf w'.log = requestsOf w'.log ++
        (dueOf parser new).map fun frame => (⟨fd, who, frame⟩ : Request) := by
      simpa using hrequests
    exact List.map_eq_nil_iff.1 (List.self_eq_append_right.1 hsame)
  · exact absurd hsplit.symm (List.append_ne_nil_of_right_ne_nil _ (List.cons_ne_nil _ _))

/-- There is one way to split off the first frame that ends the reading. -/
theorem append_eq_append_of_stops {before rest : List Frame} {stop : Frame} {after : List Frame}
    (h : front ++ rest = before ++ stop :: after) (hfront : ∀ frame ∈ front, frame.stops = none)
    (hbefore : ∀ frame ∈ before, frame.stops = none) (hstop : stop.stops ≠ none)
    (hrest : ∀ first ∈ rest.head?, first.stops ≠ none) :
    front = before ∧ rest = stop :: after := by
  induction front generalizing before with
  | nil =>
    cases before with
    | nil => exact ⟨rfl, h⟩
    | cons first before =>
      rw [List.nil_append, List.cons_append] at h
      subst h
      exact absurd (hbefore first List.mem_cons_self) (hrest first rfl)
  | cons first front ih =>
    obtain ⟨hfirst, hfront'⟩ := List.forall_mem_cons.1 hfront
    cases before with
    | nil =>
      obtain ⟨rfl, -⟩ := List.cons.inj h
      exact absurd hfirst hstop
    | cons first' before =>
      obtain ⟨rfl, h'⟩ := List.cons.inj h
      obtain ⟨rfl, hrest'⟩ := ih h' hfront' (List.forall_mem_cons.1 hbefore).2
      exact ⟨rfl, hrest'⟩

/-- So an event in which a Close is parsed, and no frame before it ends the reading, ends there. -/
theorem Ended.eq_closed {before after : List Frame} {close : Frame}
    (h : Ended buffer last items front finish progress)
    (hitems : itemsAfter buffer last = items ++ (before ++ close :: after))
    (hvalid : malformedAfter buffer last = false) (hclose : close.opcode = .close)
    (hbefore : ∀ frame ∈ before, frame.stops = none) :
    front = before ∧ finish = .closed close after := by
  have hfits := h.fits
  have hmalformed := h.malformed
  rw [hvalid] at hmalformed
  rw [h.items] at hitems
  have hsplit := append_eq_append_of_stops (List.append_cancel_left hitems) h.unstopped hbefore
    (stops_ne_none_of_close hclose)
  cases finish with
  | ongoing =>
    obtain ⟨-, hrest⟩ := hsplit fun _ hfirst => by cases hfirst
    cases hrest
  | closed close' tail =>
    obtain ⟨rfl, hrest⟩ := hsplit fun first hfirst => by
      obtain rfl : close' = first := Option.some.inj hfirst
      exact stops_ne_none_of_close hfits.1
    obtain ⟨rfl, rfl⟩ := List.cons.inj hrest
    exact ⟨rfl, rfl⟩
  | broken fragment tail =>
    obtain ⟨rfl, hrest⟩ := hsplit fun first hfirst => by
      obtain rfl : fragment = first := Option.some.inj hfirst
      exact stops_of_isFragment hfits.1
    obtain ⟨rfl, -⟩ := List.cons.inj hrest
    have hfragment := hfits.1
    rw [isFragment_of_close hclose] at hfragment
    cases hfragment
  | malformed new => cases hmalformed

/-- Behind an event that a Close has ended the session is there, and what has been handed over came
before the Close. -/
theorem handed_of_closed (parser : JsonParser) (throws : Frame → Bool)
    (h : Listening buffer pre fd who w session) {close : Frame} {tail : List Frame}
    (hended : Ended buffer last items front (.closed close tail) (handleReadable session recvs)) :
    ((w.handleReadable parser fd (readableInputs throws session recvs)).1.sessions fd).isNone = false ∧
      ∃ handed : List Frame, handed.length ≤ (front.filter (Frame.dumps parser)).length ∧
        requestsOf (w.handleReadable parser fd (readableInputs throws session recvs)).1.log =
          requestsOf w.log ++ handed.map fun frame => ⟨fd, who, frame⟩ := by
  obtain ⟨hclose, hstatus⟩ := hended.fits
  rcases handleReadable_halts parser throws h hended.handled hended.final with
    ⟨w', -, hhanded, hverdict⟩ | ⟨before, text, between, hsplit, -, -, hhanded⟩
  · have hqueued : (handleReadable session recvs).result.outputQueued = true := by
      rw [(reading_handleReadable session recvs).queued, hended.handled]
      simp [Finish.final, Frame.answer, hclose]
    obtain ⟨more, hlog, hmore⟩ := @requestsOf_takeVerdict w' fd
      (handleReadable session recvs).session (handleReadable session recvs).result
    rw [hverdict]
    refine ⟨?_, _, Nat.le_refl _, ?_⟩
    · rw [WebsocketWorker.takeVerdict, hstatus]
      simp only [hqueued, if_true]
      rw [WebsocketWorker.markClosing]
      simp [hhanded.session]
    · rw [hlog, requestsOf_append, hmore, List.append_nil, hhanded.requests]
  · refine ⟨by rw [hhanded.session]; rfl, _, ?_, hhanded.requests⟩
    rw [hsplit, List.append_cons before text between, List.filter_append (before ++ [text]),
      List.length_append]
    exact Nat.le_add_right _ _

/-- A message that can be dumped, or a fragment, makes a difference behind a Close that is parsed
along with it. -/
theorem behind_close_of_irrelevant (hbuffer : (framing.parse buffer).items = [])
    (h : Listening buffer [] fd who w session) {chunk : Chunk} {before after : List Frame}
    {close : Frame} (hirrelevant : Irrelevant parser throws w fd (pre ++ chunk.bytes))
    (hcompletes : Completes buffer pre chunk (before ++ close :: after) false)
    (hclose : close.opcode = .close) (hbefore : ∀ frame ∈ before, frame.stops = none) :
    ∀ frame ∈ after, frame.dumps parser = false ∧ frame.isFragment = false := by
  have hnil : pre ++ [] = pre := List.append_nil pre
  obtain ⟨w', session', front, finish, hsession', -, hended, -, houtcome⟩ :=
    handedOver_stretch hbuffer h (by rw [hnil]; exact hirrelevant) hcompletes.unbroken
      (show itemsAfter buffer (pre ++ []) = itemsAfter buffer pre ++ [] by rw [hnil, List.append_nil])
      (List.forall_mem_nil _) (by rw [hnil]; exact hcompletes.valid)
  rw [hnil, List.nil_append] at hended
  rw [List.nil_append] at houtcome
  obtain ⟨rfl, rfl⟩ := hended.eq_closed hcompletes.items hcompletes.malformed hclose hbefore
  obtain ⟨hthere, handed, hlength, hrequests⟩ := handed_of_closed parser throws hsession' hended
  have hfirst := congrArg Prod.fst houtcome
  have hsecond := congrArg Prod.snd houtcome
  rw [WebsocketWorker.handedOver, outcomeOf, hrequests] at hfirst
  rw [WebsocketWorker.handedOver, WebsocketWorker.deliveryStatus, hthere, outcomeOf] at hsecond
  -- The statuses are the same, so no fragment is overlooked.
  have hunbroken : ∀ frame ∈ front ++ close :: after, frame.isFragment = false := by
    intro frame hframe
    by_contra hfragment
    have hany : (front ++ (Finish.closed close after).rest).any Frame.isFragment = true :=
      List.any_eq_true.2 ⟨frame, hframe, by simpa using hfragment⟩
    rw [hany, Bool.or_true, if_pos rfl, if_neg Bool.false_ne_true] at hsecond
    split at hsecond <;> cases hsecond
  -- And as many messages are handed over, so none is.
  have hdumps : ((close :: after).filter (Frame.dumps parser)).length = 0 := by
    have hlengths := congrArg List.length (List.append_cancel_left hfirst)
    rw [List.length_map, List.length_map, Finish.rest, dueOf_of_unbroken hunbroken,
      List.filter_append, List.length_append] at hlengths
    omega
  intro frame hframe
  have hnone := List.filter_eq_nil_iff.1 (List.length_eq_zero_iff.1 hdumps) frame
    (List.mem_cons_of_mem _ hframe)
  exact ⟨by simpa using hnone,
    hunbroken frame (List.mem_append_right _ (List.mem_cons_of_mem _ hframe))⟩

/-- **Behind a message at which the dispatch loop ends**, in the same event: nothing that makes a
difference. -/
theorem behind_halt_of_irrelevant (hbuffer : (framing.parse buffer).items = [])
    (h : Listening buffer [] fd who w session) {chunk : Chunk} {text : Frame} {between : List Frame}
    (hirrelevant : Irrelevant parser throws w fd (pre ++ t ++ chunk.bytes))
    (hunbroken : ∀ frame ∈ itemsAfter buffer pre, frame.isFragment = false)
    (hmid : itemsAfter buffer (pre ++ t) = itemsAfter buffer pre ++ text :: between)
    (htext : text.halts parser throws = true) (hbetween : ∀ frame ∈ between, frame.stops = none)
    (hvalid : malformedAfter buffer (pre ++ t) = false) :
    ∃ new, itemsAfter buffer (pre ++ t ++ chunk.bytes) = itemsAfter buffer (pre ++ t) ++ new ∧
      malformedAfter buffer (pre ++ t ++ chunk.bytes) = false ∧
      (∀ frame ∈ new, frame.dumps parser = false ∧ frame.isFragment = false) ∧
      ((new.any fun frame => frame.opcode = .close) = true →
        (w.closing fd || (itemsAfter buffer pre).any fun frame => frame.opcode = .close) = true) := by
  have hmessage : text.isMessage = true := by
    rw [Frame.halts, Bool.and_eq_true] at htext
    exact htext.1
  have hstops : text.stops = none := by
    by_contra hstops
    rw [isMessage_of_stops hstops] at hmessage
    cases hmessage
  obtain ⟨w', session', front, finish, hsession', hclosing, hended, -, houtcome⟩ :=
    handedOver_stretch hbuffer h hirrelevant hunbroken hmid
      (List.forall_mem_cons.2 ⟨hstops, hbetween⟩) hvalid
  have hitems := hended.items
  -- The dispatch loop ends at the message.
  rcases handleReadable_halts parser throws hsession' hended.handled hended.final with
    ⟨w'', hnone, -⟩ | ⟨before, text', between', hsplit, hbefore, -, hhanded⟩
  · rw [hnone text (by simp)] at htext
    cases htext
  · obtain ⟨rfl, rfl⟩ : before = [] ∧ text' = text := by
      cases before with
      | nil => exact ⟨rfl, (List.cons.inj hsplit).1.symm⟩
      | cons first before =>
        obtain ⟨rfl, -⟩ := List.cons.inj hsplit
        rw [hbefore text List.mem_cons_self] at htext
        cases htext
    have hfirst := congrArg Prod.fst houtcome
    have hsecond := congrArg Prod.snd houtcome
    rw [WebsocketWorker.handedOver, outcomeOf, hhanded.requests, List.nil_append] at hfirst
    rw [WebsocketWorker.handedOver, WebsocketWorker.deliveryStatus, hhanded.session, outcomeOf,
      hhanded.closing] at hsecond
    simp only [Option.isNone_some, if_false, Bool.false_eq_true] at hsecond
    have hlost : (finish.isMalformed ||
        (text' :: between ++ front ++ finish.rest).any Frame.isFragment) = false := by
      rw [← Bool.not_eq_true]
      intro hlost
      rw [if_pos hlost] at hsecond
      split at hsecond <;> cases hsecond
    obtain ⟨hmalformed, hwhole⟩ := Bool.or_eq_false_iff.1 hlost
    rw [hlost, if_neg Bool.false_ne_true] at hsecond
    have hwhole' : ∀ frame ∈ text' :: between ++ front ++ finish.rest, frame.isFragment = false :=
      fun frame hframe => by simpa using List.any_eq_false.1 hwhole frame hframe
    have hdumps : (between ++ (front ++ finish.rest)).filter (Frame.dumps parser) = [] := by
      have hdue := List.append_cancel_left hfirst
      have hregroup : text' :: between ++ front ++ finish.rest =
          [text'] ++ (between ++ (front ++ finish.rest)) := by simp
      rw [dueOf_of_unbroken hwhole', hregroup, List.filter_append, List.map_append] at hdue
      exact List.map_eq_nil_iff.1 (List.self_eq_append_right.1 hdue)
    refine ⟨front ++ finish.rest, ?_, hended.malformed.trans hmalformed, fun frame hframe => ⟨?_, ?_⟩,
      fun hclose => ?_⟩
    · rw [hitems, hmid]
      simp
    · simpa using List.filter_eq_nil_iff.1 hdumps frame (List.mem_append_right _ hframe)
    · refine hwhole' frame ?_
      rw [List.append_assoc]
      exact List.mem_append_right _ hframe
    · rw [← hclosing]
      by_contra hopen
      have hany : (text' :: between ++ front ++ finish.rest).any (fun frame => frame.opcode = .close) =
          true := by
        rw [List.append_assoc, List.any_append, hclose, Bool.or_true]
      rw [hany, Bool.or_true, if_pos rfl, if_neg hopen] at hsecond
      cases hsecond

/-- A frame is completed by some byte, by which nothing is malformed. -/
theorem exists_lastByte (hbuffer : (framing.parse buffer).items = []) {before after : List Frame}
    {frame : Frame} (hitems : itemsAfter buffer bytes = before ++ frame :: after) :
    ∃ s b, s ++ [b] <+: bytes ∧ itemsAfter buffer s = before ∧
      itemsAfter buffer (s ++ [b]) = before ++ [frame] ∧
      malformedAfter buffer (s ++ [b]) = false := by
  induction bytes using List.reverseRecOn generalizing after with
  | nil => exact absurd hitems.symm (List.append_ne_nil_of_right_ne_nil _ (List.cons_ne_nil _ _))
  | append_singleton bytes b ih =>
    obtain ⟨new, hnew, hlength, hvalid⟩ := itemsAfter_snoc hbuffer bytes b
    have hlater {after : List Frame} (hbytes : itemsAfter buffer bytes = before ++ frame :: after) :=
      Exists.imp (fun s => Exists.imp fun c => And.imp_left fun hs : s ++ [c] <+: bytes =>
        hs.trans (List.prefix_append bytes [b])) (ih hbytes)
    rw [hnew] at hitems
    match new, hlength with
    | [], _ =>
      rw [List.append_nil] at hitems
      exact hlater hitems
    | [last], _ =>
      rcases List.eq_nil_or_concat after with rfl | ⟨after, last', rfl⟩
      · obtain ⟨hbefore, hlast⟩ := List.append_inj' hitems rfl
        refine ⟨bytes, b, List.prefix_rfl, hbefore, by rw [hnew, hbefore, hlast], ?_⟩
        exact hvalid (List.cons_ne_nil _ _)
      · rw [List.concat_eq_append, ← List.cons_append, ← List.append_assoc] at hitems
        exact hlater (List.append_inj' hitems rfl).1

/-- **Where the cutting makes no difference**, to the stream and all its beginnings, nothing is given
up. -/
theorem separable_of_irrelevant (hbuffer : (framing.parse buffer).items = [])
    (h : Listening buffer [] fd who w session)
    (hirrelevant : ∀ beginning, beginning <+: bytes → Irrelevant parser throws w fd beginning) :
    Separable parser throws (w.closing fd) buffer bytes where
  malformed := by
    intro pre chunk new hpre hcompletes
    refine ⟨due_of_irrelevant hbuffer h (hirrelevant _ hpre) hcompletes, ?_⟩
    intro before text between hitems htext
    by_contra hnone
    have hbetween : ∀ frame ∈ between, frame.stops = none := by
      intro frame hframe
      by_contra hstops
      exact hnone ⟨frame, hframe, hstops⟩
    obtain ⟨s, b, ⟨t, rfl⟩, hbefore, -, -⟩ := exists_lastByte hbuffer hitems
    have hunbroken := hcompletes.unbroken
    rw [hitems, ← hbefore] at hunbroken
    rw [List.append_assoc s] at hpre hitems hcompletes
    rw [← hbefore] at hitems
    obtain ⟨_, -, hvalid, -⟩ := behind_halt_of_irrelevant hbuffer h (hirrelevant _ hpre)
      (fun frame hframe => hunbroken frame (List.mem_append_left _ hframe)) hitems htext hbetween
      hcompletes.valid
    rw [hcompletes.malformed] at hvalid
    cases hvalid
  closed := fun _ _ _ _ _ hpre => behind_close_of_irrelevant hbuffer h (hirrelevant _ hpre)
  halted := by
    intro before text between after hitems hbefore htext hbetween
    -- The first frames behind the message that do not end an event, and one more.
    have hnext {front rest : List Frame} {frame : Frame}
        (hsplit : between ++ after = front ++ frame :: rest)
        (hfront : ∀ frame ∈ front, frame.stops = none) :
        frame.dumps parser = false ∧ frame.isFragment = false ∧ (frame.opcode = .close →
          (w.closing fd || before.any fun frame => frame.opcode = .close) = true) := by
      have hitems' : itemsAfter buffer bytes = (before ++ text :: front) ++ frame :: rest := by
        rw [hitems, hsplit]
        simp
      obtain ⟨s, b, hs, rfl, -, -⟩ := exists_lastByte hbuffer hitems
      obtain ⟨s', b', hs', hitems'', hframe, hvalid⟩ := exists_lastByte hbuffer hitems'
      have hle : s <+: s' := by
        rcases List.prefix_or_prefix_of_prefix ((List.prefix_append s [b]).trans hs)
          ((List.prefix_append s' [b']).trans hs') with hle | ⟨t, rfl⟩
        · exact hle
        · obtain ⟨extra, hextra, -⟩ := itemsAfter_append buffer s' t
          rw [hextra] at hitems''
          have hlength := congrArg List.length hitems''
          rw [List.length_append, List.length_append, List.length_cons] at hlength
          omega
      obtain ⟨t, rfl⟩ := hle
      have hvalid' : malformedAfter buffer (s ++ t) = false := by
        rw [← Bool.not_eq_true]
        intro hmalformed
        obtain ⟨_, -, hlater⟩ := itemsAfter_append buffer (s ++ t) [b']
        rw [(hlater hmalformed).1] at hvalid
        cases hvalid
      obtain ⟨new, hnew, -, hall, hclose⟩ := behind_halt_of_irrelevant hbuffer h
        (show Irrelevant parser throws w fd (s ++ t ++ (Chunk.single b').bytes) from
          hirrelevant _ hs') hbefore hitems'' htext hfront hvalid'
      obtain rfl : new = [frame] := by
        rw [hitems''] at hnew
        exact List.append_cancel_left (hnew.symm.trans hframe)
      obtain ⟨hdumps, hfragment⟩ := hall frame List.mem_cons_self
      exact ⟨hdumps, hfragment, fun hframeclose => hclose (by simp [hframeclose])⟩
    refine ⟨fun frame hframe => ?_, fun stop hmem hstops => ?_⟩
    · obtain ⟨front, rest, rfl⟩ := List.append_of_mem hframe
      refine (hnext (List.append_assoc front (frame :: rest) after) fun other hother => ?_).1
      exact hbetween other (List.mem_append_left _ hother)
    · cases after with
      | nil => cases hmem
      | cons first after =>
        obtain rfl : first = stop := Option.some.inj hmem
        obtain ⟨-, hfragment, hclose⟩ := hnext rfl hbetween
        rcases stops_cases hstops with ⟨hopcode, -⟩ | ⟨hfragment', -⟩
        · exact ⟨hopcode, hclose hopcode⟩
        · rw [hfragment] at hfragment'
          cases hfragment'

/-! ### The law -/

/-- **What reaches the dispatcher does not depend on the cutting** of a stream of which nothing is
given up, and neither does the status. Where no frame waits in the buffer, that is exact: if the cutting
makes no difference to a stream and to its beginnings, then nothing is given up of it. -/
theorem segmentation_irrelevant (parser : JsonParser) (throws : Frame → Bool) (w : WebsocketWorker)
    (fd : Fd) (session : WebSocketSession) (bytes : Bytes) (hsession : w.sessions fd = some session) :
    ((w.deadlines fd = none →
        Separable parser throws (w.closing fd) session.connection.inputBuffer bytes) →
      Irrelevant parser throws w fd bytes) ∧
    ((framing.parse session.connection.inputBuffer).items = [] →
      ((∀ beginning, beginning <+: bytes → Irrelevant parser throws w fd beginning) ↔
        (w.deadlines fd = none →
          Separable parser throws (w.closing fd) session.connection.inputBuffer bytes))) := by
  refine ⟨irrelevant_of_separable hsession, fun hbuffer => ⟨fun hirrelevant hdeadline => ?_,
    fun hsep beginning hbeginning => ?_⟩⟩
  · exact separable_of_irrelevant hbuffer (listening_start hsession hdeadline) hirrelevant
  · exact irrelevant_of_separable hsession fun hdeadline => (hsep hdeadline).mono hbeginning

/-- Of a stream of messages that are dispatched, and of Pings and Pongs, nothing is given up. -/
theorem separable_of_dispatched (hvalid : malformedAfter buffer bytes = false)
    (hitems : ∀ frame ∈ itemsAfter buffer bytes, frame.stops = none ∧
      frame.halts parser throws = false) : Separable parser throws closing buffer bytes where
  malformed := by
    rintro pre chunk new ⟨post, hbytes⟩ hcompletes
    obtain ⟨_, -, hlater⟩ := itemsAfter_append buffer (pre ++ chunk.bytes) post
    rw [← hbytes, (hlater hcompletes.malformed).1] at hvalid
    cases hvalid
  closed := by
    rintro pre chunk before close after ⟨post, hbytes⟩ hcompletes hclose
    obtain ⟨extra, hextra, -⟩ := itemsAfter_append buffer (pre ++ chunk.bytes) post
    rw [hbytes, hcompletes.items] at hextra
    exact absurd (hitems close (by rw [hextra]; simp)).1 (stops_ne_none_of_close hclose)
  halted := by
    intro before text between after hsplit _ htext
    have hmem : text ∈ itemsAfter buffer bytes :=
      hsplit ▸ List.mem_append_right _ List.mem_cons_self
    rw [(hitems text hmem).2] at htext
    cases htext

namespace Sample

/-- No dispatch throws. -/
def calm : Frame → Bool := fun _ => false

/-- The first half of the Text of an empty JSON object, and the second one. -/
def firstHalf : Chunk := ⟨(encoded objectFrame).take 4, by decide, by decide⟩
def secondHalf : Chunk := ⟨(encoded objectFrame).drop 4, by decide, by decide⟩

/-- The beginning of a frame with bits that are reserved. -/
def reserved : Bytes := [0xff, 0xff]

/-- It arrives on its own, and behind the Text. -/
def reservedChunk : Chunk := ⟨reserved, by decide, by decide⟩
def spoiltChunk : Chunk := ⟨encoded objectFrame ++ reserved, by decide, by decide⟩

end Sample

/-- A Text in two events is the same as in one, and so are all its beginnings. -/
theorem segmentation_irrelevant_halves :
    (Sample.registered.readStream Sample.objectParser Sample.calm 7
        [.data Sample.firstHalf 0 0, .again, .data Sample.secondHalf 0 0]).handedOver 7 =
      (Sample.registered.readStream Sample.objectParser Sample.calm 7
        [.data Sample.objectChunk 0 0]).handedOver 7 ∧
    ∀ beginning, beginning <+: Sample.encoded Sample.objectFrame →
      Irrelevant Sample.objectParser Sample.calm Sample.registered 7 beginning := by
  have hsep : Separable Sample.objectParser Sample.calm (Sample.registered.closing 7) []
      (Sample.encoded Sample.objectFrame) := by
    refine separable_of_dispatched ?_ ?_
    · decide +kernel
    · decide +kernel
  obtain ⟨henough, hexact⟩ := segmentation_irrelevant Sample.objectParser Sample.calm
    Sample.registered 7 Sample.openSession (Sample.encoded Sample.objectFrame) rfl
  refine ⟨henough (fun _ => hsep) _ _ ?_ ?_ ?_ ?_, (hexact ?_).2 fun _ => hsep⟩
  · simp [Recv.delivers]
  · simp [Recv.delivers]
  · decide
  · decide
  · exact congrArg Parsed.items parse_nil

/-- A malformed frame that arrives together with a Text takes the Text with it. -/
theorem segmentation_irrelevant_fails :
    receivedBytes [.data Sample.spoiltChunk 0 0] =
        receivedBytes [.data Sample.objectChunk 0 0, .data Sample.reservedChunk 0 0] ∧
      (Sample.registered.readStream Sample.objectParser Sample.calm 7
          [.data Sample.spoiltChunk 0 0]).handedOver 7 = ([], .protocolError) ∧
      (Sample.registered.readStream Sample.objectParser Sample.calm 7
          [.data Sample.objectChunk 0 0, .data Sample.reservedChunk 0 0]).handedOver 7 =
        ([⟨7, Sample.who, Sample.objectFrame⟩], .protocolError) := by
  refine ⟨by decide, ?_, ?_⟩ <;> decide +kernel

end ChatBackend
