import ChatBackend.Http.HttpMessage

/-!
# Reading a request

`HttpSession` reads from the connection, has the parser look at what has arrived, drops what the parser
has consumed, and goes on until there is a request or an error. Where the stream is cut does not matter
to a well-formed request. To others it does: the spaces of the request line are looked for in all that
has arrived, and not in the line.

## Main definitions

* `HttpReading`, `receive` — the read loop
* `SpacesInLine` — what the request line must have

## Main results

* `message_is_parsed` — a well-formed request, in whatever pieces it arrives
* `parsed_soundly_iff` — when nothing else is parsed and the pieces do not matter
-/

namespace ChatBackend

open HttpParse (machine)
open Streaming (Machine)

/-! ### The read loop -/

/-- The loop of `HandleHttpSession`; how much has been consumed in all is a history variable. -/
structure HttpReading where
  parser : HttpParse
  inputBuffer : Bytes
  consumed : ℕ
  status : HttpParseStatus

/-- `consumeInput`. -/
def consumeInput (buffer : Bytes) (count : ℕ) : Bytes :=
  if buffer.length ≤ count then [] else buffer.drop count

theorem consumeInput_eq (buffer : Bytes) (count : ℕ) :
    consumeInput buffer count = buffer.drop count := by
  rw [consumeInput]
  split
  · next hle => rw [List.drop_of_length_le hle]
  · rfl

namespace HttpReading

/-- Before anything has been read. -/
def start : HttpReading := ⟨.reset, [], 0, .needMoreData⟩

/-- A chunk is read, as long as more data is needed. -/
def read (reading : HttpReading) (chunk : Bytes) : HttpReading :=
  if reading.status = .needMoreData then
    let buffer := reading.inputBuffer ++ chunk
    let (status, consumed, parser) := reading.parser.parse buffer
    ⟨parser, consumeInput buffer consumed, reading.consumed + consumed, status⟩
  else reading

/-- The verdict, the request if there is one, and how much has been consumed. -/
def verdict (reading : HttpReading) : HttpParseStatus × Option HttpRequest × ℕ :=
  (reading.status, reading.parser.takeRequest.map Prod.fst, reading.consumed)

end HttpReading

/-- Chunks are read one after the other. -/
def receive (chunks : List Bytes) : HttpReading := chunks.foldl HttpReading.read .start

theorem receive_concat (chunks : List Bytes) (chunk : Bytes) :
    receive (chunks ++ [chunk]) = (receive chunks).read chunk := by
  rw [receive, List.foldl_concat]
  rfl

/-! ### The request line -/

/-- **If there are two spaces, the first line has them.** -/
def SpacesInLine (stream : Bytes) : Prop :=
  ∀ stop, findCrlf stream = some stop → 2 ≤ stream.count 32 → 2 ≤ (stream.take stop).count 32

variable {stream more chunk : Bytes} {stop : ℕ}

theorem SpacesInLine.of_append (h : SpacesInLine (stream ++ more)) : SpacesInLine stream := by
  intro stop hstop hspaces
  have hle := findCrlf_le hstop
  have hline := h stop (findCrlf_append hstop more)
    (by rw [List.count_append]; exact Nat.le_add_right_of_le hspaces)
  rwa [List.take_append_of_le_length (by omega)] at hline

/-- Until the line is complete nothing is read. -/
theorem run_no_line (h : findCrlf stream = none) : machine.run .reset stream = (.reset, 0) := by
  refine Machine.run_of_none ?_
  change HttpParse.advance .reset stream = none
  rw [HttpParse.advance, HttpParse.turn]
  simp [HttpParse.reset, HttpParse.parseRequestLine, h]

/-- Without two spaces it is an error. -/
theorem run_refused (hstop : findCrlf stream = some stop) (hspaces : stream.count 32 < 2) :
    machine.run .reset stream = (⟨.empty, .error, 0⟩, 0) := by
  rw [Machine.run_of_some (HttpParse.advance_requestLine_refused rfl hstop hspaces), List.drop_zero,
    HttpParse.run_error rfl]
  rfl

/-- A line with two spaces is the request line of a message. -/
theorem message_of_line (hstop : findCrlf stream = some stop)
    (hspaces : 2 ≤ (stream.take stop).count 32) :
    ∃ message : HttpMessage, 32 ∉ message.method ∧ 32 ∉ message.path ∧
      message.headers = [] ∧ findCrlf message.requestLine = none ∧
      message.requestLine.length = stop ∧
      stream = message.requestLine ++ 13 :: 10 :: stream.drop (stop + 2) := by
  obtain ⟨hsplit, hline⟩ := findCrlf_split hstop
  obtain ⟨method, path, version, hmethod, hpath, hparts⟩ := HttpParse.requestLine_of_count hspaces
  have hle := findCrlf_le hstop
  refine ⟨⟨method, path, version, [], []⟩, hmethod, hpath, rfl, ?_, ?_, ?_⟩
  · rw [HttpMessage.requestLine, ← hparts]
    exact hline
  · rw [HttpMessage.requestLine, ← hparts, List.length_take]
    omega
  · rw [HttpMessage.requestLine, ← hparts]
    exact hsplit

/-- **Where the first line has its spaces**, the parser resumes where it stopped. -/
theorem run_reset_append (h : SpacesInLine (stream ++ more)) :
    machine.run .reset (stream ++ more) =
      ((machine.run (machine.run .reset stream).1
          (stream.drop (machine.run .reset stream).2 ++ more)).1,
        (machine.run .reset stream).2 + (machine.run (machine.run .reset stream).1
          (stream.drop (machine.run .reset stream).2 ++ more)).2) := by
  rcases hstop : findCrlf stream with _ | stop
  · simp [run_no_line hstop]
  · have hle := findCrlf_le hstop
    by_cases hspaces : 2 ≤ (stream ++ more).count 32
    · have hline := h stop (findCrlf_append hstop more) hspaces
      rw [List.take_append_of_le_length (by omega)] at hline
      obtain ⟨message, hmethod, hpath, -, hnone, hlength, hstream⟩ := message_of_line hstop hline
      generalize stream.drop (stop + 2) = rest at hstream
      subst hstream
      have hstep (rest : Bytes) := HttpParse.advance_requestLine
        (show HttpParse.reset.state = .requestLine from rfl) hmethod hpath hnone rest
      have hdrop (rest : Bytes) : (message.requestLine ++ 13 :: 10 :: rest).drop
          (message.requestLine.length + 2) = rest := by
        rw [List.drop_append, List.drop_of_length_le (by omega)]
        simp
      have hnext : (HttpParse.reset.addRequestLine message).state ≠ .requestLine := nofun
      have happend := Machine.run_append HttpParse.stable_machine hnext rest more
      have hrun (rest : Bytes) := Machine.run_of_some (hstep rest)
      simp only [hdrop] at hrun
      have hskip (size : ℕ) : (message.requestLine ++ 13 :: 10 :: rest).drop
          (message.requestLine.length + 2 + size) = rest.drop size := by
        rw [← List.drop_drop, hdrop]
      rw [show message.requestLine ++ 13 :: 10 :: rest ++ more =
        message.requestLine ++ 13 :: 10 :: (rest ++ more) by simp, hrun, hrun, happend]
      simp only [hskip]
      rw [Nat.add_assoc (_ + 2)]
    · rw [not_le] at hspaces
      have hfew : stream.count 32 < 2 := by
        rw [List.count_append] at hspaces
        omega
      rw [run_refused (findCrlf_append hstop more) hspaces, run_refused hstop hfew,
        HttpParse.run_error rfl]
      rfl

/-! ### Where the loop is -/

namespace HttpReading

/-- **The loop is where one look at the stream would have brought it.** -/
structure Follows (reading : HttpReading) (stream : Bytes) : Prop where
  parser : reading.parser = (machine.run .reset stream).1
  consumed : reading.consumed = (machine.run .reset stream).2
  status : reading.status = reading.parser.state.status
  inputBuffer : reading.status = .needMoreData → reading.inputBuffer = stream.drop reading.consumed

theorem Follows.start : start.Follows [] := by
  have hrun : machine.run .reset [] = (.reset, 0) := run_no_line rfl
  refine ⟨?_, ?_, rfl, fun _ => rfl⟩
  · rw [hrun]
    rfl
  · rw [hrun]
    rfl

theorem run_of_ne_needMoreData {parser : HttpParse} (h : parser.state.status ≠ .needMoreData)
    (input : Bytes) : machine.run parser input = (parser, 0) := by
  rcases hstate : parser.state with _ | _ | _ | _ | _
  · exact absurd (by rw [hstate]; rfl) h
  · exact absurd (by rw [hstate]; rfl) h
  · exact absurd (by rw [hstate]; rfl) h
  · exact HttpParse.run_complete hstate input
  · exact HttpParse.run_error hstate input

variable {reading : HttpReading}

theorem read_eq (h : reading.status = .needMoreData) (chunk : Bytes) :
    reading.read chunk =
      ⟨(machine.run reading.parser (reading.inputBuffer ++ chunk)).1,
        (reading.inputBuffer ++ chunk).drop
          (machine.run reading.parser (reading.inputBuffer ++ chunk)).2,
        reading.consumed + (machine.run reading.parser (reading.inputBuffer ++ chunk)).2,
        (machine.run reading.parser (reading.inputBuffer ++ chunk)).1.state.status⟩ := by
  rw [read, if_pos h]
  simp only [HttpParse.parse_eq, consumeInput_eq]

/-- Behind a chunk, the buffer holds what has not been consumed. -/
theorem read_of_needMoreData (h : reading.Follows stream) (hline : SpacesInLine (stream ++ chunk))
    (hstatus : reading.status = .needMoreData) :
    (reading.read chunk).Follows (stream ++ chunk) ∧
      (reading.read chunk).inputBuffer = (stream ++ chunk).drop (reading.read chunk).consumed := by
  have hrun := run_reset_append hline
  have hbuffer := h.inputBuffer hstatus
  have hle : reading.consumed ≤ stream.length := by
    rw [h.consumed]
    exact Machine.run_le _ _
  rw [← h.parser, ← h.consumed] at hrun
  have hrest : (stream.drop reading.consumed ++ chunk).drop
      (machine.run reading.parser (stream.drop reading.consumed ++ chunk)).2 =
        (stream ++ chunk).drop (reading.consumed +
          (machine.run reading.parser (stream.drop reading.consumed ++ chunk)).2) := by
    rw [← List.drop_drop, List.drop_append_of_le_length hle]
  rw [read_eq hstatus, hbuffer]
  refine ⟨⟨?_, ?_, rfl, fun _ => hrest⟩, hrest⟩
  · rw [hrun]
  · rw [hrun]

theorem Follows.read (h : reading.Follows stream) (hline : SpacesInLine (stream ++ chunk)) :
    (reading.read chunk).Follows (stream ++ chunk) := by
  by_cases hstatus : reading.status = .needMoreData
  · exact (read_of_needMoreData h hline hstatus).1
  · have hrun := run_reset_append hline
    have hend : reading.parser.state.status ≠ .needMoreData := by rwa [← h.status]
    rw [← h.parser, ← h.consumed,
      run_of_ne_needMoreData hend (stream.drop reading.consumed ++ chunk), Nat.add_zero] at hrun
    rw [HttpReading.read, if_neg hstatus]
    refine ⟨?_, ?_, h.status, fun hneed => absurd hneed hstatus⟩
    · rw [hrun]
    · rw [hrun]

end HttpReading

/-- **Where the first line has its spaces**, the pieces do not matter. -/
theorem receive_follows {chunks : List Bytes} (h : SpacesInLine chunks.flatten) :
    (receive chunks).Follows chunks.flatten := by
  induction chunks using List.reverseRecOn with
  | nil => exact .start
  | append_singleton chunks chunk ih =>
    rw [List.flatten_concat] at h ⊢
    rw [receive_concat]
    exact (ih h.of_append).read h

/-! ### Messages -/

namespace HttpMessage

variable {message : HttpMessage}

theorem WellFormed.requestLine (h : message.WellFormed) : findCrlf message.requestLine = none := by
  have hrest : findCrlf (message.path ++ 32 :: message.version) = none :=
    findCrlf_join (findCrlf_eq_none_iff.2 h.path_line) (findCrlf_eq_none_iff.2 h.version_line)
      (by decide) (by decide)
  have hline := findCrlf_join (findCrlf_eq_none_iff.2 h.method_line) hrest
    (show (32 : UInt8) ≠ 13 by decide) (by decide)
  rw [HttpMessage.requestLine, List.append_assoc]
  exact hline

/-- The request line, and what is behind it. -/
theorem bytes_append (message : HttpMessage) (suffix : Bytes) :
    message.bytes ++ suffix = message.requestLine ++ 13 :: 10 ::
      (message.headers.flatMap HttpHeader.bytes ++ 13 :: 10 :: (message.body ++ suffix)) := by
  simp [bytes, crlf]

theorem WellFormed.spacesInLine (h : message.WellFormed) (suffix : Bytes) :
    SpacesInLine (message.bytes ++ suffix) := by
  intro stop hstop _
  rw [bytes_append, findCrlf_line h.requestLine] at hstop
  obtain rfl := Option.some.inj hstop
  rw [bytes_append, List.take_left, HttpMessage.requestLine]
  simp only [List.count_append, List.count_cons_self]
  omega

/-- **One look at a message** finds it, and what is behind it stays. -/
theorem WellFormed.run (h : message.WellFormed) (suffix : Bytes) :
    machine.run .reset (message.bytes ++ suffix) =
      (⟨message.request, .complete, message.body.length⟩, message.bytes.length) := by
  have hlength := HttpParse.contentLength_foldl message.headers
    (HttpParse.reset.addRequestLine message) rfl
  rw [← h.body] at hlength
  have hheaders := HttpParse.run_headers
    (show (HttpParse.reset.addRequestLine message).state = .header from rfl) h.headers
    (show (message.headers.foldl HttpParse.addHeader
      (HttpParse.reset.addRequestLine message)).contentLength ≤ (message.body ++ suffix).length by
        rw [hlength, List.length_append]
        exact Nat.le_add_right _ _)
  have hdrop : (message.bytes ++ suffix).drop (message.requestLine.length + 2) =
      message.headers.flatMap HttpHeader.bytes ++ 13 :: 10 :: (message.body ++ suffix) := by
    rw [bytes_append, List.drop_append, List.drop_of_length_le (by omega)]
    simp
  have hstep := HttpParse.advance_requestLine (show HttpParse.reset.state = .requestLine from rfl)
    h.method_word h.path_word h.requestLine
    (message.headers.flatMap HttpHeader.bytes ++ 13 :: 10 :: (message.body ++ suffix))
  rw [← bytes_append] at hstep
  rw [Machine.run_of_some hstep, hdrop, hheaders, hlength, Prod.mk.injEq]
  constructor
  · have hbody : (if message.body.length = 0 then [] else (message.body ++ suffix).take
        message.body.length) = message.body := by
      split
      · next hzero => rw [List.length_eq_zero_iff.1 hzero]
      · exact List.take_left
    rw [HttpParse.finish, hlength, HttpParse.foldl_addHeader]
    simp only [HttpParse.addRequestLine, HttpParse.reset, HttpRequest.empty, hbody, Option.or_none,
      request]
  · simp only [bytes, crlf, List.length_append, List.length_cons, List.length_nil]
    omega

variable {suffix : Bytes} {chunks : List Bytes}

/-- The beginning of what a client sends that sends a message first. -/
theorem WellFormed.follows (h : message.WellFormed)
    (hpart : chunks.flatten <+: message.bytes ++ suffix) :
    (receive chunks).Follows chunks.flatten := by
  obtain ⟨more, hmore⟩ := hpart
  have hline := h.spacesInLine suffix
  rw [← hmore] at hline
  exact receive_follows hline.of_append

/-- All of the message is there, and perhaps something behind it. -/
theorem front_of_isPrefix (hpart : chunks.flatten <+: message.bytes ++ suffix)
    (hle : message.bytes.length ≤ chunks.flatten.length) :
    chunks.flatten = message.bytes ++ chunks.flatten.drop message.bytes.length := by
  obtain ⟨more, hmore⟩ := hpart
  have htake := congrArg (List.take message.bytes.length) hmore
  rw [List.take_append_of_le_length hle, List.take_left] at htake
  conv_lhs => rw [← List.take_append_drop message.bytes.length chunks.flatten, htake]

/-- Some of the message is missing. -/
theorem WellFormed.waits (h : message.WellFormed)
    (hpart : chunks.flatten <+: message.bytes ++ suffix)
    (hshort : chunks.flatten.length < message.bytes.length) :
    (receive chunks).status = .needMoreData := by
  have hfollows := h.follows hpart
  by_contra hstatus
  obtain ⟨more, hmore⟩ := hpart
  have hrun := run_reset_append (hmore.symm ▸ h.spacesInLine suffix)
  have hend : (machine.run .reset chunks.flatten).1.state.status ≠ .needMoreData := by
    rwa [← hfollows.parser, ← hfollows.status]
  rw [hmore, h.run, HttpReading.run_of_ne_needMoreData hend, Nat.add_zero] at hrun
  have hle := Machine.run_le (M := machine) .reset chunks.flatten
  have hconsumed := congrArg Prod.snd hrun
  simp only at hconsumed
  omega

theorem WellFormed.done (h : message.WellFormed)
    (hpart : chunks.flatten <+: message.bytes ++ suffix)
    (hle : message.bytes.length ≤ chunks.flatten.length) :
    (receive chunks).parser = ⟨message.request, .complete, message.body.length⟩ ∧
      (receive chunks).consumed = message.bytes.length := by
  have hfollows := h.follows hpart
  rw [hfollows.parser, hfollows.consumed, front_of_isPrefix hpart hle, h.run]
  exact ⟨rfl, rfl⟩

/-- **What is behind the message stays in the buffer**, as far as the chunk that completes the message
has brought it. -/
theorem WellFormed.leftover (h : message.WellFormed) {chunk : Bytes}
    (hpart : (chunks ++ [chunk]).flatten <+: message.bytes ++ suffix)
    (hshort : chunks.flatten.length < message.bytes.length)
    (hle : message.bytes.length ≤ (chunks ++ [chunk]).flatten.length) :
    message.bytes ++ (receive (chunks ++ [chunk])).inputBuffer = (chunks ++ [chunk]).flatten := by
  have hline : SpacesInLine (chunks ++ [chunk]).flatten := by
    obtain ⟨more, hmore⟩ := hpart
    have hall := h.spacesInLine suffix
    rw [← hmore] at hall
    exact hall.of_append
  have hfirst : chunks.flatten <+: message.bytes ++ suffix := by
    refine List.IsPrefix.trans ?_ hpart
    rw [List.flatten_concat]
    exact List.prefix_append _ _
  have hconsumed := (h.done hpart hle).2
  rw [List.flatten_concat] at hline
  have hbuffer := (HttpReading.read_of_needMoreData (h.follows hfirst) hline
    (h.waits hfirst hshort)).2
  rw [← receive_concat, ← List.flatten_concat, hconsumed] at hbuffer
  rw [hbuffer]
  exact (front_of_isPrefix hpart hle).symm

end HttpMessage

/-- **A well-formed request is parsed completely, and nothing but it**: in whatever pieces it arrives,
more data is needed until all of it is there, and then it has been consumed to the byte, the request is
what the message says, and what has arrived behind it is still in the buffer. -/
theorem message_is_parsed {message : HttpMessage} (h : message.WellFormed) {suffix : Bytes}
    {before after : List Bytes} (hchunks : (before ++ after).flatten = message.bytes ++ suffix) :
    (before.flatten.length < message.bytes.length → (receive before).status = .needMoreData) ∧
    (message.bytes.length ≤ before.flatten.length →
      (receive before).status = .complete ∧
      (receive before).consumed = message.bytes.length ∧
      (receive before).parser.takeRequest = some (message.request, .reset)) ∧
    (∀ first chunk, before = first ++ [chunk] → first.flatten.length < message.bytes.length →
      message.bytes.length ≤ before.flatten.length →
      message.bytes ++ (receive before).inputBuffer = before.flatten) := by
  rw [List.flatten_append] at hchunks
  have hpart : before.flatten <+: message.bytes ++ suffix := ⟨_, hchunks⟩
  refine ⟨h.waits hpart, fun hle => ?_, ?_⟩
  · obtain ⟨hparser, hconsumed⟩ := h.done hpart hle
    refine ⟨?_, hconsumed, ?_⟩
    · rw [(h.follows hpart).status, hparser]
      rfl
    · rw [hparser]
      rfl
  · rintro first chunk rfl hshort hle
    exact h.leftover hpart hshort hle

/-- A request with a body, cut behind the `\r` of its empty line, with a second one behind it. -/
theorem message_is_parsed_cut :
    (receive [utf8 "POST / HTTP/1.1\r\nContent-Length:  3\r\n\r", utf8 "\nabcGET"]).inputBuffer =
      utf8 "GET" := by
  let message : HttpMessage :=
    ⟨utf8 "POST", utf8 "/", utf8 "HTTP/1.1", [⟨utf8 "Content-Length", utf8 "  3"⟩], utf8 "abc"⟩
  have hmessage : message.WellFormed := by
    refine ⟨by decide, ?_, by decide, ?_, ?_, ?_, by decide +kernel⟩
    · exact findCrlf_eq_none_iff.1 rfl
    · exact findCrlf_eq_none_iff.1 rfl
    · exact findCrlf_eq_none_iff.1 rfl
    · intro header hheader
      obtain rfl := List.mem_singleton.1 hheader
      exact ⟨by decide, by decide, findCrlf_eq_none_iff.1 rfl, findCrlf_eq_none_iff.1 rfl,
        fun _ => ⟨3, by decide, by decide +kernel⟩⟩
  have hbuffer := (@message_is_parsed message hmessage (utf8 "GET")
    [utf8 "POST / HTTP/1.1\r\nContent-Length:  3\r\n\r", utf8 "\nabcGET"] []
    (by decide)).2.2 [_] _ rfl (by decide) (by decide)
  exact List.append_cancel_left (hbuffer.trans (by decide))

/-! ### Everything else -/

theorem HttpState.status_eq_complete {state : HttpState} :
    state.status = .complete ↔ state = .complete := by
  cases state <;> simp [status]

/-- Pieces of a stream. -/
structure Cutting (stream : Bytes) (chunks : List Bytes) : Prop where
  flatten : chunks.flatten = stream
  ne_nil : ∀ chunk ∈ chunks, chunk ≠ []

/-- **A stream is parsed soundly**: what is taken for a request is a message at its beginning, and in
whatever pieces it arrives, the verdict is the same. -/
structure ParsedSoundly (stream : Bytes) : Prop where
  only_message : ∀ chunks, Cutting stream chunks → (receive chunks).status = .complete →
    ∃ message : HttpMessage, message.WellFormed ∧ message.bytes <+: stream ∧
      (receive chunks).parser.request = message.request ∧
      (receive chunks).consumed = message.bytes.length
  same_verdict : ∀ chunks chunks', Cutting stream chunks → Cutting stream chunks' →
    (receive chunks).verdict = (receive chunks').verdict

/-- Where the first line has its spaces, only messages are taken for requests. -/
theorem message_of_run (h : SpacesInLine stream)
    (hcomplete : (machine.run .reset stream).1.state = .complete) :
    ∃ (message : HttpMessage) (suffix : Bytes), message.WellFormed ∧
      stream = message.bytes ++ suffix := by
  rcases hstop : findCrlf stream with _ | stop
  · rw [run_no_line hstop] at hcomplete
    cases hcomplete
  · by_cases hspaces : 2 ≤ stream.count 32
    · obtain ⟨line, hmethod, hpath, -, hnone, hlength, hstream⟩ :=
        message_of_line hstop (h stop hstop hspaces)
      generalize stream.drop (stop + 2) = rest at hstream
      subst hstream
      have hstep := HttpParse.advance_requestLine (show HttpParse.reset.state = .requestLine from rfl)
        hmethod hpath hnone rest
      have hdrop : (line.requestLine ++ 13 :: 10 :: rest).drop (line.requestLine.length + 2) = rest := by
        rw [List.drop_append, List.drop_of_length_le (by omega)]
        simp
      rw [Machine.run_of_some hstep, hdrop] at hcomplete
      obtain ⟨headers, body, hheaders, rfl, hbody⟩ := HttpParse.headers_of_run rfl hcomplete
      rw [HttpParse.contentLength_foldl _ _ rfl] at hbody
      have hpart {part : Bytes} (hpart : part <:+: line.requestLine) : ¬ crlf <:+: part :=
        not_crlf_of_infix hpart hnone
      refine ⟨⟨line.method, line.path, line.version, headers,
        body.take (HttpMessage.contentLength headers)⟩,
        body.drop (HttpMessage.contentLength headers),
        ⟨hmethod, hpart ?_, hpath, hpart ?_, hpart ?_, hheaders, ?_⟩, ?_⟩
      · exact ⟨[], 32 :: line.path ++ 32 :: line.version, by simp [HttpMessage.requestLine]⟩
      · exact ⟨line.method ++ [32], 32 :: line.version, by simp [HttpMessage.requestLine]⟩
      · exact ⟨line.method ++ 32 :: line.path ++ [32], [], by simp [HttpMessage.requestLine]⟩
      · exact List.length_take_of_le hbody
      · rw [HttpMessage.bytes_append, List.take_append_drop]
        rfl
    · rw [run_refused hstop (by omega)] at hcomplete
      cases hcomplete

/-- **A stream is parsed soundly exactly if its first line has its spaces.** If the spaces that are
missing come later, they count for the line if they have arrived with it, and not otherwise. -/
theorem parsed_soundly_iff : ParsedSoundly stream ↔ SpacesInLine stream := by
  constructor
  · intro h stop hstop hspaces
    by_contra hfew
    rw [not_le] at hfew
    -- All at once, the line is taken; on its own it is refused.
    obtain ⟨next, hstep⟩ := HttpParse.advance_requestLine_spaces
      (show HttpParse.reset.state = .requestLine from rfl) hstop hspaces
    obtain ⟨hsplit, hline⟩ := findCrlf_split hstop
    have hcut : stream.take (stop + 2) = stream.take stop ++ [13, 10] := by
      conv_lhs => rw [hsplit]
      have hlength : (stream.take stop).length = stop :=
        List.length_take_of_le (le_trans (Nat.le_add_right _ _) (findCrlf_le hstop))
      rw [List.take_append, List.take_of_length_le (by omega), hlength, Nat.add_sub_cancel_left]
      rfl
    have hcount : (stream.take (stop + 2)).count 32 < 2 := by
      rw [hcut, List.count_append]
      exact hfew
    have hrefused := run_refused
      (show findCrlf (stream.take (stop + 2)) = some (stream.take stop).length by
        rw [hcut]
        exact findCrlf_line hline []) hcount
    have hle := findCrlf_le hstop
    have hwhole : Cutting stream [stream] := by
      refine ⟨List.append_nil _, ?_⟩
      rintro chunk hchunk rfl
      obtain rfl := List.mem_singleton.1 hchunk
      cases hstop
    have hparts : Cutting stream [stream.take (stop + 2), stream.drop (stop + 2)] := by
      refine ⟨by simp, ?_⟩
      rintro chunk hchunk rfl
      rw [List.mem_cons, List.mem_singleton] at hchunk
      rcases hchunk with hnil | hnil
      · rw [← hnil] at hcut
        simp at hcut
      · rw [List.take_of_length_le (List.drop_eq_nil_iff.1 hnil.symm)] at hcount
        omega
    have hconsumed : (receive [stream]).consumed =
        (receive [stream.take (stop + 2), stream.drop (stop + 2)]).consumed :=
      congrArg (fun verdict => verdict.2.2) (h.same_verdict _ _ hwhole hparts)
    have hone : (receive [stream]).consumed = (machine.run .reset stream).2 := by
      change (HttpReading.start.read stream).consumed = _
      rw [HttpReading.read_eq rfl]
      exact Nat.zero_add _
    have hfirst : HttpReading.start.read (stream.take (stop + 2)) =
        ⟨⟨.empty, .error, 0⟩, stream.take (stop + 2), 0, .error⟩ := by
      rw [HttpReading.read_eq rfl]
      simp only [HttpReading.start, List.nil_append, hrefused]
      rfl
    have htwo : (receive [stream.take (stop + 2), stream.drop (stop + 2)]).consumed = 0 := by
      change ((HttpReading.start.read (stream.take (stop + 2))).read _).consumed = 0
      rw [hfirst]
      rfl
    rw [hone, htwo, Machine.run_of_some hstep] at hconsumed
    simp only at hconsumed
    omega
  · intro h
    have hfollows {chunks : List Bytes} (hchunks : Cutting stream chunks) :
        (receive chunks).Follows stream := by
      rw [← hchunks.flatten] at h ⊢
      exact receive_follows h
    constructor
    · intro chunks hchunks hstatus
      have hfollows := hfollows hchunks
      have hcomplete : (machine.run .reset stream).1.state = .complete := by
        rw [hfollows.status, hfollows.parser] at hstatus
        exact HttpState.status_eq_complete.1 hstatus
      obtain ⟨message, suffix, hmessage, rfl⟩ := message_of_run h hcomplete
      refine ⟨message, hmessage, List.prefix_append _ _, ?_, ?_⟩
      · rw [hfollows.parser, hmessage.run]
      · rw [hfollows.consumed, hmessage.run]
    · intro chunks chunks' hchunks hchunks'
      have h₁ := hfollows hchunks
      have h₂ := hfollows hchunks'
      rw [HttpReading.verdict, HttpReading.verdict, h₁.status, h₂.status, h₁.parser, h₂.parser,
        h₁.consumed, h₂.consumed]

/-- A line with one space, and a second one in the line behind it: it is taken for a request. -/
theorem parsed_soundly_fails : ¬ ParsedSoundly (utf8 "GET /\r\nHost: x y\r\n\r\n") := by
  intro h
  have hsame := h.same_verdict [utf8 "GET /\r\nHost: x y\r\n\r\n"]
    [utf8 "GET /\r\n", utf8 "Host: x y\r\n\r\n"] ⟨rfl, by decide⟩ ⟨rfl, by decide⟩
  have hstatus := congrArg Prod.fst hsame
  exact absurd hstatus (by decide +kernel)

end ChatBackend
