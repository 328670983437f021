import ChatBackend.Http.HttpParse

/-!
# HTTP messages

What a request looks like on the wire, said without a parser: a request line, lines with a name and a
value, an empty line, and a body of the length that the last `Content-Length` says. The parser takes
each such message as what it is, and takes nothing else for one, once the request line is known to
have its two spaces.

## Main definitions

* `HttpHeader`, `HttpMessage` — messages, `HttpMessage.bytes` — on the wire
* `HttpMessage.WellFormed`, `HttpMessage.request`

## Main results

* `HttpParse.run_headers`, `HttpParse.headers_of_run` — the lines behind the request line
-/

namespace ChatBackend

open Function (update update_self update_of_ne)
open Streaming (Machine)

/-! ### Messages -/

/-- Without leading spaces. -/
def trimmed (value : Bytes) : Bytes := value.dropWhile (· = 32)

/-- What a decimal number says. -/
def decimal (text : Bytes) : Option ℕ :=
  if text ≠ [] ∧ text.all fun c => 48 ≤ c && c ≤ 57 then
    some (text.foldl (fun n c => 10 * n + (c.toNat - 48)) 0)
  else none

/-- `Content-Length`. -/
def contentLengthName : Bytes := utf8 "Content-Length"

/-- A line with a name and a value. -/
structure HttpHeader where
  name : Bytes
  value : Bytes

namespace HttpHeader

/-- On the wire. -/
def bytes (header : HttpHeader) : Bytes := header.name ++ 58 :: header.value ++ crlf

structure WellFormed (header : HttpHeader) : Prop where
  name_ne_nil : header.name ≠ []
  colon : 58 ∉ header.name
  name_line : ¬ crlf <:+: header.name
  value_line : ¬ crlf <:+: header.value
  length : header.name = contentLengthName →
    ∃ length ≤ HttpParse.maxBodySize, decimal (trimmed header.value) = some length

end HttpHeader

/-- A request. -/
structure HttpMessage where
  method : Bytes
  path : Bytes
  version : Bytes
  headers : List HttpHeader
  body : Bytes

namespace HttpMessage

/-- The last value that a name has. -/
def lastValue (headers : List HttpHeader) (name : Bytes) : Option Bytes :=
  (headers.filter fun header => header.name = name).getLast?.map HttpHeader.value

/-- What the last `Content-Length` says. -/
def contentLength (headers : List HttpHeader) : ℕ :=
  ((lastValue headers contentLengthName).bind fun value => decimal (trimmed value)).getD 0

/-- The first line. -/
def requestLine (message : HttpMessage) : Bytes :=
  message.method ++ 32 :: message.path ++ 32 :: message.version

/-- On the wire. -/
def bytes (message : HttpMessage) : Bytes :=
  message.requestLine ++ crlf ++ message.headers.flatMap HttpHeader.bytes ++ crlf ++ message.body

/-- **A well-formed request.** -/
structure WellFormed (message : HttpMessage) : Prop where
  method_word : 32 ∉ message.method
  method_line : ¬ crlf <:+: message.method
  path_word : 32 ∉ message.path
  path_line : ¬ crlf <:+: message.path
  version_line : ¬ crlf <:+: message.version
  headers : ∀ header ∈ message.headers, header.WellFormed
  body : message.body.length = contentLength message.headers

/-- The request that it is. -/
def request (message : HttpMessage) : HttpRequest where
  method := HttpParse.parseMethod message.method
  path := message.path
  version := message.version
  headers := fun name => (lastValue message.headers name).map trimmed
  body := message.body

end HttpMessage

/-! ### Parts of lines -/

/-- Two lines joined by a byte that is not part of an end of line. -/
theorem findCrlf_join {first second : Bytes} {byte : UInt8} (hfirst : findCrlf first = none)
    (hsecond : findCrlf second = none) (h13 : byte ≠ 13) (h10 : byte ≠ 10) :
    findCrlf (first ++ byte :: second) = none := by
  induction first using findCrlf.induct with
  | case1 => cases hfirst
  | case2 head first hnot ih =>
    rw [findCrlf.eq_2 _ _ hnot, Option.map_eq_none_iff] at hfirst
    have hnot' : ∀ tail, head = 13 → first ++ byte :: second = 10 :: tail → False := by
      intro tail hhead hline
      cases first with
      | nil => exact h10 (List.cons_eq_cons.1 hline).1
      | cons next first =>
        rw [List.cons_append, List.cons_eq_cons] at hline
        exact hnot first hhead (by rw [hline.1])
    rw [List.cons_append, findCrlf.eq_2 _ _ hnot', ih hfirst]
    rfl
  | case3 =>
    have hnot : ∀ tail, byte = 13 → second = 10 :: tail → False := fun _ hbyte => absurd hbyte h13
    rw [List.nil_append, findCrlf.eq_2 _ _ hnot, hsecond]
    rfl

theorem not_crlf_of_infix {part line : Bytes} (hpart : part <:+: line) (h : findCrlf line = none) :
    ¬ crlf <:+: part := by
  rw [findCrlf_eq_none_iff] at h
  exact fun hcrlf => h (hcrlf.trans hpart)

theorem idxOf?_join {first : Bytes} {byte : UInt8} (h : byte ∉ first) (second : Bytes) :
    (first ++ byte :: second).idxOf? byte = some first.length := by
  induction first with
  | nil => simp [List.idxOf?_cons]
  | cons head first ih =>
    rw [List.mem_cons, not_or] at h
    rw [List.cons_append, List.idxOf?_cons, if_neg (by simpa using Ne.symm h.1), ih h.2]
    rfl

theorem idxOf?_split {line : Bytes} {byte : UInt8} {i : ℕ} (h : line.idxOf? byte = some i) :
    line = line.take i ++ byte :: line.drop (i + 1) ∧ byte ∉ line.take i := by
  induction line generalizing i with
  | nil => cases h
  | cons head line ih =>
    rw [List.idxOf?_cons] at h
    split at h
    · next heq =>
      obtain rfl := Option.some.inj h
      obtain rfl : head = byte := by simpa using heq
      exact ⟨rfl, List.not_mem_nil⟩
    · next hne =>
      obtain ⟨i, hi, rfl⟩ := Option.map_eq_some_iff.1 h
      obtain ⟨hsplit, hnot⟩ := ih hi
      constructor
      · rw [List.take_succ_cons, List.drop_succ_cons, List.cons_append, ← hsplit]
      · rw [List.take_succ_cons, List.mem_cons, not_or]
        exact ⟨fun heq => hne (by simp [heq]), hnot⟩

namespace HttpParse

variable {parser parser' : HttpParse} {input rest : Bytes} {header : HttpHeader} {size : ℕ}

/-! ### Header lines -/

/-- A length is accepted if it is a decimal number that is not too large. -/
theorem parseContentLength_eq (parser : HttpParse) (text : Bytes) :
    parser.parseContentLength text = (decimal text).bind fun length =>
      if length ≤ maxBodySize then some { parser with contentLength := length } else none := by
  by_cases hdigits : text ≠ [] ∧ text.all fun c => 48 ≤ c && c ≤ 57
  · have htake : (text.takeWhile fun c => 48 ≤ c && c ≤ 57) = text :=
      List.takeWhile_eq_self_iff.2 (List.all_eq_true.1 hdigits.2)
    simp only [parseContentLength, fromChars, decimal, htake, if_neg hdigits.1, if_pos hdigits]
    generalize text.foldl (fun n c => 10 * n + (c.toNat - 48)) 0 = number
    by_cases hsmall : number < 2 ^ 64
    · simp only [if_pos hsmall, Option.bind_some, ne_eq, not_true_eq_false, if_false]
      by_cases hle : number ≤ maxBodySize
      · rw [if_neg (not_lt.2 hle), if_pos hle]
      · rw [if_pos (not_le.1 hle), if_neg hle]
    · have hlarge : ¬ number ≤ maxBodySize := fun hle =>
        hsmall (lt_of_le_of_lt hle (by decide))
      simp only [if_neg hsmall, Option.bind_some, if_neg hlarge]
  · rw [parseContentLength, decimal, if_neg hdigits]
    by_cases hnil : text = []
    · rw [if_pos hnil]
      rfl
    · -- Some character is no digit, and there the number ends.
      rw [if_neg hnil]
      have hshort : ((text.takeWhile fun c => 48 ≤ c && c ≤ 57).length : ℕ) ≠ text.length := by
        intro hlength
        have htake := (List.takeWhile_prefix fun c : UInt8 => 48 ≤ c && c ≤ 57).eq_of_length hlength
        exact hdigits ⟨hnil, List.all_eq_true.2 (List.takeWhile_eq_self_iff.1 htake)⟩
      simp only [fromChars]
      split
      · rfl
      · next heq =>
        split at heq
        · cases heq
        · split at heq
          · obtain ⟨rfl, rfl⟩ := Prod.mk.inj (Option.some.inj heq)
            rw [if_pos hshort]
            rfl
          · cases heq

/-- A line has been read. -/
def addHeader (parser : HttpParse) (header : HttpHeader) : HttpParse :=
  { parser with
    request := { parser.request with
      headers := update parser.request.headers header.name (some (trimmed header.value)) }
    contentLength :=
      if header.name = contentLengthName then (decimal (trimmed header.value)).getD 0
      else parser.contentLength }

theorem parseHeader_line (parser : HttpParse) (h : header.WellFormed) (rest : Bytes) :
    parser.parseHeader (header.bytes ++ rest) =
      (⟨.complete, header.bytes.length, false⟩, parser.addHeader header) := by
  obtain ⟨hname, hcolon, hnameLine, hvalueLine, hlength⟩ := h
  have hline : findCrlf (header.name ++ 58 :: header.value) = none :=
    findCrlf_join (findCrlf_eq_none_iff.2 hnameLine) (findCrlf_eq_none_iff.2 hvalueLine)
      (by decide) (by decide)
  have hbytes : header.bytes ++ rest = (header.name ++ 58 :: header.value) ++ 13 :: 10 :: rest := by
    simp [HttpHeader.bytes, crlf]
  have hlen : header.bytes.length = (header.name ++ 58 :: header.value).length + 2 := by
    simp only [HttpHeader.bytes, crlf, List.length_append, List.length_cons, List.length_nil]
  rw [hbytes, parseHeader.eq_def, findCrlf_line hline, hlen]
  obtain ⟨n, hn⟩ : ∃ n, (header.name ++ 58 :: header.value).length = n + 1 :=
    ⟨header.name.length + header.value.length, by simp; omega⟩
  have hsubstr : substr ((header.name ++ 58 :: header.value) ++ 13 :: 10 :: rest) 0
      (header.name ++ 58 :: header.value).length = header.name ++ 58 :: header.value := by
    rw [substr, List.drop_zero, List.take_left]
  rw [hn] at hsubstr ⊢
  simp only [hsubstr, idxOf?_join hcolon, List.take_left, if_neg hname]
  have hdrop : (header.name ++ 58 :: header.value).drop (header.name.length + 1) = header.value := by
    rw [List.drop_append, List.drop_of_length_le (Nat.le_succ _)]
    simp
  simp only [hdrop, parseContentLength_eq]
  by_cases hcl : header.name = utf8 "Content-Length"
  · obtain ⟨length, hle, hdecimal⟩ := hlength hcl
    have htrimmed : decimal (header.value.dropWhile (· = 32)) = some length := hdecimal
    simp only [if_pos hcl, htrimmed, Option.bind_some, if_pos hle, addHeader, contentLengthName,
      hdecimal, Option.getD_some]
    rfl
  · have hcl' : ¬ header.name = contentLengthName := hcl
    simp only [addHeader, if_neg hcl, if_neg hcl']
    rfl

/-- **A line is read only if it is well-formed.** -/
theorem line_of_parseHeader
    (h : parser.parseHeader input = (⟨.complete, size, false⟩, parser')) :
    ∃ header : HttpHeader, header.WellFormed ∧ input = header.bytes ++ input.drop size ∧
      size = header.bytes.length ∧ parser' = parser.addHeader header := by
  rw [parseHeader.eq_def] at h
  split at h
  · cases h
  · cases h
  · next stop hzero hstop =>
    obtain ⟨hsplit, hline⟩ := findCrlf_split hstop
    simp only [substr, List.drop_zero] at h
    split at h
    · cases h
    · next separator hseparator =>
      obtain ⟨hcolon, hnot⟩ := idxOf?_split hseparator
      generalize (input.take stop).take separator = name at h hcolon hnot
      generalize (input.take stop).drop (separator + 1) = value at h hcolon
      have hnameLine : ¬ crlf <:+: name :=
        not_crlf_of_infix (hcolon ▸ List.infix_append' [] name _) hline
      have hvalueLine : ¬ crlf <:+: value := by
        refine not_crlf_of_infix ?_ hline
        rw [hcolon]
        exact ⟨name ++ [58], [], by simp⟩
      have hbytes : input = HttpHeader.bytes ⟨name, value⟩ ++ input.drop (stop + 2) := by
        rw [hcolon] at hsplit
        conv_lhs => rw [hsplit]
        simp [HttpHeader.bytes, crlf]
      have hlength : stop + 2 = (HttpHeader.bytes ⟨name, value⟩).length := by
        have hle := findCrlf_le hstop
        have htotal := congrArg List.length hbytes
        rw [List.length_append, List.length_drop] at htotal
        omega
      split at h
      · cases h
      · next hnil =>
        split at h
        · next hcl =>
          rw [parseContentLength_eq] at h
          split at h
          · cases h
          · next parser₁ haccepted =>
            cases h
            obtain ⟨length, hdecimal, hmax⟩ := Option.bind_eq_some_iff.1 haccepted
            split at hmax
            · next hle =>
              cases hmax
              refine ⟨⟨name, value⟩, ⟨hnil, hnot, hnameLine, hvalueLine, fun _ => ?_⟩, hbytes,
                hlength, ?_⟩
              · exact ⟨length, hle, hdecimal⟩
              · have hdecimal' : decimal (trimmed value) = some length := hdecimal
                have hcl' : name = contentLengthName := hcl
                simp only [addHeader, if_pos hcl', hdecimal', Option.getD_some]
                rfl
            · cases hmax
        · next hcl =>
          cases h
          refine ⟨⟨name, value⟩, ⟨hnil, hnot, hnameLine, hvalueLine, fun h => absurd h hcl⟩, hbytes,
            hlength, ?_⟩
          have hcl' : ¬ name = contentLengthName := hcl
          simp only [addHeader, if_neg hcl']
          rfl

/-- The lines and the empty line have been read, and the body is there. -/
def finish (parser : HttpParse) (rest : Bytes) : HttpParse :=
  { parser with
    state := .complete
    request := { parser.request with
      body := if parser.contentLength = 0 then parser.request.body
        else rest.take parser.contentLength } }

theorem advance_line (hstate : parser.state = .header) (h : header.WellFormed) (rest : Bytes) :
    machine.step parser (header.bytes ++ rest) =
      some (parser.addHeader header, header.bytes.length) := by
  change parser.advance _ = _
  rw [advance, turn, hstate]
  simp only [parseHeader_line parser h rest, Bool.false_eq_true, if_false]

theorem advance_blank (hstate : parser.state = .header) (rest : Bytes) :
    machine.step parser (13 :: 10 :: rest) =
      some ({ parser with state := if parser.contentLength = 0 then .complete else .body }, 2) := by
  change parser.advance _ = _
  rw [advance, turn, hstate]
  by_cases hzero : parser.contentLength = 0
  · simp [parseHeader, findCrlf, hzero]
  · simp [parseHeader, findCrlf, hzero]

theorem advance_body (hstate : parser.state = .body) (input : Bytes) :
    machine.step parser input =
      if input.length < parser.contentLength then none
      else some ({ parser with
        state := .complete
        request := { parser.request with body := input.take parser.contentLength } },
        parser.contentLength) := by
  change parser.advance _ = _
  rw [advance, turn, hstate, parseBody]
  by_cases hshort : input.length < parser.contentLength
  · simp [hshort]
  · simp [hshort]

theorem run_complete (hstate : parser.state = .complete) (input : Bytes) :
    machine.run parser input = (parser, 0) := by
  refine Machine.run_of_none ?_
  change parser.advance input = none
  rw [advance, turn, hstate]

theorem run_error (hstate : parser.state = .error) (input : Bytes) :
    machine.run parser input = (parser, 0) := by
  refine Machine.run_of_none ?_
  change parser.advance input = none
  rw [advance, turn_of_error hstate]
  simp [hstate]

/-- The empty line and what is behind it. -/
theorem run_blank (hstate : parser.state = .header) (hbody : parser.contentLength ≤ rest.length) :
    machine.run parser (13 :: 10 :: rest) = (parser.finish rest, 2 + parser.contentLength) := by
  rw [Machine.run_of_some (advance_blank hstate rest), List.drop_succ_cons, List.drop_succ_cons,
    List.drop_zero]
  by_cases hzero : parser.contentLength = 0
  · rw [if_pos hzero, run_complete rfl]
    simp [finish, hzero]
  · have hstep := advance_body (show ({ parser with state := .body } : HttpParse).state = .body from rfl) rest
    rw [if_neg (not_lt.2 hbody)] at hstep
    rw [if_neg hzero, Machine.run_of_some hstep, run_complete rfl]
    simp [finish, hzero]

/-- **The lines of a message**, its empty line and its body are read as such. -/
theorem run_headers {headers : List HttpHeader} (hstate : parser.state = .header)
    (h : ∀ header ∈ headers, header.WellFormed)
    (hbody : (headers.foldl addHeader parser).contentLength ≤ rest.length) :
    machine.run parser (headers.flatMap HttpHeader.bytes ++ 13 :: 10 :: rest) =
      ((headers.foldl addHeader parser).finish rest,
        (headers.flatMap HttpHeader.bytes).length + 2 +
          (headers.foldl addHeader parser).contentLength) := by
  induction headers generalizing parser with
  | nil =>
    rw [List.flatMap_nil, List.nil_append, run_blank hstate hbody, List.length_nil, Nat.zero_add]
    rfl
  | cons header headers ih =>
    rw [List.forall_mem_cons] at h
    rw [List.foldl_cons] at hbody
    have hstate' : (parser.addHeader header).state = .header := hstate
    rw [List.flatMap_cons, List.append_assoc,
      Machine.run_of_some (advance_line hstate h.1 _), List.drop_left, ih hstate' h.2 hbody]
    simp only [List.foldl_cons, List.length_append, Nat.add_assoc]

/-- The empty line is the only one that ends the lines. -/
theorem blank_of_parseHeader
    (h : parser.parseHeader input = (⟨.complete, size, true⟩, parser')) :
    ∃ rest, input = 13 :: 10 :: rest := by
  rw [parseHeader.eq_def] at h
  split at h
  · cases h
  · next hstop =>
    have hsplit := (findCrlf_split hstop).1
    rw [List.take_zero, List.nil_append] at hsplit
    exact ⟨_, hsplit⟩
  · simp only at h
    split at h
    · cases h
    · split at h
      · cases h
      · split at h
        · split at h
          · cases h
          · cases h
        · cases h

/-- What the parser does with a line. -/
theorem header_cases {next : HttpParse} (hstate : parser.state = .header)
    (h : machine.step parser input = some (next, size)) :
    next.state = .error ∨
    (∃ header : HttpHeader, header.WellFormed ∧ input = header.bytes ++ input.drop size ∧
      size = header.bytes.length ∧ next = parser.addHeader header) ∨
    ∃ rest, input = 13 :: 10 :: rest := by
  have hline : parser.parseHeader input = parser.parseHeader input := rfl
  rcases advance_eq_some h with hon | ⟨hback, hne, -⟩
  · rw [turn, hstate] at hon
    simp only at hon
    split at hon
    · cases hon
    · cases hon
    · next heq =>
      split at hon
      · next hfinished =>
        rw [hfinished] at heq
        exact .inr (.inr (blank_of_parseHeader heq))
      · next hfinished =>
        cases hon
        rw [Bool.not_eq_true] at hfinished
        rw [hfinished] at heq
        exact .inr (.inl (line_of_parseHeader heq))
  · rcases turn_back hback with ⟨-, herror⟩ | ⟨-, ⟨hstatus, -⟩ | ⟨hstatus, -⟩⟩
    · exact .inl herror
    · cases hstatus
    · cases hstatus

/-- **Only well-formed lines**, an empty line and a body bring the parser to the end. -/
theorem headers_of_run (hstate : parser.state = .header)
    (h : (machine.run parser input).1.state = .complete) :
    ∃ (headers : List HttpHeader) (rest : Bytes), (∀ header ∈ headers, header.WellFormed) ∧
      input = headers.flatMap HttpHeader.bytes ++ 13 :: 10 :: rest ∧
      (headers.foldl addHeader parser).contentLength ≤ rest.length := by
  induction parser, input using Machine.run_induction (M := machine) with
  | stop parser input hstop =>
    rw [Machine.run_of_none hstop, hstate] at h
    cases h
  | item parser input next size hstep ih =>
    rw [Machine.run_of_some hstep] at h
    rcases header_cases hstate hstep with herror | ⟨header, hheader, hinput, rfl, rfl⟩ | ⟨rest, rfl⟩
    · rw [run_error herror, herror] at h
      cases h
    · obtain ⟨headers, rest, hheaders, hrest, hbody⟩ := ih hstate h
      refine ⟨header :: headers, rest, List.forall_mem_cons.2 ⟨hheader, hheaders⟩, ?_, hbody⟩
      rw [List.flatMap_cons, List.append_assoc, ← hrest]
      exact hinput
    · refine ⟨[], rest, nofun, rfl, ?_⟩
      rw [advance_blank hstate rest] at hstep
      cases hstep
      rw [List.drop_succ_cons, List.drop_succ_cons, List.drop_zero] at h
      by_contra hshort
      rw [not_le, List.foldl_nil] at hshort
      have hzero : parser.contentLength ≠ 0 := by omega
      have hwait := advance_body (show ({ parser with state := .body } : HttpParse).state = .body from rfl) rest
      rw [if_pos hshort] at hwait
      rw [if_neg hzero, Machine.run_of_none hwait] at h
      cases h

/-! ### What the lines leave -/

theorem lastValue_cons (header : HttpHeader) (headers : List HttpHeader) (name : Bytes) :
    HttpMessage.lastValue (header :: headers) name =
      (HttpMessage.lastValue headers name).or (if header.name = name then some header.value else none) := by
  simp only [HttpMessage.lastValue, List.filter_cons]
  by_cases hname : header.name = name
  · simp only [hname, decide_true, if_true, List.getLast?_cons]
    generalize (headers.filter fun header => decide (header.name = name)).getLast? = last
    cases last with
    | none => rfl
    | some last => rfl
  · simp only [hname, decide_false, Bool.false_eq_true, if_false, Option.or_none]

/-- The values that count are the last ones, and of a name that does not occur, the one before. -/
theorem foldl_addHeader (headers : List HttpHeader) (parser : HttpParse) :
    headers.foldl addHeader parser =
      { parser with
        request := { parser.request with
          headers := fun name => ((HttpMessage.lastValue headers name).map trimmed).or
            (parser.request.headers name) }
        contentLength := ((HttpMessage.lastValue headers contentLengthName).map
          fun value => (decimal (trimmed value)).getD 0).getD parser.contentLength } := by
  induction headers generalizing parser with
  | nil => rfl
  | cons header headers ih =>
    rw [List.foldl_cons, ih]
    simp only [addHeader, lastValue_cons, HttpParse.mk.injEq, HttpRequest.mk.injEq, true_and, and_true]
    constructor
    · funext name
      rcases HttpMessage.lastValue headers name with _ | value
      · by_cases hname : header.name = name
        · simp [hname]
        · simp [hname, update_of_ne (Ne.symm hname)]
      · simp
    · rcases HttpMessage.lastValue headers contentLengthName with _ | value
      · by_cases hname : header.name = contentLengthName
        · simp [hname]
        · simp [hname]
      · simp

theorem contentLength_foldl (headers : List HttpHeader) (parser : HttpParse)
    (hzero : parser.contentLength = 0) :
    (headers.foldl addHeader parser).contentLength = HttpMessage.contentLength headers := by
  rw [foldl_addHeader, HttpMessage.contentLength, hzero]
  rcases HttpMessage.lastValue headers contentLengthName with _ | value
  · rfl
  · simp

/-! ### Stability -/

theorem parseHeader_append {stop : ℕ} (parser : HttpParse) (h : findCrlf input = some stop)
    (more : Bytes) : parser.parseHeader (input ++ more) = parser.parseHeader input := by
  have hle := findCrlf_le h
  have hsubstr : substr (input ++ more) 0 stop = substr input 0 stop := by
    rw [substr, List.drop_zero, List.take_append_of_le_length (by omega), substr, List.drop_zero]
  rw [parseHeader.eq_def, parseHeader.eq_def, findCrlf_append h, h]
  cases stop with
  | zero => rfl
  | succ stop => simp only [hsubstr]

/-- **Behind the request line**, what has been read is read whatever comes behind it. -/
theorem stable_machine : machine.Stable fun parser => parser.state ≠ .requestLine := by
  intro parser hparser input next size hstep
  rcases hstate : parser.state with _ | _ | _ | _ | _
  · exact absurd hstate hparser
  · obtain ⟨stop, hstop⟩ : ∃ stop, findCrlf input = some stop := by
      rcases hfind : findCrlf input with _ | stop
      · have hnone : machine.step parser input = none := by
          change parser.advance input = none
          rw [advance, turn, hstate]
          simp [parseHeader, hfind]
        rw [hnone] at hstep
        cases hstep
      · exact ⟨stop, rfl⟩
    constructor
    · rcases header_cases hstate hstep with herror | ⟨header, -, -, -, rfl⟩ | ⟨rest, rfl⟩
      · simp [herror]
      · exact hparser
      · rw [advance_blank hstate rest] at hstep
        cases hstep
        by_cases hzero : parser.contentLength = 0
        · simp [hzero]
        · simp [hzero]
    · intro more
      rw [← hstep]
      change parser.advance _ = parser.advance _
      rw [advance, advance, turn, turn, hstate]
      simp only [parseHeader_append parser hstop]
  · rw [advance_body hstate] at hstep
    split at hstep
    · cases hstep
    · next hlong =>
      cases hstep
      refine ⟨by simp, fun more => ?_⟩
      rw [advance_body hstate, if_neg (by rw [List.length_append]; omega),
        List.take_append_of_le_length (by omega)]
  · change parser.advance input = _ at hstep
    rw [advance, turn, hstate] at hstep
    cases hstep
  · change parser.advance input = _ at hstep
    rw [advance, turn_of_error hstate, hstate] at hstep
    cases hstep

/-! ### The request line -/

/-- The request line has been read. -/
def addRequestLine (parser : HttpParse) (message : HttpMessage) : HttpParse :=
  { parser with
    state := .header
    request := { parser.request with
      method := parseMethod message.method
      path := message.path
      version := message.version } }

theorem findFrom_zero (byte : UInt8) (input : Bytes) : findFrom byte input 0 = input.idxOf? byte := by
  rw [findFrom, List.drop_zero]
  cases input.idxOf? byte with
  | none => rfl
  | some i => exact congrArg some (Nat.zero_add i)

/-- A request line with its two spaces. -/
theorem advance_requestLine (hstate : parser.state = .requestLine) {message : HttpMessage}
    (hmethod : 32 ∉ message.method) (hpath : 32 ∉ message.path)
    (hline : findCrlf message.requestLine = none) (rest : Bytes) :
    machine.step parser (message.requestLine ++ 13 :: 10 :: rest) =
      some (parser.addRequestLine message, message.requestLine.length + 2) := by
  have hinput : message.requestLine ++ 13 :: 10 :: rest =
      message.method ++ 32 :: (message.path ++ 32 :: (message.version ++ 13 :: 10 :: rest)) := by
    simp [HttpMessage.requestLine]
  have hfirst : findFrom 32 (message.requestLine ++ 13 :: 10 :: rest) 0 =
      some message.method.length := by
    rw [findFrom_zero, hinput, idxOf?_join hmethod]
  have htail : (message.requestLine ++ 13 :: 10 :: rest).drop (message.method.length + 1) =
      message.path ++ 32 :: (message.version ++ 13 :: 10 :: rest) := by
    rw [hinput, List.drop_append, List.drop_of_length_le (Nat.le_succ _)]
    simp
  have hsecond : findFrom 32 (message.requestLine ++ 13 :: 10 :: rest) (message.method.length + 1) =
      some (message.method.length + 1 + message.path.length) := by
    rw [findFrom, htail, idxOf?_join hpath]
    rfl
  have hlength : message.requestLine.length =
      message.method.length + 1 + message.path.length + 1 + message.version.length := by
    simp only [HttpMessage.requestLine, List.length_append, List.length_cons]
    omega
  have hmethod' : substr (message.requestLine ++ 13 :: 10 :: rest) 0 message.method.length =
      message.method := by
    rw [substr, List.drop_zero, hinput, List.take_left]
  have hpath' : substr (message.requestLine ++ 13 :: 10 :: rest) (message.method.length + 1)
      (sizeSub (sizeSub (message.method.length + 1 + message.path.length) message.method.length) 1) =
        message.path := by
    have hcount : sizeSub (sizeSub (message.method.length + 1 + message.path.length)
        message.method.length) 1 = message.path.length := by
      rw [sizeSub, sizeSub, if_pos (show message.method.length ≤ _ by omega), if_pos (by omega)]
      omega
    rw [hcount, substr, htail, List.take_left]
  have hversion' : substr (message.requestLine ++ 13 :: 10 :: rest)
      (message.method.length + 1 + message.path.length + 1)
      (sizeSub (sizeSub message.requestLine.length (message.method.length + 1 + message.path.length)) 1) =
        message.version := by
    have hcount : sizeSub (sizeSub message.requestLine.length
        (message.method.length + 1 + message.path.length)) 1 = message.version.length := by
      rw [sizeSub, sizeSub, hlength, if_pos (show message.method.length + 1 + _ ≤ _ by omega),
        if_pos (by omega)]
      omega
    have hdrop : (message.requestLine ++ 13 :: 10 :: rest).drop
        (message.method.length + 1 + message.path.length + 1) =
          message.version ++ 13 :: 10 :: rest := by
      rw [show message.method.length + 1 + message.path.length + 1 =
        message.method.length + 1 + (message.path.length + 1) by omega, ← List.drop_drop, htail]
      simp [List.drop_append]
    rw [hcount, substr, hdrop, List.take_left]
  change parser.advance _ = _
  rw [advance, turn, hstate]
  simp only [parseRequestLine, findCrlf_line hline, hfirst, hsecond, hmethod', hpath', hversion']
  rfl

/-- Two spaces, wherever they are, and the line is taken. -/
theorem advance_requestLine_spaces (hstate : parser.state = .requestLine) {stop : ℕ}
    (hstop : findCrlf input = some stop) (hspaces : 2 ≤ input.count 32) :
    ∃ next, machine.step parser input = some (next, stop + 2) := by
  change ∃ next, parser.advance _ = _
  rw [advance, turn, hstate, parseRequestLine]
  simp only [hstop, findFrom_zero]
  rcases hfirst : input.idxOf? 32 with _ | first
  · have hnone := List.count_eq_zero_of_not_mem (List.idxOf?_eq_none_iff.1 hfirst)
    omega
  · obtain ⟨hsplit, hnot⟩ := idxOf?_split hfirst
    rcases hsecond : (input.drop (first + 1)).idxOf? 32 with _ | second
    · have hcount := congrArg (List.count 32) hsplit
      rw [List.count_append, List.count_cons_self, List.count_eq_zero_of_not_mem hnot,
        List.count_eq_zero_of_not_mem (List.idxOf?_eq_none_iff.1 hsecond)] at hcount
      omega
    · simp only [findFrom, hsecond, Option.map_some]
      exact ⟨_, rfl⟩

/-- Without two spaces anywhere, the request line is refused. -/
theorem advance_requestLine_refused (hstate : parser.state = .requestLine) {stop : ℕ}
    (hstop : findCrlf input = some stop) (hspaces : input.count 32 < 2) :
    machine.step parser input = some ({ parser with state := .error }, 0) := by
  change parser.advance _ = _
  rw [advance, turn, hstate, parseRequestLine]
  simp only [hstop, findFrom_zero]
  rcases hfirst : input.idxOf? 32 with _ | first
  · simp
  · obtain ⟨hsplit, hnot⟩ := idxOf?_split hfirst
    have hnone : 32 ∉ input.drop (first + 1) := by
      intro hmem
      have hcount := congrArg (List.count 32) hsplit
      rw [List.count_append, List.count_cons_self] at hcount
      have hpos := List.count_pos_iff.2 hmem
      omega
    simp [findFrom, List.idxOf?_eq_none_iff.2 hnone]

/-- A line that has two spaces is a request line. -/
theorem requestLine_of_count {line : Bytes} (h : 2 ≤ line.count 32) :
    ∃ method path version : Bytes, 32 ∉ method ∧ 32 ∉ path ∧
      line = method ++ 32 :: path ++ 32 :: version := by
  have hsplit {line : Bytes} (h : 0 < line.count 32) :
      ∃ before after : Bytes, 32 ∉ before ∧ line = before ++ 32 :: after := by
    rcases hfind : line.idxOf? 32 with _ | i
    · exact absurd (List.count_pos_iff.1 h) (List.idxOf?_eq_none_iff.1 hfind)
    · obtain ⟨hline, hnot⟩ := idxOf?_split hfind
      exact ⟨_, _, hnot, hline⟩
  obtain ⟨method, rest, hmethod, rfl⟩ := hsplit (lt_of_lt_of_le Nat.zero_lt_two h)
  rw [List.count_append, List.count_cons_self, List.count_eq_zero_of_not_mem hmethod] at h
  obtain ⟨path, version, hpath, rfl⟩ := hsplit (show 0 < rest.count 32 by omega)
  exact ⟨method, path, version, hmethod, hpath, by simp⟩

end HttpParse

end ChatBackend
