import Mathlib.Data.List.Infix
import ChatBackend.Streaming
import ChatBackend.Websocket.Json

/-!
# The HTTP parser

`HttpParse` turns a stream of bytes into a request. It is given what has arrived and not been consumed
yet, goes on from the state it is in as far as it can, and says how much it has consumed; the caller
drops that and comes back with more behind the rest.

## Main definitions

* `HttpRequest`, `HttpParse`
* `HttpParse.parseRequestLine`, `parseHeader`, `parseBody` — the steps
* `HttpParse.parse`, `HttpParse.takeRequest`

## Main results

* `HttpParse.parse_eq` — the loop is the run of a machine
-/

namespace ChatBackend

open Function (update)
open Streaming (Machine)

/-! ### Requests -/

/-- `HttpMethod`. -/
inductive HttpMethod where
  | get | post | put | delete | patch | head | options | trace | connect | unknown
  deriving DecidableEq, Repr

/-- `HttpRequest`. -/
structure HttpRequest where
  method : HttpMethod
  path : Bytes
  version : Bytes
  headers : Bytes → Option Bytes
  body : Bytes

/-- A request of which nothing has been read. -/
def HttpRequest.empty : HttpRequest := ⟨.unknown, [], [], fun _ => none, []⟩

/-! ### Views of strings -/

/-- `"\r\n"`. -/
def crlf : Bytes := [13, 10]

/-- `find("\r\n")`. -/
def findCrlf : Bytes → Option ℕ
  | 13 :: 10 :: _ => some 0
  | _ :: rest => (findCrlf rest).map (· + 1)
  | [] => none

/-- `find(byte, pos)`. -/
def findFrom (byte : UInt8) (input : Bytes) (pos : ℕ) : Option ℕ :=
  ((input.drop pos).idxOf? byte).map (pos + ·)

/-- `substr`. -/
def substr (input : Bytes) (pos count : ℕ) : Bytes := (input.drop pos).take count

/-- A difference in `std::size_t`, of two numbers that are less than `2 ^ 64`. -/
def sizeSub (a b : ℕ) : ℕ := if b ≤ a then a - b else 2 ^ 64 - (b - a)

/-- `std::from_chars`, of a `std::size_t` in decimal: the number, and how many characters it was. -/
def fromChars (text : Bytes) : Option (ℕ × ℕ) :=
  let digits := text.takeWhile fun c => 48 ≤ c && c ≤ 57
  let number := digits.foldl (fun n c => 10 * n + (c.toNat - 48)) 0
  if digits = [] then none
  else if number < 2 ^ 64 then some (number, digits.length)
  else none

/-! ### The parser -/

/-- `HttpParse::State`. -/
inductive HttpState where
  | requestLine | header | body | complete | error
  deriving DecidableEq, Repr

/-- `HttpParse`. -/
structure HttpParse where
  request : HttpRequest
  state : HttpState
  contentLength : ℕ

/-- `StepStatus`. -/
inductive StepStatus where
  | complete | needMoreData | error
  deriving DecidableEq, Repr

/-- `StepResult`. -/
structure StepResult where
  status : StepStatus
  consumed : ℕ
  headersFinished : Bool
  deriving DecidableEq, Repr

/-- `ParseStatus`. -/
inductive HttpParseStatus where
  | needMoreData | complete | error
  deriving DecidableEq, Repr

namespace HttpParse

/-- `reset`; also a parser as it is constructed. -/
def reset : HttpParse := ⟨.empty, .requestLine, 0⟩

/-- `parseMethod`. -/
def parseMethod (method : Bytes) : HttpMethod :=
  if method = utf8 "GET" then .get
  else if method = utf8 "POST" then .post
  else if method = utf8 "PUT" then .put
  else if method = utf8 "DELETE" then .delete
  else if method = utf8 "HEAD" then .head
  else if method = utf8 "OPTIONS" then .options
  else if method = utf8 "CONNECT" then .connect
  else if method = utf8 "TRACE" then .trace
  else if method = utf8 "PATCH" then .patch
  else .unknown

/-- `parseRequestLine`. The spaces are looked for in all of the input. -/
def parseRequestLine (parser : HttpParse) (input : Bytes) : StepResult × HttpParse :=
  match findCrlf input with
  | none => (⟨.needMoreData, 0, false⟩, parser)
  | some stop =>
    match findFrom 32 input 0 with
    | none => (⟨.error, 0, false⟩, parser)
    | some spaceMethod =>
      match findFrom 32 input (spaceMethod + 1) with
      | none => (⟨.error, 0, false⟩, parser)
      | some spaceVersion =>
        let request :=
          { parser.request with
            method := parseMethod (substr input 0 spaceMethod)
            path := substr input (spaceMethod + 1) (sizeSub (sizeSub spaceVersion spaceMethod) 1)
            version := substr input (spaceVersion + 1) (sizeSub (sizeSub stop spaceVersion) 1) }
        (⟨.complete, stop + 2, true⟩, { parser with request := request })

/-- `MaxBodySize`. -/
def maxBodySize : ℕ := 1024 * 1024

/-- `parseContentLength`; the parser with the length, if it is accepted. -/
def parseContentLength (parser : HttpParse) (text : Bytes) : Option HttpParse :=
  if text = [] then none
  else match fromChars text with
    | none => none
    | some (length, stop) =>
      if stop ≠ text.length then none
      else if maxBodySize < length then none
      else some { parser with contentLength := length }

/-- `parseHeader`. -/
def parseHeader (parser : HttpParse) (input : Bytes) : StepResult × HttpParse :=
  match findCrlf input with
  | none => (⟨.needMoreData, 0, false⟩, parser)
  | some 0 => (⟨.complete, 2, true⟩, parser)
  | some lineEnd =>
    let line := substr input 0 lineEnd
    match line.idxOf? 58 with
    | none => (⟨.error, 0, false⟩, parser)
    | some separator =>
      let name := line.take separator
      if name = [] then (⟨.error, 0, false⟩, parser)
      else
        let value := (line.drop (separator + 1)).dropWhile (· = 32)
        let parser := { parser with
          request := { parser.request with
            headers := update parser.request.headers name (some value) } }
        if name = utf8 "Content-Length" then
          match parser.parseContentLength value with
          | none => (⟨.error, 0, false⟩, parser)
          | some parser => (⟨.complete, lineEnd + 2, false⟩, parser)
        else (⟨.complete, lineEnd + 2, false⟩, parser)

/-- `parseBody`. -/
def parseBody (parser : HttpParse) (input : Bytes) : StepResult × HttpParse :=
  if input.length < parser.contentLength then (⟨.needMoreData, 0, false⟩, parser)
  else
    (⟨.complete, parser.contentLength, false⟩,
      { parser with request := { parser.request with body := input.take parser.contentLength } })

/-- What one turn of the loop in `parse` does: it returns, or it goes on behind some bytes. -/
inductive Turn where
  | back (status : HttpParseStatus) (parser : HttpParse)
  | on (consumed : ℕ) (parser : HttpParse)

/-- One turn of the loop. -/
def turn (parser : HttpParse) (input : Bytes) : Turn :=
  match parser.state with
  | .requestLine =>
    match parser.parseRequestLine input with
    | (⟨.needMoreData, _, _⟩, parser) => .back .needMoreData parser
    | (⟨.error, _, _⟩, parser) => .back .error { parser with state := .error }
    | (⟨.complete, consumed, _⟩, parser) => .on consumed { parser with state := .header }
  | .header =>
    match parser.parseHeader input with
    | (⟨.needMoreData, _, _⟩, parser) => .back .needMoreData parser
    | (⟨.error, _, _⟩, parser) => .back .error { parser with state := .error }
    | (⟨.complete, consumed, headersFinished⟩, parser) =>
      if headersFinished then
        if parser.contentLength = 0 then .on consumed { parser with state := .complete }
        else .on consumed { parser with state := .body }
      else .on consumed parser
  | .body =>
    match parser.parseBody input with
    | (⟨.needMoreData, _, _⟩, parser) => .back .needMoreData parser
    | (⟨.error, _, _⟩, parser) => .back .error { parser with state := .error }
    | (⟨.complete, consumed, _⟩, parser) => .on consumed { parser with state := .complete }
  | .complete => .back .complete parser
  | .error => .back .error parser

/-- How near the parser is to its end, apart from the bytes that it takes. -/
def rank (parser : HttpParse) : ℕ :=
  match parser.state with
  | .requestLine | .header => 1
  | .body => 2
  | .complete | .error => 0

end HttpParse

/-! ### Lines -/

theorem findCrlf_le {input : Bytes} {stop : ℕ} (h : findCrlf input = some stop) :
    stop + 2 ≤ input.length := by
  induction input using findCrlf.induct generalizing stop with
  | case1 rest =>
    obtain rfl := Option.some.inj h
    simp
  | case2 byte rest hnot ih =>
    rw [findCrlf.eq_2 _ _ hnot] at h
    obtain ⟨stop, hstop, rfl⟩ := Option.map_eq_some_iff.1 h
    have hle := ih hstop
    rw [List.length_cons]
    omega
  | case3 => cases h

/-- A line that is complete stays what it is. -/
theorem findCrlf_append {input : Bytes} {stop : ℕ} (h : findCrlf input = some stop) (more : Bytes) :
    findCrlf (input ++ more) = some stop := by
  induction input using findCrlf.induct generalizing stop with
  | case1 rest => exact h
  | case2 byte rest hnot ih =>
    rw [findCrlf.eq_2 _ _ hnot] at h
    obtain ⟨stop, hstop, rfl⟩ := Option.map_eq_some_iff.1 h
    have hnot' : ∀ tail, byte = 13 → rest ++ more = 10 :: tail → False := by
      intro tail hbyte hrest
      cases rest with
      | nil => cases hstop
      | cons first rest =>
        rw [List.cons_append, List.cons_eq_cons] at hrest
        exact hnot rest hbyte (by rw [hrest.1])
    rw [List.cons_append, findCrlf.eq_2 _ _ hnot', ih hstop]
    rfl
  | case3 => cases h

/-- What the first line is. -/
theorem findCrlf_split {input : Bytes} {stop : ℕ} (h : findCrlf input = some stop) :
    input = input.take stop ++ 13 :: 10 :: input.drop (stop + 2) ∧
      findCrlf (input.take stop) = none := by
  induction input using findCrlf.induct generalizing stop with
  | case1 rest =>
    obtain rfl := Option.some.inj h
    exact ⟨rfl, rfl⟩
  | case2 byte rest hnot ih =>
    rw [findCrlf.eq_2 _ _ hnot] at h
    obtain ⟨stop, hstop, rfl⟩ := Option.map_eq_some_iff.1 h
    obtain ⟨hsplit, hnone⟩ := ih hstop
    constructor
    · rw [List.take_succ_cons, List.cons_append, show stop + 1 + 2 = stop + 2 + 1 by omega,
        List.drop_succ_cons, ← hsplit]
    · have hnot' : ∀ tail, byte = 13 → rest.take stop = 10 :: tail → False := by
        intro tail hbyte htake
        cases rest with
        | nil => cases hstop
        | cons first rest =>
          cases stop with
          | zero => cases htake
          | succ stop =>
            rw [List.take_succ_cons, List.cons_eq_cons] at htake
            exact hnot rest hbyte (by rw [htake.1])
      rw [List.take_succ_cons, findCrlf.eq_2 _ _ hnot', hnone]
      rfl
  | case3 => cases h

/-- A line without an end of line in it. -/
theorem findCrlf_line {line : Bytes} (h : findCrlf line = none) (rest : Bytes) :
    findCrlf (line ++ 13 :: 10 :: rest) = some line.length := by
  induction line using findCrlf.induct with
  | case1 => cases h
  | case2 byte line hnot ih =>
    rw [findCrlf.eq_2 _ _ hnot, Option.map_eq_none_iff] at h
    have hnot' : ∀ tail, byte = 13 → line ++ 13 :: 10 :: rest = 10 :: tail → False := by
      intro tail hbyte hline
      cases line with
      | nil => cases hline
      | cons first line =>
        rw [List.cons_append, List.cons_eq_cons] at hline
        exact hnot line hbyte (by rw [hline.1])
    rw [List.cons_append, findCrlf.eq_2 _ _ hnot', ih h]
    rfl
  | case3 => rfl

theorem findCrlf_eq_none_iff {input : Bytes} : findCrlf input = none ↔ ¬ crlf <:+: input := by
  constructor
  · rintro h ⟨before, after, rfl⟩
    rw [List.append_assoc] at h
    rcases hbefore : findCrlf before with _ | stop
    · rw [show crlf ++ after = 13 :: 10 :: after from rfl, findCrlf_line hbefore] at h
      cases h
    · rw [findCrlf_append hbefore] at h
      cases h
  · intro h
    rcases hfind : findCrlf input with _ | stop
    · rfl
    · refine absurd ⟨input.take stop, input.drop (stop + 2), ?_⟩ h
      rw [List.append_assoc]
      exact (findCrlf_split hfind).1.symm

namespace HttpParse

variable {parser parser' : HttpParse} {input more : Bytes} {consumed : ℕ}
  {headersFinished : Bool} {status : HttpParseStatus}

/-! ### The loop -/

theorem parseRequestLine_complete
    (h : parser.parseRequestLine input = (⟨.complete, consumed, headersFinished⟩, parser')) :
    ∃ stop, findCrlf input = some stop ∧ consumed = stop + 2 := by
  rw [parseRequestLine] at h
  split at h
  · cases h
  · next stop hstop =>
    split at h
    · cases h
    · split at h
      · cases h
      · cases h
        exact ⟨stop, hstop, rfl⟩

theorem parseHeader_complete
    (h : parser.parseHeader input = (⟨.complete, consumed, headersFinished⟩, parser')) :
    ∃ stop, findCrlf input = some stop ∧ consumed = stop + 2 := by
  rw [parseHeader.eq_def] at h
  split at h
  · cases h
  · next hstop =>
    cases h
    exact ⟨0, hstop, rfl⟩
  · next stop _ hstop =>
    refine ⟨stop, hstop, ?_⟩
    simp only at h
    split at h
    · cases h
    · split at h
      · cases h
      · split at h
        · split at h
          · cases h
          · cases h
            rfl
        · cases h
          rfl

/-- A header line does not change the state. -/
theorem parseHeader_state (parser : HttpParse) (input : Bytes) :
    (parser.parseHeader input).2.state = parser.state := by
  rw [parseHeader.eq_def]
  split
  · rfl
  · rfl
  · simp only
    split
    · rfl
    · split
      · rfl
      · split
        · split
          · rfl
          · next heq =>
            rw [parseContentLength] at heq
            split at heq
            · cases heq
            · split at heq
              · cases heq
              · split at heq
                · cases heq
                · split at heq
                  · cases heq
                  · cases heq
                    rfl
        · rfl

theorem turn_on (h : parser.turn input = .on consumed parser') :
    consumed ≤ input.length ∧ parser'.rank < parser.rank + consumed := by
  rw [turn] at h
  split at h
  · next hstate =>
    split at h
    · cases h
    · cases h
    · next hline =>
      cases h
      obtain ⟨stop, hstop, rfl⟩ := parseRequestLine_complete hline
      have hle := findCrlf_le hstop
      simp only [rank, hstate]
      omega
  · next hstate =>
    split at h
    · cases h
    · cases h
    · next parser₁ hline =>
      obtain ⟨stop, hstop, rfl⟩ := parseHeader_complete hline
      have hle := findCrlf_le hstop
      have hstate₁ : parser₁.state = .header := by
        rw [← hstate, ← parseHeader_state parser input, hline]
      split at h
      · split at h
        · cases h
          simp only [rank, hstate]
          omega
        · cases h
          simp only [rank, hstate]
          omega
      · cases h
        simp only [rank, hstate, hstate₁]
        omega
  · next hstate =>
    split at h
    · cases h
    · cases h
    · next hbody =>
      cases h
      rw [parseBody] at hbody
      split at hbody
      · cases hbody
      · cases hbody
        simp only [rank, hstate]
        omega
  · cases h
  · cases h

/-- The loop of `parse`: the status, what has been consumed, and the parser. -/
def parseLoop (parser : HttpParse) (buffer : Bytes) (consumed : ℕ) :
    HttpParseStatus × ℕ × HttpParse :=
  match _h : parser.turn (buffer.drop consumed) with
  | .back status parser => (status, consumed, parser)
  | .on size parser => parseLoop parser buffer (consumed + size)
termination_by buffer.length - consumed + parser.rank
decreasing_by
  obtain ⟨hle, hrank⟩ := turn_on _h
  rw [List.length_drop] at hle
  omega

/-- `parse`. -/
def parse (parser : HttpParse) (buffer : Bytes) : HttpParseStatus × ℕ × HttpParse :=
  parser.parseLoop buffer 0

/-- `takeRequest`; it throws while there is none. -/
def takeRequest (parser : HttpParse) : Option (HttpRequest × HttpParse) :=
  if parser.state = .complete then some (parser.request, .reset) else none

/-! ### The machine -/

theorem parseRequestLine_needMoreData
    (h : parser.parseRequestLine input = (⟨.needMoreData, consumed, headersFinished⟩, parser')) :
    findCrlf input = none ∧ parser' = parser := by
  rw [parseRequestLine] at h
  split at h
  · next hnone =>
    cases h
    exact ⟨hnone, rfl⟩
  · split at h
    · cases h
    · split at h
      · cases h
      · cases h

theorem parseHeader_needMoreData
    (h : parser.parseHeader input = (⟨.needMoreData, consumed, headersFinished⟩, parser')) :
    findCrlf input = none ∧ parser' = parser := by
  rw [parseHeader.eq_def] at h
  split at h
  · next hnone =>
    cases h
    exact ⟨hnone, rfl⟩
  · cases h
  · simp only at h
    split at h
    · cases h
    · split at h
      · cases h
      · split at h
        · split at h
          · cases h
          · cases h
        · cases h

/-- Where the parser is when `parse` returns. -/
theorem turn_back (h : parser.turn input = .back status parser') :
    (status = .error ∧ parser'.state = .error) ∨
      (parser' = parser ∧
        ((status = .complete ∧ parser.state = .complete) ∨
          (status = .needMoreData ∧ parser.state ≠ .complete ∧ parser.state ≠ .error))) := by
  rw [turn] at h
  split at h
  · next hstate =>
    split at h
    · next hline =>
      cases h
      exact .inr ⟨(parseRequestLine_needMoreData hline).2, .inr ⟨rfl, by simp [hstate]⟩⟩
    · cases h
      exact .inl ⟨rfl, rfl⟩
    · cases h
  · next hstate =>
    split at h
    · next hline =>
      cases h
      exact .inr ⟨(parseHeader_needMoreData hline).2, .inr ⟨rfl, by simp [hstate]⟩⟩
    · cases h
      exact .inl ⟨rfl, rfl⟩
    · split at h
      · split at h
        · cases h
        · cases h
      · cases h
  · next hstate =>
    split at h
    · next hbody =>
      cases h
      rw [parseBody] at hbody
      split at hbody
      · cases hbody
        exact .inr ⟨rfl, .inr ⟨rfl, by simp [hstate]⟩⟩
      · cases hbody
    · cases h
      exact .inl ⟨rfl, rfl⟩
    · cases h
  · next hstate =>
    cases h
    exact .inr ⟨rfl, .inl ⟨rfl, hstate⟩⟩
  · next hstate =>
    cases h
    exact .inl ⟨rfl, hstate⟩

theorem turn_of_error (h : parser.state = .error) (input : Bytes) :
    parser.turn input = .back .error parser := by
  rw [turn, h]

/-- A turn as the step of a machine: an error is a state that it goes to and stays in. -/
def advance (parser : HttpParse) (input : Bytes) : Option (HttpParse × ℕ) :=
  match parser.turn input with
  | .on size next => some (next, size)
  | .back .error next => if parser.state = .error then none else some (next, 0)
  | .back _ _ => none

theorem advance_eq_some {size : ℕ} (h : parser.advance input = some (parser', size)) :
    parser.turn input = .on size parser' ∨
      (parser.turn input = .back .error parser' ∧ parser.state ≠ .error ∧ size = 0) := by
  rw [advance] at h
  split at h
  · next heq =>
    cases h
    exact .inl heq
  · next heq =>
    split at h
    · cases h
    · next hstate =>
      cases h
      exact .inr ⟨heq, hstate, rfl⟩
  · cases h

/-- **The parser as a machine.** -/
def machine : Machine UInt8 HttpParse where
  step := advance
  rank := rank
  le_of_step h := by
    rcases advance_eq_some h with hon | ⟨-, -, rfl⟩
    · exact (turn_on hon).1
    · exact Nat.zero_le _
  rank_of_step {parser input next size} h := by
    rcases advance_eq_some h with hon | ⟨hback, hstate, rfl⟩
    · exact (turn_on hon).2
    · rcases turn_back hback with ⟨-, herror⟩ | ⟨-, ⟨h, -⟩ | ⟨h, -⟩⟩
      · have hcomplete : parser.state ≠ .complete := by
          intro hcomplete
          rw [turn, hcomplete] at hback
          cases hback
        rcases hstate' : parser.state with _ | _ | _ | _ | _
        · simp [rank, herror, hstate']
        · simp [rank, herror, hstate']
        · simp [rank, herror, hstate']
        · exact absurd hstate' hcomplete
        · exact absurd hstate' hstate
      · cases h
      · cases h

end HttpParse

/-- What `parse` returns in a state. -/
def HttpState.status : HttpState → HttpParseStatus
  | .complete => .complete
  | .error => .error
  | _ => .needMoreData

namespace HttpParse

theorem parseLoop_eq (parser : HttpParse) (buffer : Bytes) (consumed : ℕ) :
    parser.parseLoop buffer consumed =
      ((machine.run parser (buffer.drop consumed)).1.state.status,
        consumed + (machine.run parser (buffer.drop consumed)).2,
        (machine.run parser (buffer.drop consumed)).1) := by
  fun_induction parseLoop parser buffer consumed with
  | case1 parser consumed status parser' hback =>
    rcases turn_back hback with ⟨rfl, herror⟩ | ⟨rfl, ⟨rfl, hstate⟩ | ⟨rfl, hcomplete, herror⟩⟩
    · have hend : machine.run parser' (buffer.drop consumed) = (parser', 0) := by
        refine Machine.run_of_none ?_
        change parser'.advance _ = none
        rw [advance, turn_of_error herror]
        simp [herror]
      by_cases hstate : parser.state = .error
      · rw [turn_of_error hstate] at hback
        cases hback
        rw [hend, herror]
        rfl
      · have hstep : machine.step parser (buffer.drop consumed) = some (parser', 0) := by
          change parser.advance _ = some (parser', 0)
          rw [advance, hback]
          simp [hstate]
        rw [Machine.run_of_some hstep, List.drop_zero, hend, herror]
        rfl
    · have hend : machine.step parser' (buffer.drop consumed) = none := by
        change parser'.advance _ = none
        rw [advance, hback]
      rw [Machine.run_of_none hend, hstate]
      rfl
    · have hend : machine.step parser' (buffer.drop consumed) = none := by
        change parser'.advance _ = none
        rw [advance, hback]
      rw [Machine.run_of_none hend]
      rcases hstate : parser'.state with _ | _ | _ | _ | _
      · rfl
      · rfl
      · rfl
      · exact absurd hstate hcomplete
      · exact absurd hstate herror
  | case2 parser consumed size parser' hon ih =>
    have hstep : machine.step parser (buffer.drop consumed) = some (parser', size) := by
      change parser.advance _ = some (parser', size)
      rw [advance, hon]
    rw [ih, Machine.run_of_some hstep, List.drop_drop, Nat.add_assoc]

/-- **`parse` is a run of the machine.** -/
theorem parse_eq (parser : HttpParse) (buffer : Bytes) :
    parser.parse buffer = ((machine.run parser buffer).1.state.status,
      (machine.run parser buffer).2, (machine.run parser buffer).1) := by
  rw [parse, parseLoop_eq, List.drop_zero, Nat.zero_add]

end HttpParse

end ChatBackend
