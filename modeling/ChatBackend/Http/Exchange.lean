import Mathlib.Data.List.DropRight
import ChatBackend.Domain
import ChatBackend.Http.HttpParse
import ChatBackend.Http.HttpResponse

/-!
# One request, one response

`HttpSession::HandleHttpSession` from the complete request on, over `Connection::flush` and `sendAll`.
A request to upgrade is handed over. Any other is routed, and what the handler returns is sent; what
it throws is turned into a response, and that is sent.

The sending of the handler's response stands in the same `try` as the handler. If a `send` times out
in the middle of it, the session answers that as it answers a handler that has failed, with a second
response; what is left of the first is still in the output buffer, and goes out before it.

## Main definitions

* `flush`, `sendAll` — of `Connection`, against a list of what the calls of `send` do
* `websocketUpgrade`, `respond`, `handleRequest`
* `OneResponse`, `Overtakes`

## Main results

* `sendLoop_eq` — how far `sendAll` comes
* `one_response_iff`
-/

namespace ChatBackend

/-! ### Sending -/

/-- What one call of `send` does: it accepts as many bytes as `count`, if there are as many, and none
if that is zero. A time-out is `EAGAIN`, after as long as `SO_SNDTIMEO` says. -/
inductive SendResult where
  | accepted (count : ℕ)
  | interrupted
  | timedOut
  | failed
  deriving DecidableEq

/-- The output side of a `Connection`; what the kernel has accepted is a history variable. -/
structure OutputSide where
  accepted : Bytes
  outputBuffer : Bytes
  deriving DecidableEq

/-- What `flush` returns, or that it has not returned yet. -/
inductive FlushResult where
  | wrote (count : ℕ)
  | timedOut
  | failed
  | blocked
  deriving DecidableEq

namespace OutputSide

/-- A connection that nothing has been written to. -/
def empty : OutputSide := ⟨[], []⟩

/-- `write`. -/
def write (output : OutputSide) (data : Bytes) : OutputSide :=
  { output with outputBuffer := output.outputBuffer ++ data }

/-- The kernel accepts some of what is in the buffer. -/
def accept (output : OutputSide) (count : ℕ) : OutputSide :=
  ⟨output.accepted ++ output.outputBuffer.take count, output.outputBuffer.drop count⟩

/-- The loop of `flush`, with the calls of `send` that are left. -/
def flushLoop (output : OutputSide) : List SendResult → OutputSide × FlushResult × List SendResult
  | [] => (output, .blocked, [])
  | .interrupted :: sends => output.flushLoop sends
  | .accepted count :: sends =>
    (output.accept count, .wrote (min count output.outputBuffer.length), sends)
  | .timedOut :: sends => (output, .timedOut, sends)
  | .failed :: sends => (output, .failed, sends)

/-- `flush`. -/
def flush (output : OutputSide) (sends : List SendResult) :
    OutputSide × FlushResult × List SendResult :=
  if output.outputBuffer = [] then (output, .wrote 0, sends) else output.flushLoop sends

/-- What `sendAll` does: it returns, or throws, or has not come to an end yet. -/
inductive SendAllResult where
  | returned
  | threw (message : String)
  | blocked
  deriving DecidableEq

/-- The loop of `sendAll`, with that of `flush` inside it. -/
def sendLoop (output : OutputSide) (sends : List SendResult) :
    OutputSide × SendAllResult × List SendResult :=
  if output.outputBuffer = [] then (output, .returned, sends)
  else match sends with
    | [] => (output, .blocked, [])
    | .interrupted :: sends => output.sendLoop sends
    | .accepted count :: sends =>
      if count = 0 then (output, .threw "socket closed while sending", sends)
      else (output.accept count).sendLoop sends
    | .timedOut :: sends => (output, .threw "socket write timed out", sends)
    | .failed :: sends => (output, .threw "send failed", sends)

/-- `sendAll`. -/
def sendAll (output : OutputSide) (data : Bytes) (sends : List SendResult) :
    OutputSide × SendAllResult × List SendResult :=
  (output.write data).sendLoop sends

@[simp] theorem accept_zero (output : OutputSide) : output.accept 0 = output := by
  simp [accept]

end OutputSide

/-! ### How far it comes -/

/-- How many bytes the calls of `send` accept before one of them fails. -/
def capacity : List SendResult → ℕ
  | [] => 0
  | .interrupted :: sends => capacity sends
  | .accepted count :: sends => if count = 0 then 0 else count + capacity sends
  | .timedOut :: _ => 0
  | .failed :: _ => 0

/-- The calls of `send` after the first that fails. -/
def afterFailure : List SendResult → Option (List SendResult)
  | [] => none
  | .interrupted :: sends => afterFailure sends
  | .accepted count :: sends => if count = 0 then some sends else afterFailure sends
  | .timedOut :: sends => some sends
  | .failed :: sends => some sends

namespace OutputSide

/-- **The loop is over calls of `flush`**, until the buffer is empty. -/
theorem sendLoop_flush (output : OutputSide) (sends : List SendResult) :
    output.sendLoop sends =
      if output.outputBuffer = [] then (output, .returned, sends)
      else match output.flush sends with
        | (output', .wrote count, rest) =>
          if 0 < count then output'.sendLoop rest
          else (output', .threw "socket closed while sending", rest)
        | (output', .timedOut, rest) => (output', .threw "socket write timed out", rest)
        | (output', .failed, rest) => (output', .threw "send failed", rest)
        | (output', .blocked, rest) => (output', .blocked, rest) := by
  by_cases hempty : output.outputBuffer = []
  · rw [sendLoop.eq_def, if_pos hempty, if_pos hempty]
  · have hlength : 0 < output.outputBuffer.length := List.length_pos_iff.2 hempty
    rw [if_neg hempty, flush, if_neg hempty]
    induction sends with
    | nil => rw [sendLoop.eq_def, if_neg hempty, flushLoop]
    | cons send sends ih =>
      rw [sendLoop.eq_def, if_neg hempty]
      cases send with
      | interrupted => exact ih
      | accepted count =>
        simp only [flushLoop]
        rcases count.eq_zero_or_pos with rfl | hcount
        · simp
        · rw [if_neg hcount.ne', if_pos (lt_min hcount hlength)]
      | timedOut => rfl
      | failed => rfl

/-- **What one `flush` does** with a buffer that is not empty: the kernel accepts some bytes, and the
calls that are left accept the rest; or a call fails; or the calls are used up. -/
theorem flush_cases {output : OutputSide} (hne : output.outputBuffer ≠ []) (sends : List SendResult) :
    (∃ accepted count rest, output.flush sends = (output.accept accepted, .wrote count, rest) ∧
      0 < count ∧ rest.length < sends.length ∧ capacity sends = accepted + capacity rest ∧
      afterFailure sends = afterFailure rest) ∨
    (∃ result rest, output.flush sends = (output, result, rest) ∧
      (result = .wrote 0 ∨ result = .timedOut ∨ result = .failed) ∧ capacity sends = 0 ∧
      afterFailure sends = some rest) ∨
    output.flush sends = (output, .blocked, []) ∧ capacity sends = 0 ∧ afterFailure sends = none := by
  rw [flush, if_neg hne]
  induction sends with
  | nil => exact .inr (.inr ⟨rfl, rfl, rfl⟩)
  | cons send sends ih =>
    cases send with
    | interrupted =>
      rcases ih with ⟨accepted, count, rest, hflush, hcount, hlength, hsame⟩ | hfailed
      · exact .inl ⟨accepted, count, rest, hflush, hcount, Nat.lt_succ_of_lt hlength, hsame⟩
      · exact .inr hfailed
    | accepted count =>
      by_cases hcount : count = 0
      · subst hcount
        exact .inr (.inl ⟨.wrote 0, sends, by rw [flushLoop, accept_zero, Nat.zero_min], .inl rfl, rfl, rfl⟩)
      · have hlength : 0 < output.outputBuffer.length := List.length_pos_iff.2 hne
        refine .inl ⟨count, _, sends, rfl, by omega, by simp, ?_, ?_⟩
        · rw [capacity, if_neg hcount]
        · rw [afterFailure, if_neg hcount]
    | timedOut => exact .inr (.inl ⟨.timedOut, sends, rfl, .inr (.inl rfl), rfl, rfl⟩)
    | failed => exact .inr (.inl ⟨.failed, sends, rfl, .inr (.inr rfl), rfl, rfl⟩)

/-- **How far `sendAll` comes**: it sends all there is if the calls accept as much before one fails;
if not, it sends what they accept, and throws if one fails. -/
theorem sendLoop_eq (output : OutputSide) (sends : List SendResult) :
    (output.sendLoop sends).1 = output.accept (capacity sends) ∧
      (output.outputBuffer.length ≤ capacity sends →
        (output.sendLoop sends).2.1 = .returned) ∧
      (capacity sends < output.outputBuffer.length →
        afterFailure sends = none ∧ (output.sendLoop sends).2.1 = .blocked ∨
        ∃ message rest, afterFailure sends = some rest ∧
          (output.sendLoop sends).2 = (.threw message, rest)) := by
  -- every `flush` uses up a call of `send`
  induction hn : sends.length using Nat.strong_induction_on generalizing output sends with
  | _ n ih =>
    subst hn
    rw [sendLoop_flush]
    by_cases hempty : output.outputBuffer = []
    · have hnone : output.accept (capacity sends) = output := by
        rw [accept, hempty, List.take_nil, List.drop_nil, List.append_nil, ← hempty]
      simp [hempty, hnone]
    · have hlength : 0 < output.outputBuffer.length := List.length_pos_iff.2 hempty
      rw [if_neg hempty]
      rcases flush_cases hempty sends with ⟨accepted, count, rest, hflush, hcount, hless, hcap, hfail⟩ |
        ⟨result, rest, hflush, hresult, hcap, hfail⟩ | ⟨hflush, hcap, hfail⟩
      · obtain ⟨hsent, hreturned, hrest⟩ := ih _ hless (output.accept accepted) rest rfl
        have hleft : (output.accept accepted).outputBuffer.length =
            output.outputBuffer.length - accepted := List.length_drop
        rw [hflush, hcap, hfail]
        simp only [if_pos hcount]
        refine ⟨?_, fun hle => hreturned (by omega), fun hlt => hrest (by omega)⟩
        rw [hsent, accept, accept, accept, List.drop_drop, List.append_assoc, List.take_add]
      · rw [hflush, hcap, hfail]
        have hnot : ¬ output.outputBuffer.length ≤ 0 := by omega
        rcases hresult with rfl | rfl | rfl <;>
          exact ⟨(accept_zero output).symm, fun hle => absurd hle hnot, fun _ => .inr ⟨_, rest, rfl, rfl⟩⟩
      · rw [hflush, hcap, hfail]
        have hnot : ¬ output.outputBuffer.length ≤ 0 := by omega
        exact ⟨(accept_zero output).symm, fun hle => absurd hle hnot, fun _ => .inl ⟨rfl, rfl⟩⟩

end OutputSide

/-! ### Responding -/

/-- `std::tolower` of a byte. -/
def lowerByte (byte : UInt8) : UInt8 := if 65 ≤ byte ∧ byte ≤ 90 then byte + 32 else byte

/-- `equalsIgnoreCase`. -/
def equalsIgnoreCase (left right : Bytes) : Bool := left.map lowerByte = right.map lowerByte

/-- A value without the spaces and tabs around it. -/
def trimBlanks (value : Bytes) : Bytes :=
  (value.dropWhile fun byte => byte = 32 ∨ byte = 9).rdropWhile fun byte => byte = 32 ∨ byte = 9

/-- Whether the request is one to upgrade; `order` is the order in which the headers are gone
through. -/
def websocketUpgrade (request : HttpRequest) (order : List Bytes) : Bool :=
  match order.find? fun name => equalsIgnoreCase name (utf8 "Upgrade") with
  | none => false
  | some name => equalsIgnoreCase (trimBlanks ((request.headers name).getD [])) (utf8 "websocket")

/-- What the session makes of an exception. -/
def failureResponse : Error → HttpResponse
  | .database error =>
    match error.kind with
    | .connection =>
      errorResponseMaker .serviceUnavailable "service_unavailable" "Service unavailable"
    | .query =>
      errorResponseMaker .internalServerError "internal_server_error" "Internal server error"
    | .constraint | .dataConversion =>
      errorResponseMaker .internalServerError "internal_server_error" "Internal Server Error"
  | _ => errorResponseMaker .internalServerError "internal_server_error" "Internal server error"

/-- Every response says that it is the last one. -/
def HttpResponse.closing (response : HttpResponse) : HttpResponse :=
  response.setHeader "Connection" "close"

/-- What has become of a request: the output side of the connection, and the responses that were
given to `sendAll`. -/
structure Exchange where
  output : OutputSide
  responses : List HttpResponse

/-- The `try` of `HandleHttpSession`, and what it catches. -/
def respond (outcome : Except Error HttpResponse) (sends : List SendResult) : Exchange :=
  match outcome with
  | .error error =>
    let response := (failureResponse error).closing
    ⟨(OutputSide.empty.sendAll (generateHttpResponse response) sends).1, [response]⟩
  | .ok response =>
    let response := response.closing
    match OutputSide.empty.sendAll (generateHttpResponse response) sends with
    | (output, .threw message, rest) =>
      -- The exception of `sendAll` is caught where those of the handler are.
      let second := (failureResponse (.runtimeError message)).closing
      ⟨(output.sendAll (generateHttpResponse second) rest).1, [response, second]⟩
    | (output, _, _) => ⟨output, [response]⟩

/-- `HandleHttpSession`, on a complete request; a request to upgrade is handed over instead. -/
def handleRequest (route : HttpRequest → Except Error HttpResponse) (request : HttpRequest)
    (order : List Bytes) (sends : List SendResult) : Option Exchange :=
  if websocketUpgrade request order then none else some (respond (route request) sends)

/-- **One response**: of the responses that were given to `sendAll`, nothing but the first has been
sent, as far as it has come. -/
def OneResponse (exchange : Exchange) : Prop :=
  ∃ first others, exchange.responses = first :: others ∧
    exchange.output.accepted <+: generateHttpResponse first

/-- **The second response overtakes a failure of the first**: the handler has returned a response, a
`send` fails before all of it is accepted, and those after that accept more than is left of it. -/
def Overtakes (outcome : Except Error HttpResponse) (sends : List SendResult) : Prop :=
  ∃ response rest, outcome = .ok response ∧ afterFailure sends = some rest ∧
    capacity sends < (generateHttpResponse response.closing).length ∧
    (generateHttpResponse response.closing).length < capacity sends + capacity rest

/-- What is sent first, and what is left of it. -/
theorem accepted_sendAll (data : Bytes) (sends : List SendResult) :
    (OutputSide.empty.sendAll data sends).1 =
      ⟨data.take (capacity sends), data.drop (capacity sends)⟩ := by
  rw [OutputSide.sendAll, (OutputSide.sendLoop_eq _ _).1]
  rfl

/-- **Where the first response fails**, the second goes behind what is left of it. -/
theorem accepted_behind (first second : Bytes) {sent : ℕ} (hsent : sent ≤ first.length)
    (sends : List SendResult) :
    (OutputSide.sendAll ⟨first.take sent, first.drop sent⟩ second sends).1.accepted =
      (first ++ second).take (sent + capacity sends) := by
  rw [OutputSide.sendAll, (OutputSide.sendLoop_eq _ _).1, List.take_add,
    List.take_append_of_le_length hsent, List.drop_append_of_le_length hsent]
  rfl

/-- Bytes of two responses are bytes of the first if there are not more of them. -/
theorem take_isPrefix_iff {first second : Bytes} (hsecond : second ≠ []) (count : ℕ) :
    (first ++ second).take count <+: first ↔ count ≤ first.length := by
  constructor
  · intro hfirst
    have hlength := hfirst.length_le
    have hpos := List.length_pos_iff.2 hsecond
    rw [List.length_take, List.length_append] at hlength
    omega
  · intro hle
    rw [List.take_append_of_le_length hle]
    exact List.take_prefix _ _

/-- **What becomes of the response of the handler**: it is the only one, or a `send` fails before all
of it is accepted and a second one is sent. -/
theorem respond_ok (response : HttpResponse) (sends : List SendResult) :
    ((generateHttpResponse response.closing).length ≤ capacity sends ∨ afterFailure sends = none) ∧
        respond (.ok response) sends = ⟨(OutputSide.empty.sendAll
          (generateHttpResponse response.closing) sends).1, [response.closing]⟩ ∨
      ∃ second rest, capacity sends < (generateHttpResponse response.closing).length ∧
        afterFailure sends = some rest ∧
        respond (.ok response) sends = ⟨((OutputSide.empty.sendAll
          (generateHttpResponse response.closing) sends).1.sendAll
            (generateHttpResponse second) rest).1, [response.closing, second]⟩ := by
  obtain ⟨-, hreturned, hrest⟩ := OutputSide.sendLoop_eq
    (OutputSide.empty.write (generateHttpResponse response.closing)) sends
  rw [← OutputSide.sendAll] at hreturned hrest
  change ((generateHttpResponse response.closing).length ≤ capacity sends → _) at hreturned
  change (capacity sends < (generateHttpResponse response.closing).length → _) at hrest
  simp only [respond]
  generalize OutputSide.empty.sendAll (generateHttpResponse response.closing) sends = called at *
  obtain ⟨output, result, rest⟩ := called
  by_cases hall : (generateHttpResponse response.closing).length ≤ capacity sends
  · obtain rfl : result = .returned := hreturned hall
    exact .inl ⟨.inl hall, rfl⟩
  · rw [not_le] at hall
    rcases hrest hall with ⟨hnone, hblocked⟩ | ⟨message, rest', hsome, hthrew⟩
    · obtain rfl : result = .blocked := hblocked
      exact .inl ⟨.inr hnone, rfl⟩
    · obtain ⟨rfl, rfl⟩ : result = .threw message ∧ rest = rest' := Prod.mk.inj hthrew
      exact .inr ⟨_, rest, hall, hsome, rfl⟩

/-- **One response for every request that is not one to upgrade**, exactly if the second one does not
overtake a failure of the first. -/
theorem one_response_iff (route : HttpRequest → Except Error HttpResponse) {request : HttpRequest}
    {order : List Bytes} (hupgrade : websocketUpgrade request order = false)
    (sends : List SendResult) :
    (∃ exchange, handleRequest route request order sends = some exchange ∧ OneResponse exchange) ↔
      ¬ Overtakes (route request) sends := by
  have hhandled : handleRequest route request order sends = some (respond (route request) sends) := by
    rw [handleRequest, hupgrade]
    rfl
  simp only [hhandled, Option.some.injEq, exists_eq_left']
  have hone (response : HttpResponse) : OneResponse
      ⟨(OutputSide.empty.sendAll (generateHttpResponse response) sends).1, [response]⟩ := by
    refine ⟨response, [], rfl, ?_⟩
    rw [accepted_sendAll]
    exact List.take_prefix _ _
  rcases route request with error | response
  · refine iff_of_true (hone (failureResponse error).closing) ?_
    rintro ⟨_, _, ⟨⟩, -⟩
  · rcases respond_ok response sends with ⟨hdone, heq⟩ | ⟨second, rest, hless, hsome, heq⟩
    · rw [heq]
      refine iff_of_true (hone response.closing) ?_
      rintro ⟨_, rest, ⟨⟩, hsome, hless, -⟩
      rcases hdone with hall | hnone
      · exact absurd hall (not_le.2 hless)
      · rw [hnone] at hsome
        cases hsome
    · have haccepted := accepted_behind (generateHttpResponse response.closing)
        (generateHttpResponse second) hless.le rest
      have htake := @take_isPrefix_iff (generateHttpResponse response.closing) _
        (generateHttpResponse_ne_nil second) (capacity sends + capacity rest)
      rw [heq, accepted_sendAll]
      constructor
      · rintro ⟨first, others, hfirst, haccepts⟩ ⟨_, rest', ⟨⟩, hsome', -, hmore⟩
        obtain ⟨rfl, -⟩ := List.cons.inj hfirst
        obtain rfl := Option.some.inj (hsome.symm.trans hsome')
        rw [haccepted, htake] at haccepts
        exact absurd haccepts (not_le.2 hmore)
      · intro hovertakes
        refine ⟨response.closing, [second], rfl, ?_⟩
        rw [haccepted, htake, ← not_lt]
        exact fun hmore => hovertakes ⟨response, rest, rfl, hsome, hless, hmore⟩

/-- A response with an empty body, and a handler that always returns it. -/
def Sample.emptyResponse : HttpResponse := ⟨.ok, [], []⟩

/-- A time-out in the middle of the response, and no more sends. -/
theorem one_response_iff_timeout : ∃ exchange,
    handleRequest (fun _ => .ok Sample.emptyResponse) .empty [] [.accepted 5, .timedOut] =
      some exchange ∧ OneResponse exchange := by
  refine (one_response_iff (fun _ => .ok Sample.emptyResponse) rfl [.accepted 5, .timedOut]).2 ?_
  rintro ⟨_, _, ⟨⟩, ⟨⟩, hless, hmore⟩
  exact absurd hmore (not_lt.2 hless.le)

/-- The client reads on after a time-out, and gets the rest of the response and a second one. -/
theorem one_response_fails :
    websocketUpgrade .empty [] = false ∧ ∃ exchange,
      handleRequest (fun _ => .ok Sample.emptyResponse) .empty []
        [.accepted 5, .timedOut, .accepted 1000] = some exchange ∧ ¬ OneResponse exchange := by
  refine ⟨rfl, _, rfl, ?_⟩
  rintro ⟨first, others, hfirst, haccepted⟩
  obtain ⟨rfl, -⟩ := List.cons.inj hfirst
  have hlength := haccepted.length_le
  revert hlength
  decide +kernel

end ChatBackend
