import ChatBackend.Traces
import ChatBackend.Websocket.Ownership

/-!
# The events of one `epoll_wait`

`worker` takes up to 64 events from `epoll_wait` and handles them one after the other. An event of a
socket comes with the number of the file descriptor, and what it is about is looked up under that
number when its turn comes. By then another event of the batch may have closed the descriptor, and
`handleWakeup` may have registered a new connection that got the number again; the event, which was
another session's, is then applied to the new one.

## Main definitions

* `Slot` — an event of a batch, with what its handler will learn
* `EventsReach` — every event of a socket finds the session that it was raised for, or none
* `NoReuse`

## Main results

* `events_reach_their_session`
-/

namespace ChatBackend

open Traces (Always always_cons always_nil)

variable {parser : JsonParser} {writer : JsonWriter} {w : WebsocketWorker} {fd : Fd}

/-! ### Batches -/

/-- A connection that `acceptingSessions` registers after a successful handshake. -/
structure Accepted where
  fd : Fd
  who : Identity
  inputBuffer : Bytes
  now : SteadyTime
  addOk : Bool

/-- The input is a task of the queue. -/
def WorkerInput.isTask : WorkerInput → Bool
  | reply .. | push .. | close .. | revocation .. => true
  | register .. | socket .. | timer .. => false

/-- An event that `epoll_wait` has captured, with all that its handler will learn. -/
inductive Slot where
  /-- `event_fd_`: the connections of the pending sessions whose handshakes succeed. -/
  | wakeup (accepted : List Accepted)
  /-- `business_fd_`. -/
  | business (tasks : List { input : WorkerInput // input.isTask = true })
  /-- `timer_fd_`. -/
  | timer (now : SteadyTime) (order : List Fd) (modOk : Fd → Bool)
  /-- The socket of a session. -/
  | socket (fd : Fd) (flags : WebsocketWorker.Flags) (input : WebsocketWorker.ReadableInputs)
      (output : WebsocketWorker.WritableInputs)

/-- The steps that the event leads to. -/
def Slot.inputs : Slot → List WorkerInput
  | wakeup accepted => accepted.map fun accepted =>
      .register accepted.fd accepted.who accepted.inputBuffer accepted.now accepted.addOk
  | business tasks => tasks.map Subtype.val
  | timer now order modOk => [.timer now order modOk]
  | socket fd flags input output => [.socket fd flags input output]

namespace WebsocketWorker

/-- Several steps. -/
def run (parser : JsonParser) (writer : JsonWriter) (w : WebsocketWorker)
    (inputs : List WorkerInput) : WebsocketWorker :=
  inputs.foldl (step parser writer) w

/-- One iteration of `worker`, up to some point: the events in the order of the array. -/
def handleSlots (parser : JsonParser) (writer : JsonWriter) (w : WebsocketWorker)
    (slots : List Slot) : WebsocketWorker :=
  w.run parser writer (slots.flatMap Slot.inputs)

/-- What `epoll_wait` can capture: events of sockets that are registered, one for each. -/
structure Captures (w : WebsocketWorker) (slots : List Slot) : Prop where
  length_le : slots.length ≤ 64
  registered : ∀ fd flags input output, .socket fd flags input output ∈ slots →
    (w.sessions fd).isSome
  distinct : slots.Pairwise fun slot slot' => ∀ fd flags input output flags' input' output',
    slot = .socket fd flags input output → slot' ≠ .socket fd flags' input' output'

end WebsocketWorker

/-- **Every event of a socket finds the session that it was raised for**, or none: what has the
number of the file descriptor when the turn of the event comes is what had it when the batch was
captured. -/
def EventsReach (parser : JsonParser) (writer : JsonWriter) (w : WebsocketWorker)
    (slots : List Slot) : Prop :=
  Always (fun before slot => ∀ fd flags input output, slot = .socket fd flags input output →
    ∀ session', (w.handleSlots parser writer before).sessions fd = some session' →
      ∃ session, w.sessions fd = some session ∧ session'.identity = session.identity) slots

/-- **No event of a socket comes after a connection that was given the same number** and is
registered successfully. -/
def NoReuse (slots : List Slot) : Prop :=
  Always (fun before slot => ∀ fd flags input output, slot = .socket fd flags input output →
    ∀ who inputBuffer now, .register fd who inputBuffer now true ∉ before.flatMap Slot.inputs) slots

/-! ### Under one number -/

/-- A step that registers nothing under a number leaves the session there what it is, or removes
it. -/
theorem keeps_step_at {input : WorkerInput}
    (h : ∀ who inputBuffer now, input ≠ .register fd who inputBuffer now true)
    {session' : WebSocketSession}
    (hsession' : (w.step parser writer input).sessions fd = some session') :
    ∃ session, w.sessions fd = some session ∧ session'.identity = session.identity := by
  cases input with
  | register other who inputBuffer now addOk =>
    rcases register_cases w other who inputBuffer now addOk with
      hsame | ⟨-, rfl, session, -, hsessions, -⟩
    · rw [WebsocketWorker.step, hsame] at hsession'
      exact ⟨session', hsession', rfl⟩
    · have hother : fd ≠ other := by
        rintro rfl
        exact h who inputBuffer now rfl
      rw [WebsocketWorker.step, hsessions, Function.update_of_ne hother] at hsession'
      exact ⟨session', hsession', rfl⟩
  | socket | timer | reply | push | close | revocation =>
    exact keeps_step (by simp) fd session' hsession'

/-- Several steps, likewise. -/
theorem keeps_run_at {inputs : List WorkerInput}
    (h : ∀ who inputBuffer now, .register fd who inputBuffer now true ∉ inputs)
    {session' : WebSocketSession} (hsession' : (w.run parser writer inputs).sessions fd = some session') :
    ∃ session, w.sessions fd = some session ∧ session'.identity = session.identity := by
  induction inputs generalizing w with
  | nil => exact ⟨session', hsession', rfl⟩
  | cons input inputs ih =>
    obtain ⟨session, hsession, hid⟩ :=
      ih (fun who inputBuffer now hmem => h who inputBuffer now (List.mem_cons_of_mem _ hmem))
        hsession'
    obtain ⟨session₀, hsession₀, hid₀⟩ := keeps_step_at
      (fun who inputBuffer now heq => h who inputBuffer now (heq ▸ List.mem_cons_self)) hsession
    exact ⟨session₀, hsession₀, hid.trans hid₀⟩

/-- **The events of a batch reach the sessions that they were raised for**, if none of them comes
after a connection that was given the number of its file descriptor. -/
theorem events_reach_their_session (parser : JsonParser) (writer : JsonWriter)
    (w : WebsocketWorker) (slots : List Slot) (h : NoReuse slots) :
    EventsReach parser writer w slots := by
  intro before slot after heq fd flags input output hslot session' hsession'
  exact keeps_run_at (h before slot after heq fd flags input output hslot) hsession'

namespace Sample

/-- The heartbeat has sent a Ping. -/
def pinged : WebsocketWorker :=
  registered.step objectParser noWriter (.timer (seconds 31) [7] fun _ => true)

/-- The timeout of the Ping, a new connection, and a hangup. -/
def lateTimer : Slot := .timer (seconds 45) [7] fun _ => true
def newcomer (fd : Fd) : Slot := .wakeup [⟨fd, ⟨2, 3, 4⟩, [], seconds 45, true⟩]
def hangup : Slot := .socket 7 ⟨false, true, true, false, true⟩ ⟨[], true, []⟩ ⟨[], true⟩

theorem enumerates_registered : registered.Enumerates [7] := by
  refine ⟨by decide, fun fd => ?_⟩
  rw [List.mem_singleton]
  by_cases hfd : fd = 7
  · subst hfd
    exact iff_of_true rfl rfl
  · refine iff_of_false hfd ?_
    have hnone : registered.sessions fd = none := Function.update_of_ne hfd _ _
    rw [hnone]
    exact Bool.false_ne_true

theorem reaches_pinged {condition : WebsocketWorker → WorkerInput → Prop}
    (hregistration : condition .start registration)
    (htimer : condition registered (.timer (seconds 31) [7] fun _ => true)) :
    pinged.Reaches objectParser noWriter condition :=
  (reaches_registered hregistration).step enumerates_registered htimer

end Sample

/-- A new connection with another number is out of the way of the hangup. -/
theorem events_reach_their_session_other : EventsReach Sample.objectParser Sample.noWriter
    Sample.pinged [Sample.lateTimer, Sample.newcomer 8, Sample.hangup] := by
  refine events_reach_their_session _ _ _ _ ?_
  simp only [NoReuse, always_cons, always_nil, Sample.lateTimer, Sample.newcomer, Sample.hangup,
    reduceCtorEq, false_imp_iff, implies_true, true_and, and_true, Slot.socket.injEq]
  rintro _ _ _ _ ⟨rfl, -⟩ who inputBuffer now
  simp [Slot.inputs]

/-- The session with file descriptor 7 has not answered the Ping when the timer expires; another
client's connection is given the number, and is registered; and the hangup of the old connection
removes the new session. -/
theorem events_reach_their_session_fails :
    Sample.pinged.Reaches Sample.objectParser Sample.noWriter (fun _ _ => True) ∧
      Sample.pinged.Captures [Sample.lateTimer, Sample.newcomer 7, Sample.hangup] ∧
      ¬ EventsReach Sample.objectParser Sample.noWriter Sample.pinged
        [Sample.lateTimer, Sample.newcomer 7, Sample.hangup] := by
  refine ⟨Sample.reaches_pinged trivial trivial, ⟨by decide, ?_, ?_⟩, fun hreach => ?_⟩
  · rintro fd flags input output hslot
    simp only [Sample.lateTimer, Sample.newcomer, Sample.hangup, List.mem_cons, reduceCtorEq,
      Slot.socket.injEq, List.not_mem_nil, false_or, or_false] at hslot
    obtain ⟨rfl, -⟩ := hslot
    decide +kernel
  · simp [Sample.lateTimer, Sample.newcomer, Sample.hangup]
  · have hnew : (Sample.pinged.handleSlots Sample.objectParser Sample.noWriter
        [Sample.lateTimer, Sample.newcomer 7]).sessions 7 =
          some ⟨2, 3, 4, ⟨[], []⟩, seconds 45, 0, false, false⟩ := by decide +kernel
    have hold : (Sample.pinged.sessions 7).map WebSocketSession.identity = some Sample.who := by
      decide +kernel
    obtain ⟨session, hsession, hid⟩ := hreach [Sample.lateTimer, Sample.newcomer 7] _ [] rfl _ _ _ _ rfl
      _ hnew
    rw [hsession] at hold
    have hwho := hid.trans (Option.some.inj hold)
    cases hwho

end ChatBackend
