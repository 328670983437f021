import ChatBackend.Websocket.Pulse

/-!
# The heartbeat of a worker

A worker that a peer has sent nothing for `heartbeat_interval_` sends a Ping, and removes the session
when no Pong comes within `pong_timeout_`; a revoked session is removed when its two seconds are over.
All this is done when the timer ticks. So no session lingers: how long the peer of one may have been
silent is bounded by the two and by what the ticks are apart. And no session is lost to the timer that
should not be: the Ping that its peer has failed to answer was really sent, in time, after a silence,
and no Pong has been handled since.

## Main definitions

* `Once` — something happened at one input, and since then nothing has disturbed it
* `Clocked` — a run, by its inputs, on a clock

## Main results

* `silence_bounded`
* `timer_removes`
-/

namespace ChatBackend

open Heartbeat (Pulse Timely)

variable {parser : JsonParser} {writer : JsonWriter} {w : WebsocketWorker} {fd : Fd}

/-! ### Runs -/

open WebsocketWorker (Runs runs_append run_append)

variable {inputs : List WorkerInput} {period tick clock : SteadyTime}

/-- **Something happened at one input, and since then nothing has disturbed it.** -/
inductive Once (parser : JsonParser) (writer : JsonWriter)
    (happens disturbs : WebsocketWorker → WorkerInput → Prop) : List WorkerInput → Prop where
  | last {inputs : List WorkerInput} {input : WorkerInput}
      (hhappens : happens (WebsocketWorker.start.run parser writer inputs) input) :
      Once parser writer happens disturbs (inputs ++ [input])
  | later {inputs : List WorkerInput} {input : WorkerInput}
      (h : Once parser writer happens disturbs inputs)
      (hundisturbed : ¬ disturbs (WebsocketWorker.start.run parser writer inputs) input) :
      Once parser writer happens disturbs (inputs ++ [input])

/-- **A sign of life**: the session is registered, or bytes of its peer are read. -/
def WebsocketWorker.SignOfLife (fd : Fd) (who : Identity) (time : SteadyTime) (w : WebsocketWorker)
    (input : WorkerInput) : Prop :=
  (w.sessions fd = none ∧ ∃ inputBuffer, input = .register fd who inputBuffer time true) ∨
    ∃ session recvs, w.Reads fd session recvs input ∧ session.identity = who ∧
      ∃ recv ∈ recvs, time ∈ recv.readings

/-- **A Ping**: its session has been silent for longer than `heartbeat_interval_`. -/
def WebsocketWorker.Pings (fd : Fd) (who : Identity) (time : SteadyTime) (w : WebsocketWorker)
    (input : WorkerInput) : Prop :=
  ∃ order modOk session, input = .timer time order modOk ∧ w.sessions fd = some session ∧
    session.identity = who ∧ w.timerVerdict time fd = some .ping ∧
    session.lastActivity + heartbeatInterval < time

/-- **The deadline of a session**, which a revocation of its device has set. -/
def WebsocketWorker.Revokes (fd : Fd) (who : Identity) (deadline : SteadyTime) (w : WebsocketWorker)
    (input : WorkerInput) : Prop :=
  w.Limits fd deadline input ∧ ∃ session, w.sessions fd = some session ∧ session.identity = who

/-- The times that an input comes with are between two times. -/
def WorkerInput.Within (low high : SteadyTime) : WorkerInput → Prop
  | register _ _ _ now _ => low ≤ now ∧ now ≤ high
  | socket _ _ io _ => ∀ recv ∈ io.recvs, ∀ now ∈ recv.readings, low ≤ now ∧ now ≤ high
  | timer now _ _ => low ≤ now ∧ now ≤ high
  | revocation _ _ _ order io => ∀ fd ∈ order, low ≤ (io fd).now ∧ (io fd).now ≤ high
  | _ => True

/-- **A run on a clock**: the times of a step are between the end of the step before and its own end,
and no step ends more than a period after the last tick. -/
inductive Clocked (parser : JsonParser) (writer : JsonWriter) (period : SteadyTime) :
    List WorkerInput → SteadyTime → SteadyTime → Prop where
  | start (now : SteadyTime) : Clocked parser writer period [] now now
  | step {inputs : List WorkerInput} {tick clock now : SteadyTime} {input : WorkerInput}
      (h : Clocked parser writer period inputs tick clock)
      (hadmits : (WebsocketWorker.start.run parser writer inputs).Admits input)
      (hle : clock ≤ now) (hwithin : input.Within clock now) (hperiod : now ≤ tick + period) :
      Clocked parser writer period (inputs ++ [input]) (input.tick.getD tick) now

theorem run_concat (inputs : List WorkerInput) (input : WorkerInput) :
    WebsocketWorker.start.run parser writer (inputs ++ [input]) =
      (WebsocketWorker.start.run parser writer inputs).step parser writer input :=
  run_append inputs [input]

/-- What holds of the clock and of all sessions between two steps. -/
structure OnTime (parser : JsonParser) (writer : JsonWriter) (period : SteadyTime)
    (inputs : List WorkerInput) (tick clock : SteadyTime) : Prop where
  le : tick ≤ clock
  pace : clock ≤ tick + period
  timely : ∀ fd session, (WebsocketWorker.start.run parser writer inputs).sessions fd =
    some session → (WebsocketWorker.start.run parser writer inputs).deadlines fd = none →
      Timely heartbeatRhythm period tick clock session.pulse
  heard : ∀ fd session, (WebsocketWorker.start.run parser writer inputs).sessions fd =
    some session → Once parser writer (WebsocketWorker.SignOfLife fd session.identity
      session.lastActivity) (fun _ _ => False) inputs
  limited : ∀ fd session deadline, (WebsocketWorker.start.run parser writer inputs).sessions fd =
    some session → (WebsocketWorker.start.run parser writer inputs).deadlines fd = some deadline →
      tick < deadline ∧ Once parser writer (WebsocketWorker.Revokes fd session.identity deadline)
        (fun _ _ => False) inputs

/-- A tick does not come before the last one. -/
theorem WorkerInput.le_tick {input : WorkerInput} {now : SteadyTime} (hle : tick ≤ clock)
    (hwithin : input.Within clock now) (hlater : clock ≤ now) :
    tick ≤ input.tick.getD tick ∧ input.tick.getD tick ≤ now := by
  cases input with
  | timer time order modOk => exact ⟨hle.trans hwithin.1, hwithin.2⟩
  | register | socket | reply | push | close | revocation => exact ⟨le_rfl, hle.trans hlater⟩

/-- Reading hears of the peer at the times of the `recv`s. -/
theorem hears_handleReadable {session : WebSocketSession} {recvs : List Recv} {low high : SteadyTime}
    (hwithin : ∀ recv ∈ recvs, ∀ now ∈ recv.readings, low ≤ now ∧ now ≤ high) :
    session.pulse.Hears low high (handleReadable session recvs).session.pulse := by
  obtain ⟨-, hpinged, hwaiting, hheard⟩ := pulsed_handleReadable session recvs
  rcases hheard with ⟨hnone, hsame⟩ | ⟨recv, hrecv, hreading⟩
  · rw [hnone] at hwaiting
    left
    ext
    · exact hsame
    · exact hpinged
    · rw [← Bool.coe_iff_coe]
      exact hwaiting.trans (and_iff_left not_hasPong_nil)
  · obtain ⟨hlow, hhigh⟩ := hwithin recv hrecv _ hreading
    exact .inr ⟨hlow, hhigh, hpinged, fun hstill => (hwaiting.1 hstill).1⟩

/-- A tick that finds nothing to do about a session, or that sends it a Ping. -/
theorem verdict_of_timerVerdict {session : WebSocketSession} (hsession : w.sessions fd = some session)
    (hdeadline : w.deadlines fd = none) {now : SteadyTime} :
    (w.timerVerdict now fd = none → session.pulse.verdict heartbeatRhythm now = .fine) ∧
      (w.timerVerdict now fd = some .ping → session.pulse.verdict heartbeatRhythm now = .ask) := by
  rw [timerVerdict_eq hsession hdeadline]
  cases session.pulse.verdict heartbeatRhythm now <;> simp [timerVerdictOf]

theorem WebsocketWorker.Reads.socket {session : WebSocketSession} {recvs : List Recv}
    {input : WorkerInput} (h : w.Reads fd session recvs input) :
    w.sessions fd = some session ∧ w.deadlines fd = none ∧
      ∃ flags io output, input = .socket fd flags io output ∧ io.recvs = recvs := by
  cases input with
  | socket fd' flags io output =>
    obtain ⟨rfl, -, -, hdeadline, hsession, hrecvs⟩ := h
    exact ⟨hsession, hdeadline, flags, io, output, rfl, hrecvs⟩
  | register | timer | reply | push | close | revocation => exact h.elim

theorem WorkerInput.within_tick {input : WorkerInput} {low high time : SteadyTime}
    (h : input.Within low high) (htick : input.tick = some time) : low ≤ time ∧ time ≤ high := by
  cases input with
  | timer now order modOk =>
    obtain rfl := Option.some.inj htick
    exact h
  | register | socket | reply | push | close | revocation => cases htick

/-- A session with a deadline that the timer leaves has time left. -/
theorem lt_deadline {session : WebSocketSession} (hsession : w.sessions fd = some session)
    {deadline : SteadyTime} (hdeadline : w.deadlines fd = some deadline) {now : SteadyTime} :
    (w.timerVerdict now fd = none → now < deadline) ∧ w.timerVerdict now fd ≠ some .ping := by
  rw [WebsocketWorker.timerVerdict, hsession, hdeadline]
  simp only
  split
  · exact ⟨fun h => (by cases h), fun h => (by cases h)⟩
  · next hlt => exact ⟨fun _ => not_le.1 hlt, fun h => (by cases h)⟩

section Step

variable {input : WorkerInput} {now : SteadyTime}
  (h : OnTime parser writer period inputs tick clock)
  (hadmits : (WebsocketWorker.start.run parser writer inputs).Admits input)
  (hle : clock ≤ now) (hwithin : input.Within clock now) (hperiod : now ≤ tick + period)
include h hadmits hle hwithin

include hperiod in
theorem OnTime.timely_step {session' : WebSocketSession}
    (hsession' : (WebsocketWorker.start.run parser writer (inputs ++ [input])).sessions fd =
      some session')
    (hdeadline' : (WebsocketWorker.start.run parser writer (inputs ++ [input])).deadlines fd = none) :
    Timely heartbeatRhythm period (input.tick.getD tick) now session'.pulse := by
  rw [run_concat] at hsession' hdeadline'
  have hbeat := beat_step hadmits hsession'
  rw [hdeadline'] at hbeat
  cases hbeat with
  | registered hpulse =>
    rw [hpulse]
    exact .fresh (h.le.trans hwithin.1) hwithin.2
  | read hreads _ hpulse =>
    obtain ⟨hsession, hdeadline, flags, io, output, rfl, rfl⟩ := hreads.socket
    rw [hpulse]
    exact (h.timely fd _ hsession hdeadline).hears h.le hle (hears_handleReadable hwithin)
  | pinged hsession _ hverdict hpulse hdeadline =>
    rw [hpulse]
    have hask := (verdict_of_timerVerdict hsession hdeadline.symm).2 hverdict
    exact ((h.timely fd _ hsession hdeadline.symm).asks hwithin.1 (hwithin.2.trans hperiod)
      hask).later hwithin.2
  | kept hsession _ hpulse htick _ hdeadline =>
    have hnone : (WebsocketWorker.start.run parser writer inputs).deadlines fd = none := by
      rcases hdeadline with hsame | ⟨hnone, -⟩
      · exact hsame.symm
      · exact hnone
    rw [hpulse]
    rcases htime : input.tick with _ | time
    · exact (h.timely fd _ hsession hnone).later hle
    · obtain ⟨hlow, hhigh⟩ := WorkerInput.within_tick hwithin htime
      have hfine := (verdict_of_timerVerdict hsession hnone).1 (htick time htime)
      exact ((h.timely fd _ hsession hnone).passes hlow hfine).later hhigh

omit hle hwithin in
theorem OnTime.heard_step {session' : WebSocketSession}
    (hsession' : (WebsocketWorker.start.run parser writer (inputs ++ [input])).sessions fd =
      some session') :
    Once parser writer (WebsocketWorker.SignOfLife fd session'.identity session'.lastActivity)
      (fun _ _ => False) (inputs ++ [input]) := by
  rw [run_concat] at hsession'
  -- A session that has not been heard from was heard from at the same time before.
  have hold {session : WebSocketSession}
      (hsession : (WebsocketWorker.start.run parser writer inputs).sessions fd = some session)
      (hid : session'.identity = session.identity)
      (hsame : session'.lastActivity = session.lastActivity) :
      Once parser writer (WebsocketWorker.SignOfLife fd session'.identity session'.lastActivity)
        (fun _ _ => False) (inputs ++ [input]) := by
    rw [hid, hsame]
    exact .later (h.heard fd session hsession) not_false
  cases beat_step hadmits hsession' with
  | @registered inputBuffer time hpulse _ hfree =>
    have hnow : session'.lastActivity = time := congrArg Pulse.heardAt hpulse
    rw [hnow]
    exact .last (.inl ⟨hfree, inputBuffer, rfl⟩)
  | @read _ session recvs hreads hid hpulse =>
    have hsame : session'.lastActivity = (handleReadable session recvs).session.lastActivity :=
      congrArg Pulse.heardAt hpulse
    rcases (pulsed_handleReadable session recvs).heard with ⟨-, hunheard⟩ | hheard
    · exact hold hreads.socket.1 hid (hsame.trans hunheard)
    · rw [hsame]
      exact .last (.inr ⟨session, recvs, hreads, hid.symm, hheard⟩)
  | pinged hsession hid _ hpulse => exact hold hsession hid (congrArg Pulse.heardAt hpulse)
  | kept hsession hid hpulse => exact hold hsession hid (congrArg Pulse.heardAt hpulse)

omit hle in
theorem OnTime.limited_step
    (hconsistent : (WebsocketWorker.start.run parser writer inputs).Consistent)
    {session' : WebSocketSession}
    (hsession' : (WebsocketWorker.start.run parser writer (inputs ++ [input])).sessions fd =
      some session') {deadline : SteadyTime}
    (hdeadline' : (WebsocketWorker.start.run parser writer (inputs ++ [input])).deadlines fd =
      some deadline) :
    input.tick.getD tick < deadline ∧
      Once parser writer (WebsocketWorker.Revokes fd session'.identity deadline)
        (fun _ _ => False) (inputs ++ [input]) := by
  rw [run_concat] at hsession' hdeadline'
  have hbeat := beat_step hadmits hsession'
  rw [hdeadline'] at hbeat
  cases hbeat with
  | registered _ hdeadline hfree =>
    have hsome := hconsistent.deadlines fd (by rw [← hdeadline]; rfl)
    rw [hfree] at hsome
    cases hsome
  | read _ _ _ hnone => cases hnone
  | pinged hsession _ hverdict _ hdeadline =>
    exact absurd hverdict (lt_deadline hsession hdeadline.symm).2
  | kept hsession hid _ htick _ hdeadline =>
    rcases hdeadline with hsame | ⟨-, limit, hlimit, hlimits⟩
    · obtain ⟨hlt, honce⟩ := h.limited fd _ deadline hsession hsame.symm
      refine ⟨?_, by rw [hid]; exact .later honce not_false⟩
      rcases htime : input.tick with _ | time
      · exact hlt
      · exact (lt_deadline hsession hsame.symm).1 (htick time htime)
    · obtain rfl := Option.some.inj hlimit
      refine ⟨?_, .last ⟨hlimits, _, hsession, hid.symm⟩⟩
      cases input with
      | revocation scan userId deviceId order io =>
        obtain ⟨horder, -, rfl⟩ := hlimits
        calc tick ≤ clock := h.le
          _ ≤ (io fd).now := (hwithin fd horder).1
          _ < (io fd).now + revokeTimeout := Nat.lt_add_of_pos_right (by decide)
      | register | socket | timer | reply | push | close => exact hlimits.elim

end Step

theorem OnTime.step {input : WorkerInput} {now : SteadyTime}
    (h : OnTime parser writer period inputs tick clock)
    (hreaches : (WebsocketWorker.start.run parser writer inputs).Reaches parser writer
      fun _ _ => True)
    (hadmits : (WebsocketWorker.start.run parser writer inputs).Admits input)
    (hle : clock ≤ now) (hwithin : input.Within clock now) (hperiod : now ≤ tick + period) :
    OnTime parser writer period (inputs ++ [input]) (input.tick.getD tick) now := by
  obtain ⟨hearlier, hlater⟩ := WorkerInput.le_tick h.le hwithin hle
  refine ⟨hlater, ?_, fun fd session' hsession' hdeadline' => ?_, fun fd session' hsession' => ?_,
    fun fd session' deadline hsession' hdeadline' => ?_⟩
  · exact hperiod.trans (Nat.add_le_add_right hearlier period)
  · exact h.timely_step hadmits hle hwithin hperiod hsession' hdeadline'
  · exact h.heard_step hadmits hsession'
  · exact h.limited_step hadmits hwithin (consistent_of_reaches hreaches) hsession' hdeadline'

theorem Clocked.reaches (h : Clocked parser writer period inputs tick clock) :
    (WebsocketWorker.start.run parser writer inputs).Reaches parser writer fun _ _ => True := by
  induction h with
  | start => exact .start
  | step _ hadmits _ _ _ ih =>
    rw [run_concat]
    exact ih.step hadmits trivial

theorem Clocked.onTime (h : Clocked parser writer period inputs tick clock) :
    OnTime parser writer period inputs tick clock := by
  induction h with
  | start now =>
    refine ⟨le_rfl, Nat.le_add_right now period, fun fd session hsession => ?_,
      fun fd session hsession => ?_, fun fd session deadline hsession => ?_⟩
    all_goals cases hsession
  | step h hadmits hle hwithin hperiod ih =>
    exact ih.step h.reaches hadmits hle hwithin hperiod

/-- **No session lingers**: in any run on a clock, with ticks no more than `period` apart, the peer of
a session that is not revoked was last heard from at most 40 seconds and two periods ago, and a
session that no Pong is waited for at most 30 seconds and one period ago; what is taken for the last
sign of life was one. A revoked session has a deadline two seconds after the scan that revoked it, and
is gone one period after that. -/
theorem silence_bounded (h : Clocked parser writer period inputs tick clock)
    {session : WebSocketSession}
    (hsession : (WebsocketWorker.start.run parser writer inputs).sessions fd = some session) :
    Once parser writer (WebsocketWorker.SignOfLife fd session.identity session.lastActivity)
        (fun _ _ => False) inputs ∧
      ((WebsocketWorker.start.run parser writer inputs).deadlines fd = none →
        clock ≤ session.lastActivity + (seconds 40 + (period + period)) ∧
          (session.waitingForPong = false →
            clock ≤ session.lastActivity + (seconds 30 + period))) ∧
      ∀ deadline, (WebsocketWorker.start.run parser writer inputs).deadlines fd = some deadline →
        clock < deadline + period ∧ Once parser writer
          (WebsocketWorker.Revokes fd session.identity deadline) (fun _ _ => False) inputs := by
  obtain ⟨-, hpace, htimely, hheard, hlimited⟩ := h.onTime
  refine ⟨hheard fd session hsession, fun hdeadline => ?_, fun deadline hdeadline => ?_⟩
  · have hpulse := htimely fd session hsession hdeadline
    have hrhythm : heartbeatRhythm.interval + heartbeatRhythm.timeout = seconds 40 := rfl
    refine ⟨?_, hpulse.silence_unasked hpace⟩
    rw [← hrhythm]
    exact hpulse.silence (Nat.zero_le period) hpace
  · obtain ⟨hlt, hrevoked⟩ := hlimited fd session deadline hsession hdeadline
    exact ⟨hpace.trans_lt (Nat.add_lt_add_right hlt period), hrevoked⟩

/-! ### What the timer removes -/

/-- A session that waits for a Pong was sent a Ping, and no Pong has been handled since. -/
theorem pinged_of_runs (hruns : Runs parser writer .start inputs) {session : WebSocketSession}
    (hsession : (WebsocketWorker.start.run parser writer inputs).sessions fd = some session)
    (hwaiting : session.waitingForPong = true) :
    Once parser writer (WebsocketWorker.Pings fd session.identity session.pingSentAt)
      (fun w input => w.HandlesPong fd input) inputs := by
  induction inputs using List.reverseRecOn generalizing session with
  | nil => cases hsession
  | append_singleton inputs input ih =>
    obtain ⟨hbefore, hadmits, -⟩ := runs_append.1 hruns
    rw [run_concat] at hsession
    cases beat_step hadmits hsession with
    | registered hpulse =>
      have hnone : session.waitingForPong = false := congrArg Pulse.waiting hpulse
      rw [hnone] at hwaiting
      cases hwaiting
    | @read _ earlier recvs hreads hid hpulse =>
      obtain ⟨-, hpinged, hstill, -⟩ := pulsed_handleReadable earlier recvs
      have hsame : session.waitingForPong = (handleReadable earlier recvs).session.waitingForPong :=
        congrArg Pulse.waiting hpulse
      have htime : session.pingSentAt = (handleReadable earlier recvs).session.pingSentAt :=
        congrArg Pulse.askedAt hpulse
      obtain ⟨hwaited, hsilent⟩ := hstill.1 (hsame.symm.trans hwaiting)
      rw [hid, htime, hpinged]
      refine .later (ih hbefore hreads.socket.1 hwaited) ?_
      rintro ⟨other, recvs', hreads', hpong⟩
      obtain ⟨hsession', -, _, io', _, rfl, rfl⟩ := hreads'.socket
      obtain ⟨hsession₀, -, _, io, _, heq, rfl⟩ := hreads.socket
      obtain rfl := Option.some.inj (hsession'.symm.trans hsession₀)
      injection heq with _ _ hio
      rw [hio] at hpong
      exact hsilent hpong
    | @pinged time order modOk earlier hsession₀ hid hverdict hpulse hdeadline =>
      have htime : session.pingSentAt = time := congrArg Pulse.askedAt hpulse
      rw [htime]
      refine .last ⟨order, modOk, earlier, rfl, hsession₀, hid.symm, hverdict, ?_⟩
      rcases hlimit : (WebsocketWorker.start.run parser writer inputs).deadlines fd with _ | deadline
      · have hask := (verdict_of_timerVerdict hsession₀ hlimit).2 hverdict
        rw [Pulse.verdict] at hask
        split_ifs at hask with _ hsilent
        exact hsilent.2
      · exact absurd hverdict (lt_deadline hsession₀ hlimit).2
    | kept hsession₀ hid hpulse _ hsilent =>
      have hsame : session.waitingForPong = _ := congrArg Pulse.waiting hpulse
      have htime : session.pingSentAt = _ := congrArg Pulse.askedAt hpulse
      rw [hid, htime]
      exact .later (ih hbefore hsession₀ (hsame.symm.trans hwaiting)) hsilent

/-- Asking for `EPOLLOUT` only costs a session where `epoll_ctl` fails. -/
theorem sessions_foldl_ask {modOk : Fd → Bool} {fds : List Fd} (h : fd ∈ fds → modOk fd = true)
    (w : WebsocketWorker) :
    (fds.foldl (fun w fd => w.setWriteInterest fd true (modOk fd)) w).sessions fd =
      w.sessions fd := by
  induction fds generalizing w with
  | nil => rfl
  | cons first fds ih =>
    rw [List.foldl_cons, ih fun hmem => h (List.mem_cons_of_mem first hmem)]
    by_cases hfd : fd = first
    · subst hfd
      rcases w.setWriteInterest_cases fd true (modOk fd) with ⟨interest, heq⟩ | ⟨-, hfailed, -⟩
      · rw [heq]
      · rw [h List.mem_cons_self] at hfailed
        cases hfailed
    · exact ((Touches.setWriteInterest w first true (modOk first)).frame fd hfd).1

/-- **The timer removes no session without a reason**, in any run: its deadline is over, or it was to
get a Ping and `epoll_ctl` failed, or 10 seconds ago or more it did get one, when its peer had sent
nothing for more than 30 seconds, and no Pong of it has been handled since. -/
theorem timer_removes (hruns : Runs parser writer .start inputs) {now : SteadyTime}
    {order : List Fd} {modOk : Fd → Bool}
    (hadmits : (WebsocketWorker.start.run parser writer inputs).Admits (.timer now order modOk))
    {session : WebSocketSession}
    (hsession : (WebsocketWorker.start.run parser writer inputs).sessions fd = some session)
    (hgone : ((WebsocketWorker.start.run parser writer inputs).step parser writer
      (.timer now order modOk)).sessions fd = none) :
    (∃ deadline, (WebsocketWorker.start.run parser writer inputs).deadlines fd = some deadline ∧
        deadline ≤ now) ∨
      (modOk fd = false ∧ session.lastActivity + seconds 30 < now) ∨
      ∃ time, time + seconds 10 ≤ now ∧
        Once parser writer (WebsocketWorker.Pings fd session.identity time)
          (fun w input => w.HandlesPong fd input) inputs := by
  have hsessions := sessions_handleTimer hadmits now fd
  have hpinged := @pinged_of_runs parser writer fd inputs hruns session hsession
  generalize WebsocketWorker.start.run parser writer inputs = w at hsession hgone hsessions hadmits ⊢
  rcases hdeadline : w.deadlines fd with _ | deadline
  · have hverdict := timerVerdict_eq hsession hdeadline now
    rw [WebsocketWorker.step, WebsocketWorker.handleTimer] at hgone
    rw [Pulse.verdict] at hverdict
    split_ifs at hverdict with hgiveUp hask
    · exact .inr (.inr ⟨session.pingSentAt, hgiveUp.2, hpinged hgiveUp.1⟩)
    · refine .inr (.inl ⟨?_, hask.2⟩)
      -- Had `epoll_ctl` succeeded, the session would be there.
      by_contra hmod
      rw [Bool.not_eq_false] at hmod
      rw [sessions_foldl_ask fun _ => hmod, hsessions, hverdict] at hgone
      simp [timerVerdictOf, hsession] at hgone
    · have hunasked : fd ∈ w.writableFds now order → modOk fd = true := by
        intro hmem
        have hping := (mem_writableFds.1 hmem).2
        rw [hverdict] at hping
        cases hping
      rw [sessions_foldl_ask hunasked, hsessions, hverdict] at hgone
      simp [timerVerdictOf, hsession] at hgone
  · refine .inl ⟨deadline, rfl, ?_⟩
    by_contra hlater
    have hnone : w.timerVerdict now fd = none := by
      rw [WebsocketWorker.timerVerdict, hsession, hdeadline]
      simp only [if_neg hlater]
    have hunasked : fd ∈ w.writableFds now order → modOk fd = true := by
      intro hmem
      exact absurd (mem_writableFds.1 hmem).2 (lt_deadline hsession hdeadline).2
    rw [WebsocketWorker.step, WebsocketWorker.handleTimer, sessions_foldl_ask hunasked, hsessions,
      hnone] at hgone
    simp [hsession] at hgone

namespace Sample

/-- The timer ticks when nothing has come for 31 seconds. -/
def firstTick : WorkerInput := .timer (seconds 31) [7] fun _ => true

/-- The session after the first tick. -/
def pingedSession : WebSocketSession :=
  ⟨1, 1, 2, ⟨[], frameEncoder pingFrame⟩, 0, seconds 31, true, false⟩

theorem sessions_firstTick : (WebsocketWorker.start.run objectParser noWriter
    [registration, firstTick]).sessions 7 = some pingedSession := by
  decide +kernel

theorem clocked_firstTick :
    Clocked objectParser noWriter (seconds 31) [registration, firstTick] (seconds 31) (seconds 31) := by
  have hfirst : Clocked objectParser noWriter (seconds 31) [registration] 0 0 :=
    Clocked.step (.start 0) (fun _ h => absurd h List.not_mem_nil) le_rfl ⟨le_rfl, le_rfl⟩
      (Nat.zero_le _)
  exact hfirst.step enumerates_registered (Nat.zero_le _) ⟨Nat.zero_le _, le_rfl⟩ (by decide)

theorem enumerates_firstTick : (WebsocketWorker.start.run objectParser noWriter
    [registration, firstTick]).Enumerates [7] := by
  refine ⟨by decide, fun fd => ?_⟩
  rw [List.mem_singleton]
  constructor
  · rintro rfl
    rw [sessions_firstTick]
    rfl
  · intro hfd
    obtain ⟨session', hsession'⟩ := Option.isSome_iff_exists.1 hfd
    have hkeeps : Keeps registered (registered.step objectParser noWriter firstTick) :=
      keeps_step (by simp [firstTick])
    obtain ⟨session, hsession, -⟩ := hkeeps fd session' hsession'
    exact List.mem_singleton.1 ((enumerates_registered.2 fd).2 (by rw [hsession]; rfl))

end Sample

/-- A session that waits for its first Pong. -/
theorem silence_bounded_ping :
    Once Sample.objectParser Sample.noWriter (WebsocketWorker.SignOfLife 7 Sample.who 0)
        (fun _ _ => False) [Sample.registration, Sample.firstTick] ∧
      seconds 31 ≤ Sample.pingedSession.lastActivity + (seconds 40 + (seconds 31 + seconds 31)) := by
  have hbounded := silence_bounded Sample.clocked_firstTick Sample.sessions_firstTick
  exact ⟨hbounded.1, (hbounded.2.1 (by decide +kernel)).1⟩

/-- The Pong has not come when the timer ticks again. -/
theorem timer_removes_silent : ∃ time, time + seconds 10 ≤ seconds 41 ∧
    Once Sample.objectParser Sample.noWriter (WebsocketWorker.Pings 7 Sample.who time)
      (fun w input => w.HandlesPong 7 input) [Sample.registration, Sample.firstTick] := by
  have hruns : Runs Sample.objectParser Sample.noWriter .start
      [Sample.registration, Sample.firstTick] :=
    ⟨fun _ h => absurd h List.not_mem_nil, Sample.enumerates_registered, trivial⟩
  rcases @timer_removes Sample.objectParser Sample.noWriter 7 _ hruns (seconds 41) [7]
    (fun _ => true) Sample.enumerates_firstTick _ Sample.sessions_firstTick (by decide +kernel) with
    ⟨deadline, hdeadline, -⟩ | ⟨hfailed, -⟩ | hunanswered
  · cases hdeadline
  · cases hfailed
  · exact hunanswered

end ChatBackend
