import ChatBackend.Heartbeat
import ChatBackend.Websocket.Bookkeeping

/-!
# The pulses of the sessions

What the heartbeat of a worker knows about a session is when bytes of its peer were last read, when it
was last sent a Ping, and whether the Pong is waited for; beside this there may be a deadline. A step
of the worker is one of four things to a session that is still there when it is over: it has been
registered, it has been read from, the timer has sent it a Ping, or its pulse is what it was, and then
the timer, if it was the timer, found nothing to do about it.

## Main definitions

* `WebSocketSession.pulse`
* `Steady` — what an operation does that has nothing to do with pulses
* `Beat` — what a step does to the pulse of a session

## Main results

* `timerVerdict_eq` — the checks of the timer are those of a heartbeat
* `beat_step`
-/

namespace ChatBackend

open Function (update update_self update_of_ne)
open Heartbeat (Pulse Rhythm Timely)
open WebsocketWorker (ReadableInputs WritableInputs RevocationInputs answers)

variable {parser : JsonParser} {writer : JsonWriter} {w w' w'' : WebsocketWorker} {fd : Fd}

/-! ### The pulse of a session -/

/-- What the heartbeat knows about a session. -/
def WebSocketSession.pulse (session : WebSocketSession) : Pulse SteadyTime :=
  ⟨session.lastActivity, session.pingSentAt, session.waitingForPong⟩

/-- `heartbeat_interval_` and `pong_timeout_`. -/
def heartbeatRhythm : Rhythm SteadyTime where
  interval := heartbeatInterval
  timeout := pongTimeout
  interval_nonneg := Nat.zero_le _
  timeout_pos := by decide

/-- What the timer does about it. -/
def timerVerdictOf : Heartbeat.Verdict → Option WebsocketWorker.TimerVerdict
  | .fine => none
  | .ask => some .ping
  | .giveUp => some (.expired .pongTimeout)

/-- **The checks of the timer** on a session without a deadline are those of a heartbeat. -/
theorem timerVerdict_eq {session : WebSocketSession} (hsession : w.sessions fd = some session)
    (hdeadline : w.deadlines fd = none) (now : SteadyTime) :
    w.timerVerdict now fd = timerVerdictOf (session.pulse.verdict heartbeatRhythm now) := by
  have hgiveUp : session.pongTimeout now pongTimeout = true ↔ session.pulse.waiting = true ∧
      session.pulse.askedAt + heartbeatRhythm.timeout ≤ now := by
    rw [WebSocketSession.pongTimeout, Bool.and_eq_true, decide_eq_true_eq]
    rfl
  have hask : session.shouldSendPing now heartbeatInterval = true ↔
      session.pulse.waiting = false ∧
        session.pulse.heardAt + heartbeatRhythm.interval < now := by
    rw [WebSocketSession.shouldSendPing, Bool.and_eq_true, decide_eq_true_eq, decide_eq_true_eq]
    rfl
  rw [WebsocketWorker.timerVerdict, hsession, hdeadline, Pulse.verdict]
  simp only [← hgiveUp, ← hask]
  split_ifs <;> rfl

/-! ### Reading -/

/-- What the clock says at a `recv`. -/
def Recv.readings : Recv → List SteadyTime
  | data _ now pongAt => [now, pongAt]
  | _ => []

/-- A Pong is among the frames. -/
def HasPong (frames : List Frame) : Prop := ∃ frame ∈ frames, frame.opcode = .pong

@[simp] theorem not_hasPong_nil : ¬ HasPong [] := by
  rintro ⟨_, hframe, -⟩
  cases hframe

theorem hasPong_append {frames more : List Frame} :
    HasPong (frames ++ more) ↔ HasPong frames ∨ HasPong more := by
  simp only [HasPong, List.mem_append, or_and_right, exists_or]

/-- **What reading does to the pulse**: it is heard when bytes come, and a Pong that is handled is the
answer that was waited for. -/
structure Progress.Pulsed (progress : Progress) (recvs : List Recv) (progress' : Progress)
    (more : List Frame) : Prop where
  handled : progress'.handled = progress.handled ++ more
  pinged : progress'.session.pingSentAt = progress.session.pingSentAt
  waiting : progress'.session.waitingForPong = true ↔
    progress.session.waitingForPong = true ∧ ¬ HasPong more
  heard : more = [] ∧ progress'.session.lastActivity = progress.session.lastActivity ∨
    ∃ recv ∈ recvs, progress'.session.lastActivity ∈ recv.readings

theorem Progress.Pulsed.refl (progress : Progress) (recvs : List Recv) :
    progress.Pulsed recvs progress [] where
  handled := (List.append_nil _).symm
  pinged := rfl
  waiting := by simp
  heard := .inl ⟨rfl, rfl⟩

theorem Progress.Pulsed.stop {progress progress' : Progress} {recvs : List Recv} {more : List Frame}
    (h : progress.Pulsed recvs progress' more) (status : WebSocketHandleStatus) :
    progress.Pulsed recvs (progress'.stop status) more :=
  ⟨h.handled, h.pinged, h.waiting, h.heard⟩

/-- The frames of one `FrameParse`, after the `recv`. -/
theorem pulsed_handleFrames {now pongAt : SteadyTime} {progress : Progress}
    (hnow : progress.session.lastActivity ∈ [now, pongAt]) (frames : List Frame) :
    ∃ more, (handleFrames pongAt progress frames).1.handled = progress.handled ++ more ∧
      (handleFrames pongAt progress frames).1.session.pingSentAt = progress.session.pingSentAt ∧
      (handleFrames pongAt progress frames).1.session.lastActivity ∈ [now, pongAt] ∧
      ((handleFrames pongAt progress frames).1.session.waitingForPong = true ↔
        progress.session.waitingForPong = true ∧ ¬ HasPong more) := by
  induction frames generalizing progress with
  | nil => exact ⟨[], (List.append_nil _).symm, rfl, hnow, by simp [handleFrames]⟩
  | cons frame frames ih =>
    have hframe : (progress.after pongAt frame).session.pingSentAt = progress.session.pingSentAt ∧
        (progress.after pongAt frame).session.lastActivity ∈ [now, pongAt] ∧
        ((progress.after pongAt frame).session.waitingForPong = true ↔
          progress.session.waitingForPong = true ∧ frame.opcode ≠ .pong) := by
      obtain ⟨fin, opcode, payload⟩ := frame
      simp only [List.mem_cons, List.not_mem_nil, or_false] at hnow ⊢
      cases opcode <;>
        simp [Progress.after, Frame.applyTo, Frame.answer, WebSocketSession.write,
          WebSocketSession.handlePong, hnow]
    obtain ⟨hpinged, hheard, hwaiting⟩ := hframe
    rw [handleFrames, handleFrame_eq]
    cases frame.stops with
    | none =>
      obtain ⟨more, hhandled, hpinged', hheard', hwaiting'⟩ := ih hheard
      refine ⟨frame :: more, ?_, hpinged'.trans hpinged, hheard', ?_⟩
      · exact hhandled.trans (List.append_cons progress.handled frame more).symm
      · refine hwaiting'.trans ?_
        rw [hwaiting, HasPong, HasPong, List.exists_mem_cons_iff, not_or, and_assoc]
    | some status =>
      refine ⟨[frame], rfl, hpinged, hheard, hwaiting.trans ?_⟩
      simp [HasPong]

/-- **The loop of `handleReadable`.** -/
theorem pulsed_readLoop (progress : Progress) (recvs : List Recv) :
    ∃ more, progress.Pulsed recvs (readLoop progress recvs).1 more := by
  induction recvs generalizing progress with
  | nil =>
    rw [readLoop]
    split
    · exact ⟨[], .refl progress _⟩
    · exact ⟨[], (Progress.Pulsed.refl progress _).stop _⟩
  | cons outcome recvs ih =>
    cases outcome with
    | closed | failed => exact ⟨[], (Progress.Pulsed.refl progress _).stop _⟩
    | again =>
      rw [readLoop]
      split
      · exact ⟨[], .refl progress _⟩
      · exact ⟨[], (Progress.Pulsed.refl progress _).stop _⟩
    | interrupted =>
      obtain ⟨more, hhandled, hpinged, hwaiting, hheard⟩ := ih progress
      refine ⟨more, hhandled, hpinged, hwaiting, hheard.imp_right ?_⟩
      rintro ⟨recv, hrecv, hreading⟩
      exact ⟨recv, List.mem_cons_of_mem _ hrecv, hreading⟩
    | data chunk now pongAt =>
      rw [readLoop]
      generalize hsession : ((progress.session.receive chunk.bytes).recordActivity now).consume
        (frameParse ((progress.session.receive chunk.bytes).recordActivity
          now).connection.inputBuffer).consumed = session
      have hnow : session.lastActivity = now := by rw [← hsession]; rfl
      have hpinged : session.pingSentAt = progress.session.pingSentAt := by rw [← hsession]; rfl
      have hwaiting : session.waitingForPong = progress.session.waitingForPong := by
        rw [← hsession]
        rfl
      have heard : ∀ {time : SteadyTime}, time ∈ [now, pongAt] →
          ∃ recv ∈ Recv.data chunk now pongAt :: recvs, time ∈ recv.readings :=
        fun htime => ⟨_, List.mem_cons_self, htime⟩
      replace hnow : session.lastActivity ∈ [now, pongAt] := hnow ▸ List.mem_cons_self
      split
      · refine ⟨[], (List.append_nil _).symm, hpinged, ?_, .inr (heard hnow)⟩
        show session.waitingForPong = true ↔ _
        rw [hwaiting]
        simp
      · obtain ⟨more, hhandled, hpinged', hheard', hwaiting'⟩ := @pulsed_handleFrames now pongAt
          { progress with session := session } hnow (frameParse ((progress.session.receive
            chunk.bytes).recordActivity now).connection.inputBuffer).frames
        simp only [hwaiting] at hwaiting'
        split
        · next progress' heq =>
          rw [heq] at hhandled hpinged' hheard' hwaiting'
          obtain ⟨rest, hrest⟩ := ih progress'
          refine ⟨more ++ rest, ?_, hrest.pinged.trans (hpinged'.trans hpinged), ?_, ?_⟩
          · rw [hrest.handled, hhandled, List.append_assoc]
          · rw [hrest.waiting, hwaiting', and_assoc, ← not_or, ← hasPong_append]
          · rcases hrest.heard with ⟨-, hsame⟩ | ⟨recv, hrecv, hreading⟩
            · exact .inr (heard (hsame ▸ hheard'))
            · exact .inr ⟨recv, List.mem_cons_of_mem _ hrecv, hreading⟩
        · next progress' heq =>
          rw [heq] at hhandled hpinged' hheard' hwaiting'
          exact ⟨more, hhandled, hpinged'.trans hpinged, hwaiting', .inr (heard hheard')⟩

/-- **What a readable event does to the pulse.** -/
theorem pulsed_handleReadable (session : WebSocketSession) (recvs : List Recv) :
    (Progress.start session).Pulsed recvs (handleReadable session recvs)
      (handleReadable session recvs).handled := by
  obtain ⟨more, hpulsed⟩ := pulsed_readLoop (.start session) recvs
  have hmore : (handleReadable session recvs).handled = more := hpulsed.handled
  rw [hmore]
  exact hpulsed

/-! ### Steady sessions -/

/-- **The sessions that are left are as they were**, to the heartbeat; one that has got a deadline has
one of these. -/
def Steady (limits : Fd → SteadyTime → Prop) (w w' : WebsocketWorker) : Prop :=
  ∀ fd session', w'.sessions fd = some session' → ∃ session, w.sessions fd = some session ∧
    session'.identity = session.identity ∧ session'.pulse = session.pulse ∧
    (w'.deadlines fd = w.deadlines fd ∨
      w.deadlines fd = none ∧ ∃ deadline, w'.deadlines fd = some deadline ∧ limits fd deadline)

namespace Steady

variable {limits : Fd → SteadyTime → Prop}

theorem of_eq (hsessions : w'.sessions = w.sessions) (hdeadlines : w'.deadlines = w.deadlines) :
    Steady limits w w' := by
  intro fd session' hsession'
  rw [hsessions] at hsession'
  exact ⟨session', hsession', rfl, rfl, .inl (by rw [hdeadlines])⟩

theorem refl (w : WebsocketWorker) : Steady limits w w := of_eq rfl rfl

theorem trans (h : Steady limits w w') (h' : Steady limits w' w'') : Steady limits w w'' := by
  intro fd session'' hsession''
  obtain ⟨session', hsession', hid', hpulse', hdeadline'⟩ := h' fd session'' hsession''
  obtain ⟨session, hsession, hid, hpulse, hdeadline⟩ := h fd session' hsession'
  refine ⟨session, hsession, hid'.trans hid, hpulse'.trans hpulse, ?_⟩
  rcases hdeadline' with hsame' | ⟨hnone', hlimit'⟩
  · rw [hsame']
    exact hdeadline
  · rcases hdeadline with hsame | ⟨-, deadline, hlimited, -⟩
    · exact .inr ⟨hsame.symm.trans hnone', hlimit'⟩
    · rw [hlimited] at hnone'
      cases hnone'

/-- One session is in another state. -/
theorem update {session : WebSocketSession} (hsession : w.sessions fd = some session)
    {session' : WebSocketSession} (hid : session'.identity = session.identity)
    (hpulse : session'.pulse = session.pulse)
    (hsessions : w'.sessions = update w.sessions fd (some session'))
    (hdeadlines : w'.deadlines = w.deadlines) : Steady limits w w' := by
  intro other session'' hsession''
  rw [hsessions] at hsession''
  by_cases hother : other = fd
  · subst hother
    rw [update_self] at hsession''
    obtain rfl := Option.some.inj hsession''
    exact ⟨session, hsession, hid, hpulse, .inl (by rw [hdeadlines])⟩
  · rw [update_of_ne hother] at hsession''
    exact ⟨session'', hsession'', rfl, rfl, .inl (by rw [hdeadlines])⟩

theorem remove (w : WebsocketWorker) (fd : Fd) (cause : Cause) :
    Steady limits w (w.removeSession fd cause) := by
  intro other session' hsession'
  rw [WebsocketWorker.sessions_removeSession] at hsession'
  by_cases hother : other = fd
  · rw [hother, update_self] at hsession'
    cases hsession'
  · rw [update_of_ne hother] at hsession'
    refine ⟨session', hsession', rfl, rfl, .inl ?_⟩
    rw [WebsocketWorker.deadlines_removeSession, update_of_ne hother]

theorem setWriteInterest (w : WebsocketWorker) (fd : Fd) (enabled modOk : Bool) :
    Steady limits w (w.setWriteInterest fd enabled modOk) := by
  rcases w.setWriteInterest_cases fd enabled modOk with ⟨interest, h⟩ | ⟨-, -, h⟩
  · rw [h]
    exact of_eq rfl rfl
  · rw [h]
    exact remove w fd _

theorem foldl {ι : Type} {f : WebsocketWorker → ι → WebsocketWorker} {items : List ι}
    (hf : ∀ i ∈ items, ∀ w, Steady limits w (f w i)) (w : WebsocketWorker) :
    Steady limits w (items.foldl f w) := by
  induction items generalizing w with
  | nil => exact refl w
  | cons i items ih =>
    refine (hf i List.mem_cons_self w).trans (ih (fun j hj => ?_) (f w i))
    exact hf j (List.mem_cons_of_mem i hj)

end Steady

variable {limits : Fd → SteadyTime → Prop}

theorem steady_handleWritable (w : WebsocketWorker) (fd : Fd) (io : WritableInputs) :
    Steady limits w (w.handleWritable fd io) := by
  rw [WebsocketWorker.handleWritable]
  split
  · exact .refl w
  · next session hsession =>
    split
    · next connection bytes _ =>
      have hsent : Steady limits w ((w.setSession fd
          { session with connection := connection }).record [.sent session.id bytes]) := by
        have hid : { session with connection := connection }.identity = session.identity := rfl
        exact .update hsession hid rfl rfl rfl
      simp only
      split
      · exact hsent
      · split
        · exact hsent.trans (.remove _ fd _)
        · exact hsent.trans (.setWriteInterest _ fd false io.modOk)
    · exact .refl w
    · exact .remove w fd _

theorem steady_takeVerdict (w : WebsocketWorker) (fd : Fd) (session : WebSocketSession)
    (result : WebSocketHandleResult) : Steady limits w (w.takeVerdict fd session result) := by
  rw [WebsocketWorker.takeVerdict]
  split
  · exact .refl w
  · exact .refl w
  · split
    · exact .of_eq rfl rfl
    · exact .remove w fd _
  · exact .remove w fd _
  · exact .remove w fd _

theorem steady_finishEvent (w : WebsocketWorker) (fd : Fd) (flags : WebsocketWorker.Flags)
    (output : WritableInputs) : Steady limits w (w.finishEvent fd flags output) := by
  rw [WebsocketWorker.finishEvent]
  split
  · exact .refl w
  · have hwritable : Steady limits w
        (if flags.writable = true then w.handleWritable fd output else w) := by
      split
      · exact steady_handleWritable w fd output
      · exact .refl w
    generalize (if flags.writable = true then w.handleWritable fd output else w) = w₁
      at hwritable ⊢
    simp only
    split
    · exact hwritable
    · split
      · exact hwritable.trans (.remove w₁ fd _)
      · exact hwritable

theorem steady_deliver {session : WebSocketSession} (hsession : w.sessions fd = some session)
    (who : Writer) (message : Json) (modOk : Bool) :
    Steady limits w (w.deliver writer fd session who message modOk) := by
  rw [WebsocketWorker.deliver]
  split
  · exact .refl w
  · next text _ =>
    have hid : (session.write (textFrame text)).identity = session.identity := rfl
    have happend : Steady limits w (w.append fd session who (textFrame text)) :=
      .update hsession hid rfl rfl rfl
    exact happend.trans (.setWriteInterest _ fd true modOk)

theorem steady_runReply (w : WebsocketWorker) (request : Request) (response : Json)
    (modOk : Bool) : Steady limits w (w.runReply writer request response modOk) := by
  rw [WebsocketWorker.runReply]
  split
  · exact .refl w
  · split
    · split
      · exact .refl w
      · exact .of_eq rfl rfl
    · split
      · exact .refl w
      · next session hsession =>
        split
        · exact .refl w
        · exact steady_deliver hsession _ response modOk

theorem steady_runPush (w : WebsocketWorker) (task : PushTask) (modOk : Bool) :
    Steady limits w (w.runPush writer task modOk) := by
  rw [WebsocketWorker.runPush]
  split
  · exact .refl w
  · next session hsession =>
    split
    · exact .refl w
    · split
      · exact .refl w
      · exact steady_deliver hsession _ task.message modOk

theorem steady_runClose (w : WebsocketWorker) (fd : Fd) (sessionId : ℕ) (deviceId : Uuid) :
    Steady limits w (w.runClose fd sessionId deviceId) := by
  rw [WebsocketWorker.runClose]
  split
  · exact .refl w
  · split
    · exact .refl w
    · split
      · exact .refl w
      · exact .remove w fd _

/-- **A target of a revocation** gets a deadline, if it has none. -/
theorem steady_revoke (io : Fd → RevocationInputs) (w : WebsocketWorker)
    (hlimits : limits fd ((io fd).now + revokeTimeout)) : Steady limits w (w.revoke io fd) := by
  rw [WebsocketWorker.revoke]
  split
  · exact .refl w
  · next session hsession =>
    split
    · exact .refl w
    · next hdeadline =>
      rw [Option.not_isSome_iff_eq_none] at hdeadline
      have hlimit : Steady limits w (w.setDeadline fd ((io fd).now + revokeTimeout)) := by
        intro other session' hsession'
        refine ⟨session', hsession', rfl, rfl, ?_⟩
        by_cases hother : other = fd
        · subst hother
          exact .inr ⟨hdeadline, _, update_self .., hlimits⟩
        · exact .inl (update_of_ne hother _ _)
      have hrest (w₁ : WebsocketWorker) (h : Steady limits w w₁) (sends : WritableInputs) :
          Steady limits w ((w₁.setWriteInterest fd true (io fd).modOk).handleWritable fd sends) :=
        (h.trans (.setWriteInterest w₁ fd true (io fd).modOk)).trans
          (steady_handleWritable _ fd sends)
      simp only
      split
      · exact hrest _ hlimit _
      · refine hrest _ (hlimit.trans ?_) _
        generalize hw₁ : w.setDeadline fd ((io fd).now + revokeTimeout) = w₁
        have hsession₁ : w₁.sessions fd = some session := by
          rw [← hw₁]
          exact hsession
        have hid : (session.write revokedFrame).identity = session.identity := rfl
        exact .update hsession₁ hid rfl rfl rfl

theorem steady_runRevocation (w : WebsocketWorker) (scan : ScanId) (userId deviceId : Uuid)
    (order : List Fd) (io : Fd → RevocationInputs) :
    Steady (fun fd deadline => fd ∈ order ∧ w.owned userId deviceId fd = true ∧
      deadline = (io fd).now + revokeTimeout) w
      (w.runRevocation scan userId deviceId order io) := by
  rw [WebsocketWorker.runRevocation]
  split
  · exact .of_eq rfl rfl
  · refine Steady.trans (.of_eq rfl rfl) (.foldl (fun fd hfd w₁ => ?_) _)
    obtain ⟨horder, howned⟩ := List.mem_filter.1 hfd
    exact steady_revoke io w₁ ⟨horder, howned, rfl⟩

/-! ### Beats -/

/-- The time of a tick. -/
def WorkerInput.tick : WorkerInput → Option SteadyTime
  | timer now _ _ => some now
  | _ => none

/-- **The session of a file descriptor is read from**, so that its frames are handled. -/
def WebsocketWorker.Reads (w : WebsocketWorker) (fd : Fd) (session : WebSocketSession)
    (recvs : List Recv) : WorkerInput → Prop
  | .socket fd' flags io _ => fd' = fd ∧ (flags.err || flags.hup) = false ∧
      flags.readable = true ∧ w.deadlines fd = none ∧ w.sessions fd = some session ∧
      io.recvs = recvs
  | _ => False

/-- **A Pong of a session is handled.** -/
def WebsocketWorker.HandlesPong (w : WebsocketWorker) (fd : Fd) (input : WorkerInput) : Prop :=
  ∃ session recvs, w.Reads fd session recvs input ∧
    HasPong (ChatBackend.handleReadable session recvs).handled

/-- **A session gets a deadline** from a scan of its device. -/
def WebsocketWorker.Limits (w : WebsocketWorker) (fd : Fd) (deadline : SteadyTime) :
    WorkerInput → Prop
  | .revocation _ userId deviceId order io => fd ∈ order ∧ w.owned userId deviceId fd = true ∧
      deadline = (io fd).now + revokeTimeout
  | _ => False

/-- **What a step does to the pulse of a session**, if the session is there when it is over. -/
inductive Beat (w : WebsocketWorker) (fd : Fd) (session' : WebSocketSession)
    (deadline' : Option SteadyTime) : WorkerInput → Prop where
  | registered {inputBuffer : Bytes} {now : SteadyTime}
      (hpulse : session'.pulse = ⟨now, 0, false⟩) (hdeadline : deadline' = w.deadlines fd)
      (hfree : w.sessions fd = none) :
      Beat w fd session' deadline' (.register fd session'.identity inputBuffer now true)
  | read {input : WorkerInput} {session : WebSocketSession} {recvs : List Recv}
      (hreads : w.Reads fd session recvs input) (hid : session'.identity = session.identity)
      (hpulse : session'.pulse = (handleReadable session recvs).session.pulse)
      (hdeadline : deadline' = none) : Beat w fd session' deadline' input
  | pinged {now : SteadyTime} {order : List Fd} {modOk : Fd → Bool} {session : WebSocketSession}
      (hsession : w.sessions fd = some session) (hid : session'.identity = session.identity)
      (hverdict : w.timerVerdict now fd = some .ping)
      (hpulse : session'.pulse = session.pulse.ask now) (hdeadline : deadline' = w.deadlines fd) :
      Beat w fd session' deadline' (.timer now order modOk)
  | kept {input : WorkerInput} {session : WebSocketSession}
      (hsession : w.sessions fd = some session) (hid : session'.identity = session.identity)
      (hpulse : session'.pulse = session.pulse)
      (htick : ∀ now ∈ input.tick, w.timerVerdict now fd = none)
      (hsilent : ¬ w.HandlesPong fd input)
      (hdeadline : deadline' = w.deadlines fd ∨ w.deadlines fd = none ∧
        ∃ deadline, deadline' = some deadline ∧ w.Limits fd deadline input) :
      Beat w fd session' deadline' input

/-- Nothing happens to the pulse of a session that is not read from. -/
theorem Beat.of_steady {input : WorkerInput}
    (h : Steady (fun fd deadline => w.Limits fd deadline input) w w') (htick : input.tick = none)
    (hsilent : ¬ w.HandlesPong fd input) {session' : WebSocketSession}
    (hsession' : w'.sessions fd = some session') : Beat w fd session' (w'.deadlines fd) input := by
  obtain ⟨session, hsession, hid, hpulse, hdeadline⟩ := h fd session' hsession'
  refine .kept hsession hid hpulse (fun now hnow => ?_) hsilent hdeadline
  rw [htick] at hnow
  cases hnow

/-- **A readable event** of the socket, whether its dispatch loop throws or not. -/
theorem beat_handleReadable {session : WebSocketSession} (hsession : w.sessions fd = some session)
    (hdeadline : w.deadlines fd = none) (io : ReadableInputs) {session' : WebSocketSession}
    (hsession' : (w.handleReadable parser fd io).1.sessions fd = some session') :
    session'.identity = session.identity ∧
      session'.pulse = (handleReadable session io.recvs).session.pulse ∧
      (w.handleReadable parser fd io).1.deadlines fd = none := by
  have hidentity := (reading_handleReadable session io.recvs).identity
  have hsteady : Steady (fun _ _ => False)
      (w.setSession fd (handleReadable session io.recvs).session)
      (w.handleReadable parser fd io).1 := by
    rw [WebsocketWorker.handleReadable, if_neg (by rw [hdeadline]; simp), hsession]
    simp only [WebsocketWorker.handleBatch]
    generalize handleReadable session io.recvs = progress
    have hread : Steady (fun _ _ => False) (w.setSession fd progress.session)
        ((w.setSession fd progress.session).record
          (answers progress.session.identity progress.handled)) := .of_eq rfl rfl
    generalize ((w.setSession fd progress.session).record
      (answers progress.session.identity progress.handled)) = w₁ at hread ⊢
    have hasked : Steady (fun _ _ => False) (w.setSession fd progress.session)
        (if progress.result.outputQueued = true then
          w₁.setWriteInterest fd true io.modOk else w₁) := by
      split
      · exact hread.trans (.setWriteInterest w₁ fd true io.modOk)
      · exact hread
    generalize (if progress.result.outputQueued = true then
      w₁.setWriteInterest fd true io.modOk else w₁) = w₂ at hasked ⊢
    split
    · exact hasked
    · have hrecord (events : List WorkerEvent) : Steady (fun _ _ => False)
          (w.setSession fd progress.session) (w₂.record events) := hasked.trans (.of_eq rfl rfl)
      split
      · exact hrecord _
      · exact (hrecord _).trans (steady_takeVerdict _ fd _ _)
  obtain ⟨session₁, hsession₁, hid, hpulse, hsame | ⟨-, _, -, hfalse⟩⟩ :=
    hsteady fd session' hsession'
  · obtain rfl := Option.some.inj ((update_self fd _ w.sessions).symm.trans hsession₁)
    exact ⟨hid.trans hidentity, hpulse, hsame.trans hdeadline⟩
  · exact hfalse.elim

/-- What comes after the reading leaves the pulses that the reading has made. -/
theorem steady_socketEvent {flags : WebsocketWorker.Flags} (hhup : (flags.err || flags.hup) = false)
    (hreadable : flags.readable = true) (io : ReadableInputs) (output : WritableInputs) :
    Steady limits (w.handleReadable parser fd io).1
      (w.socketEvent parser fd flags io output) := by
  rw [WebsocketWorker.socketEvent, if_neg (by rw [hhup]; simp), if_pos hreadable]
  generalize w.handleReadable parser fd io = outcome
  obtain ⟨w₁, threw⟩ := outcome
  cases threw with
  | true => exact .refl w₁
  | false => exact steady_finishEvent w₁ fd flags output

/-- **An event of a socket.** -/
theorem beat_socketEvent (fd' : Fd) (flags : WebsocketWorker.Flags) (io : ReadableInputs)
    (output : WritableInputs) {session' : WebSocketSession}
    (hsession' : (w.socketEvent parser fd' flags io output).sessions fd = some session') :
    Beat w fd session' ((w.socketEvent parser fd' flags io output).deadlines fd)
      (.socket fd' flags io output) := by
  by_cases hfd : fd' = fd
  · subst hfd
    by_cases hhup : (flags.err || flags.hup) = true
    · rw [WebsocketWorker.socketEvent, if_pos hhup, WebsocketWorker.sessions_removeSession,
        update_self] at hsession'
      cases hsession'
    rw [Bool.not_eq_true] at hhup
    by_cases hreadable : flags.readable = true
    · obtain ⟨session₁, hsession₁, hid₁, hpulse₁, hdeadline₁ | ⟨-, _, -, hfalse⟩⟩ :=
        @steady_socketEvent parser w fd' (fun _ _ => False) flags hhup hreadable io output fd'
          session' hsession'
      · rw [hdeadline₁]
        rcases hdeadline : w.deadlines fd' with _ | deadline
        · rcases hsession : w.sessions fd' with _ | session
          · rw [WebsocketWorker.handleReadable, if_neg (by rw [hdeadline]; simp), hsession]
              at hsession₁
            rw [hsession] at hsession₁
            cases hsession₁
          · obtain ⟨hid, hpulse, hnone⟩ := beat_handleReadable hsession hdeadline io hsession₁
            rw [hnone]
            exact .read ⟨rfl, hhup, hreadable, hdeadline, hsession, rfl⟩ (hid₁.trans hid)
              (hpulse₁.trans hpulse) rfl
        · -- A session with a deadline is not read from.
          rw [WebsocketWorker.handleReadable, if_pos (by rw [hdeadline]; rfl)] at hsession₁ ⊢
          refine .kept hsession₁ hid₁ hpulse₁ (fun now hnow => by cases hnow) ?_ (.inl rfl)
          rintro ⟨session, recvs, ⟨-, -, -, hnone, -⟩, -⟩
          rw [hdeadline] at hnone
          cases hnone
      · exact hfalse.elim
    · rw [WebsocketWorker.socketEvent, if_neg (by rw [hhup]; simp), if_neg hreadable]
        at hsession' ⊢
      refine .of_steady (steady_finishEvent w fd' flags output) rfl ?_ hsession'
      rintro ⟨session, recvs, ⟨-, -, hread, -⟩, -⟩
      exact hreadable hread
  · obtain ⟨hsessions, hdeadlines, -⟩ :=
      (arms_socketEvent parser w fd' flags io output).frame fd (Ne.symm hfd)
    rw [hsessions] at hsession'
    refine .kept hsession' rfl rfl (fun now hnow => by cases hnow) ?_ (.inl hdeadlines)
    rintro ⟨session, recvs, ⟨hsame, -⟩, -⟩
    exact hfd hsame

/-! ### The timer -/

theorem sessions_foldl_sendPing {fds : List Fd} (hnodup : fds.Nodup) (now : SteadyTime)
    (w : WebsocketWorker) (fd : Fd) :
    (fds.foldl (WebsocketWorker.sendPing now) w).sessions fd =
      if fd ∈ fds then
        (w.sessions fd).map fun session => (session.write pingFrame).markPingSent now
      else w.sessions fd := by
  induction fds generalizing w with
  | nil => rfl
  | cons first fds ih =>
    rw [List.nodup_cons] at hnodup
    have hfirst : (w.sendPing now first).sessions first =
        (w.sessions first).map fun session => (session.write pingFrame).markPingSent now := by
      rw [WebsocketWorker.sendPing]
      split
      · next hnone => rw [hnone, Option.map_none]
      · next session hsession =>
        rw [hsession, Option.map_some]
        exact update_self ..
    rw [List.foldl_cons, ih hnodup.2]
    by_cases hfd : fd = first
    · subst hfd
      rw [if_neg hnodup.1, if_pos List.mem_cons_self, hfirst]
    · rw [((touches_sendPing now w first).frame fd hfd).1]
      simp only [List.mem_cons, hfd, false_or]

theorem deadlines_foldl_sendPing (now : SteadyTime) (fds : List Fd) (w : WebsocketWorker) :
    (fds.foldl (WebsocketWorker.sendPing now) w).deadlines = w.deadlines := by
  induction fds generalizing w with
  | nil => rfl
  | cons first fds ih =>
    have hfirst : (w.sendPing now first).deadlines = w.deadlines := by
      rw [WebsocketWorker.sendPing]
      split <;> rfl
    rw [List.foldl_cons, ih, hfirst]

theorem sessions_foldl_expire (expired : List (Fd × Cause)) (w : WebsocketWorker) (fd : Fd) :
    (expired.foldl WebsocketWorker.expire w).sessions fd =
      if fd ∈ expired.map Prod.fst then none else w.sessions fd := by
  induction expired generalizing w with
  | nil => rfl
  | cons first expired ih =>
    rw [List.foldl_cons, ih, WebsocketWorker.expire, WebsocketWorker.sessions_removeSession,
      List.map_cons]
    by_cases hfd : fd = first.1
    · simp [hfd]
    · rw [update_of_ne hfd]
      simp only [List.mem_cons, hfd, false_or]

/-- **The timer**, up to the last of its loops: those whose time is over are removed, and those that
have been silent have got a Ping. -/
theorem sessions_handleTimer {order : List Fd} (horder : w.Enumerates order) (now : SteadyTime)
    (fd : Fd) :
    ((w.expiredFds now order).foldl WebsocketWorker.expire
      ((w.writableFds now order).foldl (WebsocketWorker.sendPing now) w)).sessions fd =
      match w.timerVerdict now fd with
      | none => w.sessions fd
      | some .ping =>
        (w.sessions fd).map fun session => (session.write pingFrame).markPingSent now
      | some (.expired _) => none := by
  have hnodup : (w.writableFds now order).Nodup := horder.1.filter _
  rw [sessions_foldl_expire, sessions_foldl_sendPing hnodup]
  have hexpired : fd ∈ (w.expiredFds now order).map Prod.fst ↔
      ∃ cause, fd ∈ order ∧ w.timerVerdict now fd = some (.expired cause) := by
    rw [List.mem_map]
    constructor
    · rintro ⟨⟨_, cause⟩, hmem, rfl⟩
      exact ⟨cause, mem_expiredFds.1 hmem⟩
    · rintro ⟨cause, hverdict⟩
      exact ⟨(fd, cause), mem_expiredFds.2 hverdict, rfl⟩
  have hpresent : w.timerVerdict now fd ≠ none → fd ∈ order := by
    intro hsome
    rw [horder.2, Option.isSome_iff_ne_none]
    intro hnone
    rw [WebsocketWorker.timerVerdict, hnone] at hsome
    exact hsome rfl
  rcases hverdict : w.timerVerdict now fd with _ | cause | _
  · rw [if_neg (mt hexpired.1 (by simp [hverdict])),
      if_neg (mt mem_writableFds.1 (by simp [hverdict]))]
  · rw [if_pos (hexpired.2 ⟨cause, hpresent (by simp [hverdict]), hverdict⟩)]
  · rw [if_neg (mt hexpired.1 (by simp [hverdict])),
      if_pos (mem_writableFds.2 ⟨hpresent (by simp [hverdict]), hverdict⟩)]

/-- **A tick.** -/
theorem beat_handleTimer {order : List Fd} (horder : w.Enumerates order) (now : SteadyTime)
    (modOk : Fd → Bool) {session' : WebSocketSession}
    (hsession' : (w.handleTimer now order modOk).sessions fd = some session') :
    Beat w fd session' ((w.handleTimer now order modOk).deadlines fd) (.timer now order modOk) := by
  have hsilent : ¬ w.HandlesPong fd (.timer now order modOk) := by
    rintro ⟨_, _, hreads, -⟩
    exact hreads.elim
  rw [WebsocketWorker.handleTimer] at hsession' ⊢
  have hexpire (w₁ : WebsocketWorker) : Steady (fun _ _ => False) w₁
      ((w.expiredFds now order).foldl WebsocketWorker.expire w₁) :=
    .foldl (fun expired _ w₂ => .remove w₂ expired.1 expired.2) w₁
  have hask (w₁ : WebsocketWorker) : Steady (fun _ _ => False) w₁
      ((w.writableFds now order).foldl (fun w fd => w.setWriteInterest fd true (modOk fd)) w₁) :=
    .foldl (fun fd _ w₂ => .setWriteInterest w₂ fd true (modOk fd)) w₁
  have hsessions := sessions_handleTimer horder now fd
  have hdeadline₁ := congrFun (deadlines_foldl_sendPing now (w.writableFds now order) w) fd
  generalize (w.writableFds now order).foldl (WebsocketWorker.sendPing now) w = w₁
    at hsession' hsessions hdeadline₁ ⊢
  have hexpire₁ := hexpire w₁
  generalize (w.expiredFds now order).foldl WebsocketWorker.expire w₁ = w₂
    at hsession' hsessions hexpire₁ ⊢
  obtain ⟨session₂, hsession₂, hid₂, hpulse₂, hsame₂ | ⟨-, _, -, hfalse⟩⟩ :=
    hask w₂ fd session' hsession'
  · obtain ⟨-, -, -, -, hsame₁ | ⟨-, _, -, hfalse⟩⟩ := hexpire₁ fd session₂ hsession₂
    · have hdeadline := hsame₂.trans (hsame₁.trans hdeadline₁)
      rw [hsession₂] at hsessions
      rcases hverdict : w.timerVerdict now fd with _ | _ | _
      · rw [hverdict] at hsessions
        refine .kept hsessions.symm hid₂ hpulse₂ (fun time htime => ?_) hsilent (.inl hdeadline)
        obtain rfl := Option.some.inj htime
        exact hverdict
      · rw [hverdict] at hsessions
        cases hsessions
      · rw [hverdict] at hsessions
        obtain ⟨session, hsession, rfl⟩ := Option.map_eq_some_iff.1 hsessions.symm
        exact .pinged hsession hid₂ hverdict hpulse₂ hdeadline
    · exact hfalse.elim
  · exact hfalse.elim

/-- **A registration.** -/
theorem beat_register (fd' : Fd) (who : Identity) (inputBuffer : Bytes) (now : SteadyTime)
    (addOk : Bool) {session' : WebSocketSession}
    (hsession' : (w.register fd' who inputBuffer now addOk).sessions fd = some session') :
    Beat w fd session' ((w.register fd' who inputBuffer now addOk).deadlines fd)
      (.register fd' who inputBuffer now addOk) := by
  have hsilent : ¬ w.HandlesPong fd (.register fd' who inputBuffer now addOk) := by
    rintro ⟨_, _, hreads, -⟩
    exact hreads.elim
  have hkept (h : w.register fd' who inputBuffer now addOk = w) :
      Beat w fd session' ((w.register fd' who inputBuffer now addOk).deadlines fd)
        (.register fd' who inputBuffer now addOk) := by
    rw [h] at hsession' ⊢
    exact .of_steady (.refl w) rfl hsilent hsession'
  by_cases hbusy : (w.sessions fd').isSome = true
  · exact hkept (by rw [WebsocketWorker.register, if_pos hbusy])
  by_cases hadd : addOk = false
  · exact hkept (by rw [WebsocketWorker.register, if_neg hbusy, if_pos hadd])
  rw [Bool.not_eq_false] at hadd
  subst hadd
  rw [WebsocketWorker.register, if_neg hbusy, if_neg (by simp)] at hsession' ⊢
  change update w.sessions fd' _ fd = some session' at hsession'
  show Beat w fd session' (w.deadlines fd) _
  by_cases hfd : fd = fd'
  · subst hfd
    rw [update_self] at hsession'
    obtain rfl := Option.some.inj hsession'
    exact .registered rfl rfl (Option.not_isSome_iff_eq_none.1 hbusy)
  · rw [update_of_ne hfd] at hsession'
    exact .kept hsession' rfl rfl (fun now hnow => by cases hnow) hsilent (.inl rfl)

/-- **What every step does to the pulses.** -/
theorem beat_step {input : WorkerInput} (hadmits : w.Admits input) {session' : WebSocketSession}
    (hsession' : (w.step parser writer input).sessions fd = some session') :
    Beat w fd session' ((w.step parser writer input).deadlines fd) input := by
  cases input with
  | register fd' who inputBuffer now addOk => exact beat_register fd' who inputBuffer now addOk hsession'
  | socket fd' flags io output => exact beat_socketEvent fd' flags io output hsession'
  | timer now order modOk => exact beat_handleTimer hadmits now modOk hsession'
  | reply request response modOk =>
    refine .of_steady (steady_runReply w request response modOk) rfl ?_ hsession'
    exact fun ⟨_, _, hreads, _⟩ => hreads.elim
  | push task modOk =>
    refine .of_steady (steady_runPush w task modOk) rfl ?_ hsession'
    exact fun ⟨_, _, hreads, _⟩ => hreads.elim
  | close fd' sessionId deviceId =>
    refine .of_steady (steady_runClose w fd' sessionId deviceId) rfl ?_ hsession'
    exact fun ⟨_, _, hreads, _⟩ => hreads.elim
  | revocation scan userId deviceId order io =>
    have hsteady : Steady (fun fd deadline => w.Limits fd deadline
        (.revocation scan userId deviceId order io)) w
        (w.runRevocation scan userId deviceId order io) :=
      steady_runRevocation w scan userId deviceId order io
    refine .of_steady hsteady rfl ?_ hsession'
    exact fun ⟨_, _, hreads, _⟩ => hreads.elim

end ChatBackend
