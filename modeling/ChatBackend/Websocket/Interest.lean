import ChatBackend.Websocket.Output

/-!
# What epoll watches for

A frame that is appended to an output buffer is sent when epoll reports that its socket is writable,
and epoll does so only where it is asked for `EPOLLOUT`. Whoever appends asks for it, and the worker
stops asking when it has sent all there is. A session that a revocation has set a deadline for is not
to be read from any more, so epoll is not asked for `EPOLLIN` there, whoever asks for `EPOLLOUT`.

Between appending and asking a session is not armed, but no step of the worker ends there: `epoll_ctl`
succeeds, or the session is removed.

## Main definitions

* `WebsocketWorker.Armed` — what epoll watches for suits the session of a file descriptor
* `Touches`, `Arms` — one session is touched, and is armed in the end if it was before
* `WebsocketWorker.Flows`

## Main results

* `armed_of_reaches` — every session is armed between two steps
* `output_flows`
-/

namespace ChatBackend

open Function (update)
open WebsocketWorker (ReadableInputs WritableInputs RevocationInputs answers)

variable {parser : JsonParser} {writer : JsonWriter} {w w' w'' : WebsocketWorker} {fd : Fd}

/-! ### Touching one session -/

/-- **What epoll watches for suits the session**: writability as long as there is output, and no
readability once there is a deadline. -/
def WebsocketWorker.Armed (w : WebsocketWorker) (fd : Fd) : Prop :=
  ∀ session, w.sessions fd = some session → ∃ interest, w.interest fd = some interest ∧
    (session.connection.outputBuffer ≠ [] → interest.writable = true) ∧
    ((w.deadlines fd).isSome → interest.readable = false)

/-- **Nothing but one session is touched**: no session appears, and a deadline stays what it is
until the session is gone. -/
structure Touches (fd : Fd) (w w' : WebsocketWorker) : Prop where
  frame : ∀ other, other ≠ fd → w'.sessions other = w.sessions other ∧
    w'.deadlines other = w.deadlines other ∧ w'.interest other = w.interest other
  absent : w.sessions fd = none → w'.sessions fd = none
  deadline : ∀ deadline, w.deadlines fd = some deadline →
    w'.deadlines fd = some deadline ∨ w'.sessions fd = none

/-- **The session is touched and armed again.** -/
structure Arms (fd : Fd) (w w' : WebsocketWorker) : Prop extends Touches fd w w' where
  armed : w.Armed fd → w'.Armed fd

theorem WebsocketWorker.armed_of_none (h : w.sessions fd = none) : w.Armed fd := by
  intro session hsession
  rw [h] at hsession
  cases hsession

theorem WebsocketWorker.armed_congr (hsessions : w'.sessions fd = w.sessions fd)
    (hdeadlines : w'.deadlines fd = w.deadlines fd) (hinterest : w'.interest fd = w.interest fd) :
    w'.Armed fd ↔ w.Armed fd := by
  rw [Armed, Armed, hsessions, hdeadlines, hinterest]

/-- Whatever has been done to a session, **it is armed once epoll is asked for what there is to
send**. -/
theorem WebsocketWorker.armed_setWriteInterest {enabled : Bool}
    (hempty : enabled = false → ∀ session, w.sessions fd = some session →
      session.connection.outputBuffer = []) (modOk : Bool) :
    (w.setWriteInterest fd enabled modOk).Armed fd := by
  rw [setWriteInterest]
  split
  · next hnone => exact armed_of_none (Option.isNone_iff_eq_none.1 hnone)
  · split
    · intro session hsession
      refine ⟨_, Function.update_self .., fun hpending => ?_, fun hdeadline => ?_⟩
      · cases enabled with
        | true => rfl
        | false => exact absurd (hempty rfl session hsession) hpending
      · simpa using hdeadline
    · exact armed_of_none (by simp)

namespace Touches

theorem refl (w : WebsocketWorker) : Touches fd w w :=
  ⟨fun _ _ => ⟨rfl, rfl, rfl⟩, id, fun _ => .inl⟩

theorem trans (h : Touches fd w w') (h' : Touches fd w' w'') : Touches fd w w'' where
  frame := by
    intro other hother
    obtain ⟨hsessions, hdeadlines, hinterest⟩ := h.frame other hother
    obtain ⟨hsessions', hdeadlines', hinterest'⟩ := h'.frame other hother
    exact ⟨hsessions'.trans hsessions, hdeadlines'.trans hdeadlines, hinterest'.trans hinterest⟩
  absent := fun hnone => h'.absent (h.absent hnone)
  deadline := by
    intro deadline hdeadline
    rcases h.deadline deadline hdeadline with hkept | hgone
    · exact h'.deadline deadline hkept
    · exact .inr (h'.absent hgone)

/-- The session is in another state, or the deadline is a first one. -/
theorem update {session : WebSocketSession} (hsession : w.sessions fd = some session)
    {session' : WebSocketSession} (hsessions : w'.sessions = update w.sessions fd (some session'))
    (hframe : ∀ other, other ≠ fd → w'.deadlines other = w.deadlines other)
    (hdeadline : ∀ deadline, w.deadlines fd = some deadline → w'.deadlines fd = some deadline)
    (hinterest : w'.interest = w.interest) : Touches fd w w' where
  frame := by
    intro other hother
    rw [hsessions, Function.update_of_ne hother, hinterest]
    exact ⟨rfl, hframe other hother, rfl⟩
  absent := by
    intro hnone
    rw [hsession] at hnone
    cases hnone
  deadline := fun deadline h => .inl (hdeadline deadline h)

theorem remove (w : WebsocketWorker) (fd : Fd) (cause : Cause) :
    Touches fd w (w.removeSession fd cause) where
  frame := by
    intro other hother
    obtain ⟨_, _, heq⟩ := w.removeSession_eq fd cause
    rw [heq]
    simp only [Function.update_of_ne hother, and_self]
  absent := fun _ => by simp
  deadline := fun _ _ => .inr (by simp)

theorem setWriteInterest (w : WebsocketWorker) (fd : Fd) (enabled modOk : Bool) :
    Touches fd w (w.setWriteInterest fd enabled modOk) := by
  rw [WebsocketWorker.setWriteInterest]
  split
  · exact refl w
  · split
    · exact ⟨fun other hother => ⟨rfl, rfl, Function.update_of_ne hother _ _⟩, id, fun _ => .inl⟩
    · exact remove w fd _

end Touches

namespace Arms

theorem refl (w : WebsocketWorker) : Arms fd w w := ⟨.refl w, id⟩

theorem trans (h : Arms fd w w') (h' : Arms fd w' w'') : Arms fd w w'' :=
  ⟨h.toTouches.trans h'.toTouches, fun harmed => h'.armed (h.armed harmed)⟩

/-- Nothing that counts is different. -/
theorem of_eq (hsessions : w'.sessions = w.sessions) (hdeadlines : w'.deadlines = w.deadlines)
    (hinterest : w'.interest = w.interest) : Arms fd w w' where
  frame := by
    intro other _
    rw [hsessions, hdeadlines, hinterest]
    exact ⟨rfl, rfl, rfl⟩
  absent := by
    rw [hsessions]
    exact id
  deadline := by
    rw [hdeadlines]
    exact fun _ => .inl
  armed := by
    rw [WebsocketWorker.Armed, WebsocketWorker.Armed, hsessions, hdeadlines, hinterest]
    exact id

theorem remove (w : WebsocketWorker) (fd : Fd) (cause : Cause) :
    Arms fd w (w.removeSession fd cause) :=
  ⟨.remove w fd cause, fun _ => WebsocketWorker.armed_of_none (by simp)⟩

/-- Epoll is asked for what there is to send. -/
theorem ask (h : Touches fd w w') {enabled : Bool}
    (hempty : enabled = false → ∀ session, w'.sessions fd = some session →
      session.connection.outputBuffer = []) (modOk : Bool) :
    Arms fd w (w'.setWriteInterest fd enabled modOk) :=
  ⟨h.trans (.setWriteInterest w' fd enabled modOk), fun _ =>
    WebsocketWorker.armed_setWriteInterest hempty modOk⟩

/-- What is said of one session holds of all. -/
theorem all (h : Arms fd w w') (harmed : ∀ fd, w.Armed fd) (other : Fd) : w'.Armed other := by
  by_cases hother : other = fd
  · rw [hother]
    exact h.armed (harmed fd)
  · obtain ⟨hsessions, hdeadlines, hinterest⟩ := h.frame other hother
    exact (WebsocketWorker.armed_congr hsessions hdeadlines hinterest).2 (harmed other)

end Arms

/-! ### The handlers -/

theorem arms_handleWritable (w : WebsocketWorker) (fd : Fd) (io : WritableInputs) :
    Arms fd w (w.handleWritable fd io) := by
  rw [WebsocketWorker.handleWritable]
  rcases hsession : w.sessions fd with _ | session
  · exact .refl w
  · simp only
    split
    · next connection bytes hflush =>
      generalize hw₁ : (w.setSession fd { session with connection := connection }).record
        [.sent session.id bytes] = w₁
      have htouches : Touches fd w w₁ := by
        rw [← hw₁]
        exact .update hsession rfl (fun _ _ => rfl) (fun _ => id) rfl
      have hsession₁ : w₁.sessions fd = some { session with connection := connection } := by
        rw [← hw₁]
        exact Function.update_self ..
      split
      · -- There is more to send, as there was before.
        next hpending =>
        refine ⟨htouches, fun harmed session' hsession' => ?_⟩
        obtain rfl := Option.some.inj (hsession₁.symm.trans hsession')
        obtain ⟨interest, hinterest, hwritable, hreadable⟩ := harmed session hsession
        have hsent := Connection.flush_sent hflush
        rw [← hw₁]
        refine ⟨interest, hinterest, fun hmore => hwritable fun hnone => hmore ?_, hreadable⟩
        rw [hnone] at hsent
        exact (List.append_eq_nil_iff.1 hsent.symm).2
      · next hpending =>
        split
        · exact ⟨htouches.trans (.remove w₁ fd _), fun _ =>
            WebsocketWorker.armed_of_none (by simp)⟩
        · refine .ask htouches (fun _ session' hsession' => ?_) io.modOk
          obtain rfl := Option.some.inj (hsession₁.symm.trans hsession')
          simpa [Connection.hasPendingOutput] using hpending
    · exact .refl w
    · exact .remove w fd _

theorem arms_takeVerdict (w : WebsocketWorker) (fd : Fd) (session : WebSocketSession)
    (result : WebSocketHandleResult) : Arms fd w (w.takeVerdict fd session result) := by
  rw [WebsocketWorker.takeVerdict]
  split
  · exact .refl w
  · exact .refl w
  · split
    · exact .of_eq rfl rfl rfl
    · exact .remove w fd _
  · exact .remove w fd _
  · exact .remove w fd _

/-- **A readable event**: a session that has been answered is armed before its messages are
dispatched, so it does not matter whether that throws. -/
theorem arms_handleReadable (parser : JsonParser) (w : WebsocketWorker) (fd : Fd)
    (io : ReadableInputs) : Arms fd w (w.handleReadable parser fd io).1 := by
  rw [WebsocketWorker.handleReadable]
  split
  · exact .refl w
  · rcases hsession : w.sessions fd with _ | session
    · exact .refl w
    · simp only [WebsocketWorker.handleBatch]
      obtain ⟨hfollows, -, -⟩ := reading_handleReadable session io.recvs
      generalize ChatBackend.handleReadable session io.recvs = progress at hfollows ⊢
      generalize hw₁ : (w.setSession fd progress.session).record
        (answers progress.session.identity progress.handled) = w₁
      have htouches : Touches fd w w₁ := by
        rw [← hw₁]
        exact .update hsession rfl (fun _ _ => rfl) (fun _ => id) rfl
      have harms : Arms fd w (if progress.result.outputQueued = true then
          w₁.setWriteInterest fd true io.modOk else w₁) := by
        split
        · exact .ask htouches (fun hfalse => by cases hfalse) io.modOk
        · -- Nothing has been written.
          next hunqueued =>
          rw [hfollows.queued, not_not] at hunqueued
          refine ⟨htouches, fun harmed session' hsession' => ?_⟩
          have hsession₁ : w₁.sessions fd = some progress.session := by
            rw [← hw₁]
            exact Function.update_self ..
          obtain rfl := Option.some.inj (hsession₁.symm.trans hsession')
          rw [hfollows.output, hunqueued, List.flatMap_nil, List.append_nil, ← hw₁]
          exact harmed session hsession
      generalize (if progress.result.outputQueued = true then
        w₁.setWriteInterest fd true io.modOk else w₁) = w₂ at harms ⊢
      split
      · exact harms
      · have hrecord (events : List WorkerEvent) : Arms fd w (w₂.record events) :=
          harms.trans (.of_eq rfl rfl rfl)
        split
        · exact hrecord _
        · exact (hrecord _).trans (arms_takeVerdict _ fd _ _)

theorem arms_finishEvent (w : WebsocketWorker) (fd : Fd) (flags : WebsocketWorker.Flags)
    (output : WritableInputs) : Arms fd w (w.finishEvent fd flags output) := by
  rw [WebsocketWorker.finishEvent]
  split
  · exact .refl w
  · have hwritable : Arms fd w
        (if flags.writable = true then w.handleWritable fd output else w) := by
      split
      · exact arms_handleWritable w fd output
      · exact .refl w
    generalize (if flags.writable = true then w.handleWritable fd output else w) = w₁
      at hwritable ⊢
    simp only
    split
    · exact hwritable
    · split
      · exact hwritable.trans (.remove w₁ fd _)
      · exact hwritable

theorem arms_socketEvent (parser : JsonParser) (w : WebsocketWorker) (fd : Fd)
    (flags : WebsocketWorker.Flags) (input : ReadableInputs) (output : WritableInputs) :
    Arms fd w (w.socketEvent parser fd flags input output) := by
  rw [WebsocketWorker.socketEvent]
  split
  · exact .remove w fd _
  · split
    · have hread := arms_handleReadable parser w fd input
      split
      · next hthrew =>
        rw [hthrew] at hread
        exact hread
      · next hthrew =>
        rw [hthrew] at hread
        exact hread.trans (arms_finishEvent _ fd flags output)
    · exact arms_finishEvent w fd flags output

theorem arms_deliver {session : WebSocketSession} (hsession : w.sessions fd = some session)
    (who : Writer) (message : Json) (modOk : Bool) :
    Arms fd w (w.deliver writer fd session who message modOk) := by
  rw [WebsocketWorker.deliver]
  split
  · exact .refl w
  · next text _ =>
    have htouches : Touches fd w (w.append fd session who (textFrame text)) :=
      .update hsession rfl (fun _ _ => rfl) (fun _ => id) rfl
    exact .ask htouches (fun hfalse => by cases hfalse) modOk

theorem arms_runReply (w : WebsocketWorker) (request : Request) (response : Json) (modOk : Bool) :
    Arms request.fd w (w.runReply writer request response modOk) := by
  rw [WebsocketWorker.runReply]
  split
  · exact .refl w
  · split
    · split
      · exact .refl w
      · exact .of_eq rfl rfl rfl
    · split
      · exact .refl w
      · next session hsession =>
        split
        · exact .refl w
        · exact arms_deliver hsession _ response modOk

theorem arms_runPush (w : WebsocketWorker) (task : PushTask) (modOk : Bool) :
    Arms task.fd w (w.runPush writer task modOk) := by
  rw [WebsocketWorker.runPush]
  split
  · exact .refl w
  · next session hsession =>
    split
    · exact .refl w
    · split
      · exact .refl w
      · exact arms_deliver hsession _ task.message modOk

theorem arms_runClose (w : WebsocketWorker) (fd : Fd) (sessionId : ℕ) (deviceId : Uuid) :
    Arms fd w (w.runClose fd sessionId deviceId) := by
  rw [WebsocketWorker.runClose]
  split
  · exact .refl w
  · split
    · exact .refl w
    · split
      · exact .refl w
      · exact .remove w fd _

/-- **A target of a revocation**: only a session without a deadline gets one. -/
theorem arms_revoke (io : Fd → RevocationInputs) (w : WebsocketWorker) (fd : Fd) :
    Arms fd w (w.revoke io fd) := by
  rw [WebsocketWorker.revoke]
  split
  · exact .refl w
  · next session hsession =>
    split
    · exact .refl w
    · next hdeadline =>
      rw [Option.not_isSome_iff_eq_none] at hdeadline
      have hlimit (w₁ : WebsocketWorker) (session' : WebSocketSession)
          (hsessions : w₁.sessions = update w.sessions fd (some session'))
          (hdeadlines : w₁.deadlines =
            update w.deadlines fd (some ((io fd).now + revokeTimeout)))
          (hinterest : w₁.interest = w.interest) : Touches fd w w₁ := by
        refine .update hsession hsessions (fun other hother => ?_) (fun deadline h => ?_) hinterest
        · rw [hdeadlines, Function.update_of_ne hother]
        · rw [hdeadline] at h
          cases h
      have hrest (w₁ : WebsocketWorker) (h : Touches fd w w₁) (sends : WritableInputs) :
          Arms fd w ((w₁.setWriteInterest fd true (io fd).modOk).handleWritable fd sends) :=
        (Arms.ask h (fun hfalse => by cases hfalse) (io fd).modOk).trans
          (arms_handleWritable _ fd sends)
      simp only
      split
      · have hsessions : w.sessions = update w.sessions fd (some session) := by
          rw [← hsession, Function.update_eq_self]
        exact hrest (w.setDeadline fd _) (hlimit _ session hsessions rfl rfl) _
      · exact hrest (((w.setDeadline fd _).markClosing fd session).append fd session _ _)
          (hlimit _ (session.write revokedFrame) rfl rfl rfl) _

/-! ### Several sessions -/

/-- **Deadlines are kept**: no session appears, and a deadline stays what it is until the session is
gone. -/
structure KeepsDeadlines (w w' : WebsocketWorker) : Prop where
  absent : ∀ fd, w.sessions fd = none → w'.sessions fd = none
  deadline : ∀ fd deadline, w.deadlines fd = some deadline →
    w'.deadlines fd = some deadline ∨ w'.sessions fd = none

theorem Touches.keepsDeadlines (h : Touches fd w w') : KeepsDeadlines w w' where
  absent := by
    intro other hnone
    by_cases hother : other = fd
    · rw [hother] at hnone ⊢
      exact h.absent hnone
    · rw [(h.frame other hother).1, hnone]
  deadline := by
    intro other deadline hdeadline
    by_cases hother : other = fd
    · rw [hother] at hdeadline ⊢
      exact h.deadline deadline hdeadline
    · exact .inl ((h.frame other hother).2.1.trans hdeadline)

namespace KeepsDeadlines

theorem of_eq (hsessions : w'.sessions = w.sessions) (hdeadlines : w'.deadlines = w.deadlines) :
    KeepsDeadlines w w' := by
  refine ⟨fun fd => ?_, fun fd deadline hdeadline => .inl ?_⟩
  · rw [hsessions]
    exact id
  · rw [hdeadlines, hdeadline]

theorem trans (h : KeepsDeadlines w w') (h' : KeepsDeadlines w' w'') : KeepsDeadlines w w'' where
  absent := fun fd hnone => h'.absent fd (h.absent fd hnone)
  deadline := by
    intro fd deadline hdeadline
    rcases h.deadline fd deadline hdeadline with hkept | hgone
    · exact h'.deadline fd deadline hkept
    · exact .inr (h'.absent fd hgone)

theorem foldl {ι : Type} {f : WebsocketWorker → ι → WebsocketWorker}
    (hf : ∀ w i, KeepsDeadlines w (f w i)) (items : List ι) (w : WebsocketWorker) :
    KeepsDeadlines w (items.foldl f w) := by
  induction items generalizing w with
  | nil => exact of_eq rfl rfl
  | cons i items ih => exact (hf w i).trans (ih (f w i))

end KeepsDeadlines

/-- Sessions that are armed one after the other. -/
theorem armed_foldl {ι : Type} {key : ι → Fd} {f : WebsocketWorker → ι → WebsocketWorker}
    (hf : ∀ w i, Arms (key i) w (f w i)) (items : List ι) (harmed : ∀ fd, w.Armed fd) (fd : Fd) :
    (items.foldl f w).Armed fd := by
  induction items generalizing w with
  | nil => exact harmed fd
  | cons i items ih => exact ih ((hf w i).all harmed)

theorem touches_sendPing (now : SteadyTime) (w : WebsocketWorker) (fd : Fd) :
    Touches fd w (w.sendPing now fd) := by
  rw [WebsocketWorker.sendPing]
  split
  · exact .refl w
  · next session hsession => exact .update hsession rfl (fun _ _ => rfl) (fun _ => id) rfl

/-- The Pings only concern the sessions that they are for. -/
theorem armed_foldl_sendPing (now : SteadyTime) (fds : List Fd) (harmed : w.Armed fd)
    (hfd : fd ∉ fds) : (fds.foldl (WebsocketWorker.sendPing now) w).Armed fd := by
  induction fds generalizing w with
  | nil => exact harmed
  | cons first fds ih =>
    rw [List.mem_cons, not_or] at hfd
    obtain ⟨hsessions, hdeadlines, hinterest⟩ := (touches_sendPing now w first).frame fd hfd.1
    exact ih ((WebsocketWorker.armed_congr hsessions hdeadlines hinterest).2 harmed) hfd.2

/-- Epoll is asked for `EPOLLOUT` at all sessions that are not armed. -/
theorem armed_foldl_ask (modOk : Fd → Bool) (fds : List Fd)
    (harmed : ∀ fd, fd ∉ fds → w.Armed fd) (fd : Fd) :
    (fds.foldl (fun w fd => w.setWriteInterest fd true (modOk fd)) w).Armed fd := by
  induction fds generalizing w with
  | nil => exact harmed fd List.not_mem_nil
  | cons first fds ih =>
    refine ih fun other hother => ?_
    by_cases hfirst : other = first
    · rw [hfirst]
      exact WebsocketWorker.armed_setWriteInterest (fun hfalse => by cases hfalse) _
    · obtain ⟨hsessions, hdeadlines, hinterest⟩ :=
        (Touches.setWriteInterest w first true (modOk first)).frame other hfirst
      refine (WebsocketWorker.armed_congr hsessions hdeadlines hinterest).2 (harmed other ?_)
      rw [List.mem_cons, not_or]
      exact ⟨hfirst, hother⟩

/-- **The timer** arms the sessions that it has sent a Ping once it has removed others. -/
theorem armed_handleTimer (now : SteadyTime) (order : List Fd) (modOk : Fd → Bool)
    (harmed : ∀ fd, w.Armed fd) (fd : Fd) : (w.handleTimer now order modOk).Armed fd := by
  rw [WebsocketWorker.handleTimer]
  refine armed_foldl_ask modOk _ (fun other hother => ?_) fd
  have hpinged := armed_foldl_sendPing now (w.writableFds now order) (harmed other) hother
  generalize (w.writableFds now order).foldl (WebsocketWorker.sendPing now) w = w₁ at hpinged
  induction w.expiredFds now order generalizing w₁ with
  | nil => exact hpinged
  | cons expired rest ih =>
    refine ih (w₁.expire expired) ?_
    by_cases hfd : other = expired.1
    · rw [hfd]
      exact WebsocketWorker.armed_of_none (by simp [WebsocketWorker.expire])
    · obtain ⟨hsessions, hdeadlines, hinterest⟩ :=
        (Touches.remove w₁ expired.1 expired.2).frame other hfd
      exact (WebsocketWorker.armed_congr hsessions hdeadlines hinterest).2 hpinged

theorem keepsDeadlines_handleTimer (w : WebsocketWorker) (now : SteadyTime) (order : List Fd)
    (modOk : Fd → Bool) : KeepsDeadlines w (w.handleTimer now order modOk) := by
  have hping := KeepsDeadlines.foldl
    (fun w fd => (touches_sendPing now w fd).keepsDeadlines) (w.writableFds now order) w
  have hexpire (w₁ : WebsocketWorker) := KeepsDeadlines.foldl
    (fun w expired => (Touches.remove w expired.1 expired.2).keepsDeadlines)
    (w.expiredFds now order) w₁
  exact (hping.trans (hexpire _)).trans (.foldl (fun w fd =>
    (Touches.setWriteInterest w fd true (modOk fd)).keepsDeadlines) _ _)

/-! ### Steps -/

/-- A new session is watched for bytes of the peer, and there is nothing to send yet. -/
theorem armed_register (htidy : w.Tidy fd) {who : Identity} {inputBuffer : Bytes} {now : SteadyTime}
    {addOk : Bool} (harmed : ∀ fd, w.Armed fd) (other : Fd) :
    (w.register fd who inputBuffer now addOk).Armed other := by
  rw [WebsocketWorker.register]
  split
  · exact harmed other
  · next hfree =>
    rw [Option.not_isSome_iff_eq_none] at hfree
    split
    · exact harmed other
    · intro session hsession
      change update w.sessions fd _ other = some session at hsession
      by_cases hother : other = fd
      · subst hother
        rw [Function.update_self] at hsession
        obtain rfl := Option.some.inj hsession
        refine ⟨⟨true, false⟩, Function.update_self .., fun hpending => absurd rfl hpending,
          fun hdeadline => ?_⟩
        change (w.deadlines other).isSome = true at hdeadline
        rw [(htidy hfree).2] at hdeadline
        cases hdeadline
      · rw [Function.update_of_ne hother] at hsession
        obtain ⟨interest, hinterest, hwatched⟩ := harmed other session hsession
        exact ⟨interest, (Function.update_of_ne hother _ _).trans hinterest, hwatched⟩

/-- **Every step leaves all sessions armed.** -/
theorem armed_step (parser : JsonParser) (writer : JsonWriter) (htidy : ∀ fd, w.Tidy fd)
    (harmed : ∀ fd, w.Armed fd) (input : WorkerInput) (fd : Fd) :
    (w.step parser writer input).Armed fd := by
  cases input with
  | register fd' who inputBuffer now addOk => exact armed_register (htidy fd') harmed fd
  | socket fd' flags input output =>
    exact (arms_socketEvent parser w fd' flags input output).all harmed fd
  | timer now order modOk => exact armed_handleTimer now order modOk harmed fd
  | reply request response modOk => exact (arms_runReply w request response modOk).all harmed fd
  | push task modOk => exact (arms_runPush w task modOk).all harmed fd
  | close fd' sessionId deviceId => exact (arms_runClose w fd' sessionId deviceId).all harmed fd
  | revocation scan userId deviceId order io =>
    rw [WebsocketWorker.step, WebsocketWorker.runRevocation]
    split
    · exact harmed fd
    · refine @armed_foldl _ _ id _ (arms_revoke io) _ ?_ fd
      exact harmed

theorem armed_of_reaches {condition : WebsocketWorker → WorkerInput → Prop}
    (hw : w.Reaches parser writer condition) (fd : Fd) : w.Armed fd := by
  induction hw generalizing fd with
  | start => exact WebsocketWorker.armed_of_none rfl
  | step hw _ _ ih => exact armed_step parser writer (refines_of_reaches_any hw).tidy ih _ fd

/-- **Output is neither lost nor stalled**: what was sent to a session and what is in its buffer is
what was written to it, in order; epoll watches for `EPOLLOUT` as long as the buffer is not empty, and
not for `EPOLLIN` once there is a deadline. -/
structure WebsocketWorker.Flows (w : WebsocketWorker) : Prop where
  sent : ∀ id, sentBytes (history id w.log) <+: writtenBytes (history id w.log)
  conserved : ∀ fd session, w.sessions fd = some session →
    sentBytes (history session.id w.log) ++ session.connection.outputBuffer =
      writtenBytes (history session.id w.log)
  pending : ∀ fd session, w.sessions fd = some session → session.connection.outputBuffer ≠ [] →
    ∃ interest, w.interest fd = some interest ∧ interest.writable = true
  revoked : ∀ fd session, w.sessions fd = some session → (w.deadlines fd).isSome →
    ∃ interest, w.interest fd = some interest ∧ interest.readable = false

/-- **Output flows** in every state between two steps, whatever `recv`, `send` and `epoll_ctl`
answer. -/
theorem output_flows (parser : JsonParser) (writer : JsonWriter) (w : WebsocketWorker)
    (hw : w.Reaches parser writer fun _ _ => True) : w.Flows := by
  have hrefines := refines_of_reaches_any hw
  refine ⟨?_, ?_, ?_, ?_⟩
  · exact hrefines.of_life (P := fun events => sentBytes events <+: writtenBytes events)
      List.nil_prefix fun hlife => hlife.conserves.2
  · intro fd session hsession
    have hlife := hrefines.present fd _ (WebsocketWorker.entry_of_session hsession)
    exact hlife.conserves.1 _ rfl
  · intro fd session hsession hpending
    obtain ⟨interest, hinterest, hwritable, -⟩ := armed_of_reaches hw fd session hsession
    exact ⟨interest, hinterest, hwritable hpending⟩
  · intro fd session hsession hdeadline
    obtain ⟨interest, hinterest, -, hreadable⟩ := armed_of_reaches hw fd session hsession
    exact ⟨interest, hinterest, hreadable hdeadline⟩

/-- The session of device 2 has sent its Close, and the reply waits for `EPOLLOUT`. -/
theorem output_flows_closing : Sample.afterClose.Flows :=
  output_flows Sample.objectParser Sample.noWriter Sample.afterClose
    (Sample.reaches_afterClose trivial trivial)

end ChatBackend
