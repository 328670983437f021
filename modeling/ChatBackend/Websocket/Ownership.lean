import ChatBackend.Websocket.Refinement

/-!
# What a worker does to its sessions

A session belongs to the user and the device that it was registered for, and keeps its id, as long as
it is there. Only the registration of a session adds one, and only the scan of a revocation leaves a
callback at a session; all that a worker does beside these two is to change sessions it has and to
remove some of them, which runs their callbacks. What it writes on behalf of others while it does so,
and what it passes on to the pool, is what the task that it runs gives it the right to.

## Main definitions

* `Keeps` — no session is another one than before
* `Licence`, `Tends`

## Main results

* `tends_step` — what a step does that is neither a registration nor a scan
* `register_cases`, `runRevocation_eq` — what these two do
-/

namespace ChatBackend

open Function (update)
open WebsocketWorker (ReadableInputs WritableInputs RevocationInputs answers)

variable {parser : JsonParser} {writer : JsonWriter} {w w' w'' : WebsocketWorker} {fd : Fd}

/-! ### The same sessions -/

/-- **No session is another one than before**: each session that there is was there before, with the
same id, user and device. -/
def Keeps (w w' : WebsocketWorker) : Prop :=
  ∀ fd session', w'.sessions fd = some session' →
    ∃ session, w.sessions fd = some session ∧ session'.identity = session.identity

/-- **The sessions are the same ones.** -/
def Same (w w' : WebsocketWorker) : Prop :=
  ∀ fd, (w'.sessions fd).map WebSocketSession.identity = (w.sessions fd).map WebSocketSession.identity

namespace Same

theorem of_eq (h : w'.sessions = w.sessions) : Same w w' := by
  intro fd
  rw [h]

/-- A session is another state of the same one. -/
theorem update {session session' : WebSocketSession} (hsession : w.sessions fd = some session)
    (hid : session'.identity = session.identity)
    (h : w'.sessions = Function.update w.sessions fd (some session')) : Same w w' := by
  intro other
  rw [h]
  by_cases hother : other = fd
  · rw [hother, Function.update_self, hsession, Option.map_some, Option.map_some, hid]
  · rw [Function.update_of_ne hother]

theorem keeps (h : Same w w') : Keeps w w' := by
  intro fd session' hsession'
  have hfd := h fd
  rw [hsession', Option.map_some] at hfd
  obtain ⟨session, hsession, hid⟩ := Option.map_eq_some_iff.1 hfd.symm
  exact ⟨session, hsession, hid.symm⟩

end Same

namespace Keeps

theorem of_eq (h : w'.sessions = w.sessions) : Keeps w w' := by
  intro fd session' hsession'
  rw [h] at hsession'
  exact ⟨session', hsession', rfl⟩

theorem trans (h : Keeps w w') (h' : Keeps w' w'') : Keeps w w'' := by
  intro fd session'' hsession''
  obtain ⟨session', hsession', hid'⟩ := h' fd session'' hsession''
  obtain ⟨session, hsession, hid⟩ := h fd session' hsession'
  exact ⟨session, hsession, hid'.trans hid⟩

theorem remove (w : WebsocketWorker) (fd : Fd) (cause : Cause) :
    Keeps w (w.removeSession fd cause) := by
  intro other session' hsession'
  rw [WebsocketWorker.sessions_removeSession] at hsession'
  by_cases hother : other = fd
  · rw [hother, Function.update_self] at hsession'
    cases hsession'
  · rw [Function.update_of_ne hother] at hsession'
    exact ⟨session', hsession', rfl⟩

end Keeps

/-! ### Tending to sessions -/

/-- What a worker may do on behalf of others: write messages, and have the pool push them. -/
structure Licence where
  writes : Writer → Prop
  pushes : Uuid → Json → Prop

namespace Licence

/-- Nothing. -/
def none : Licence := ⟨fun _ => False, fun _ _ => False⟩

/-- A reply to a request, or a push to whom the response is for. -/
def reply (request : Request) (response : Json) : Licence where
  writes := fun writer => writer = .reply request
  pushes := fun deviceId message => message = response ∧
    WebsocketWorker.recipientDeviceId response = some deviceId

/-- The push of a task. -/
def push (task : PushTask) : Licence where
  writes := fun writer => writer = .push task
  pushes := fun _ _ => False

/-- Events within the licence: no registrations, and no messages of others. -/
def event (licence : Licence) : WorkerEvent → Prop
  | .registered _ _ => False
  | .appended _ (.reply request) _ => licence.writes (.reply request)
  | .appended _ (.push task) _ => licence.writes (.push task)
  | _ => True

/-- Calls within the licence. -/
def call (licence : Licence) : PoolCall → Prop
  | .addIndex .. => False
  | .removeIndex .. => True
  | .pushToDevice deviceId message => licence.pushes deviceId message

end Licence

/-- The session that a worker has had taken out of the directory is gone. -/
def PoolCall.Done (w : WebsocketWorker) : PoolCall → Prop
  | .removeIndex _ fd sessionId => ∀ session, w.sessions fd = some session → session.id ≠ sessionId
  | _ => True

theorem PoolCall.Done.keeps {call : PoolCall} (h : call.Done w) (hkeeps : Keeps w w') :
    call.Done w' := by
  cases call with
  | removeIndex deviceId fd sessionId =>
    intro session' hsession'
    obtain ⟨session, hsession, hid⟩ := hkeeps fd session' hsession'
    have hsame : session'.id = session.id := congrArg Identity.id hid
    rw [hsame]
    exact h session hsession
  | _ => trivial

/-- **What a worker does to the sessions it has**: changes of one or another, and removals. -/
inductive Tends (licence : Licence) : WebsocketWorker → WebsocketWorker → Prop where
  | change {w w' : WebsocketWorker} (hsame : Same w w') (hcompletions : w'.completions = w.completions)
      (hremaining : w'.remaining = w.remaining) (hfulfilled : w'.fulfilled = w.fulfilled)
      (events : List WorkerEvent) (hlog : w'.log = w.log ++ events)
      (hevents : ∀ event ∈ events, licence.event event)
      (calls : List PoolCall) (hcalls : w'.calls = w.calls ++ calls)
      (hpushes : ∀ call ∈ calls, ∃ deviceId message, call = .pushToDevice deviceId message ∧
        licence.pushes deviceId message) : Tends licence w w'
  | remove (w : WebsocketWorker) (fd : Fd) (cause : Cause) : Tends licence w (w.removeSession fd cause)
  | trans {w w' w'' : WebsocketWorker} (h : Tends licence w w') (h' : Tends licence w' w'') :
      Tends licence w w''

variable {licence : Licence}

namespace Tends

/-- Nothing that counts is different. -/
theorem of_eq (hsessions : w'.sessions = w.sessions) (hcompletions : w'.completions = w.completions)
    (hremaining : w'.remaining = w.remaining) (hfulfilled : w'.fulfilled = w.fulfilled)
    (hlog : w'.log = w.log) (hcalls : w'.calls = w.calls) : Tends licence w w' :=
  .change (.of_eq hsessions) hcompletions hremaining hfulfilled []
    (hlog.trans (List.append_nil _).symm) (by simp) [] (hcalls.trans (List.append_nil _).symm) (by simp)

theorem refl (w : WebsocketWorker) : Tends licence w w := of_eq rfl rfl rfl rfl rfl rfl

/-- One session is in another state. -/
theorem update {session session' : WebSocketSession} (hsession : w.sessions fd = some session)
    (hid : session'.identity = session.identity) {events : List WorkerEvent}
    (hevents : ∀ event ∈ events, licence.event event) :
    Tends licence w ((w.setSession fd session').record events) :=
  .change (.update hsession hid rfl) rfl rfl rfl events rfl hevents [] (List.append_nil _).symm
    (by simp)

/-- Something is noted. -/
theorem record (w : WebsocketWorker) {events : List WorkerEvent}
    (hevents : ∀ event ∈ events, licence.event event) : Tends licence w (w.record events) :=
  .change (.of_eq rfl) rfl rfl rfl events rfl hevents [] (List.append_nil _).symm (by simp)

/-- Going through a list of anything. -/
theorem foldl {ι : Type} {f : WebsocketWorker → ι → WebsocketWorker}
    (hf : ∀ w i, Tends licence w (f w i)) (items : List ι) (w : WebsocketWorker) :
    Tends licence w (items.foldl f w) := by
  induction items generalizing w with
  | nil => exact refl w
  | cons i items ih => exact (hf w i).trans (ih (f w i))

theorem keeps (h : Tends licence w w') : Keeps w w' := by
  induction h with
  | change hsame => exact hsame.keeps
  | remove w fd cause => exact .remove w fd cause
  | trans _ _ ih ih' => exact ih.trans ih'

/-- What it writes. -/
theorem log (h : Tends licence w w') :
    ∃ events, w'.log = w.log ++ events ∧ ∀ event ∈ events, licence.event event := by
  induction h with
  | change _ _ _ _ events hlog hevents => exact ⟨events, hlog, hevents⟩
  | remove w fd cause =>
    refine ⟨_, w.log_removeSession fd cause, fun event hevent => ?_⟩
    obtain ⟨_, -, rfl⟩ := List.mem_map.1 hevent
    trivial
  | trans _ _ ih ih' =>
    obtain ⟨events, hlog, hevents⟩ := ih
    obtain ⟨more, hlog', hmore⟩ := ih'
    refine ⟨events ++ more, by rw [hlog', hlog, List.append_assoc], fun event hevent => ?_⟩
    exact (List.mem_append.1 hevent).elim (hevents event) (hmore event)

/-- What it asks of the pool. -/
theorem calls (h : Tends licence w w') :
    ∃ calls, w'.calls = w.calls ++ calls ∧
      ∀ call ∈ calls, licence.call call ∧ call.Done w' := by
  induction h with
  | change _ _ _ _ _ _ _ calls hcalls hpushes =>
    refine ⟨calls, hcalls, fun call hcall => ?_⟩
    obtain ⟨deviceId, message, rfl, hpermitted⟩ := hpushes call hcall
    exact ⟨hpermitted, trivial⟩
  | remove w fd cause =>
    refine ⟨_, w.calls_removeSession fd cause, fun call hcall => ?_⟩
    obtain ⟨session, -, rfl⟩ := List.mem_map.1 hcall
    refine ⟨trivial, fun session' hsession' => ?_⟩
    rw [WebsocketWorker.sessions_removeSession, Function.update_self] at hsession'
    cases hsession'
  | trans _ h' ih ih' =>
    obtain ⟨calls, hcalls, hpermitted⟩ := ih
    obtain ⟨more, hmore, hpermitted'⟩ := ih'
    refine ⟨calls ++ more, by rw [hmore, hcalls, List.append_assoc], fun call hcall => ?_⟩
    rcases List.mem_append.1 hcall with hcall | hcall
    · exact ⟨(hpermitted call hcall).1, (hpermitted call hcall).2.keeps h'.keeps⟩
    · exact hpermitted' call hcall

/-- **A session that is gone** has been taken out of the directory of the pool. -/
theorem lost (h : Tends licence w w') {session : WebSocketSession}
    (hsession : w.sessions fd = some session) :
    (∃ session', w'.sessions fd = some session' ∧ session'.identity = session.identity) ∨
      w'.sessions fd = none ∧ ∃ calls, w'.calls = w.calls ++ calls ∧
        .removeIndex session.deviceId fd session.id ∈ calls := by
  induction h generalizing session with
  | change hsame _ _ _ _ _ _ _ _ _ =>
    have hfd := hsame fd
    rw [hsession, Option.map_some] at hfd
    exact .inl (Option.map_eq_some_iff.1 hfd)
  | remove w other cause =>
    rw [WebsocketWorker.sessions_removeSession]
    by_cases hother : fd = other
    · subst hother
      refine .inr ⟨Function.update_self .., _, w.calls_removeSession fd cause, ?_⟩
      rw [hsession]
      exact List.mem_singleton.2 rfl
    · rw [Function.update_of_ne hother]
      exact .inl ⟨session, hsession, rfl⟩
  | @trans w w' w'' h h' ih ih' =>
    rcases ih hsession with ⟨session', hsession', hid⟩ | ⟨hnone, calls, hcalls, hmem⟩
    · obtain ⟨earlier, hearlier, -⟩ := h.calls
      rcases ih' hsession' with ⟨session'', hsession'', hid'⟩ | ⟨hnone, calls, hcalls, hmem⟩
      · exact .inl ⟨session'', hsession'', hid'.trans hid⟩
      · refine .inr ⟨hnone, earlier ++ calls, ?_, List.mem_append_right _ ?_⟩
        · rw [hcalls, hearlier, List.append_assoc]
        · have hdevice : session'.deviceId = session.deviceId := congrArg Identity.deviceId hid
          have hsessionId : session'.id = session.id := congrArg Identity.id hid
          rwa [hdevice, hsessionId] at hmem
    · obtain ⟨later, hlater, -⟩ := h'.calls
      refine .inr ⟨?_, calls ++ later, ?_, List.mem_append_left _ hmem⟩
      · rcases hsession'' : w''.sessions fd with _ | session''
        · rfl
        · obtain ⟨session', hsession', -⟩ := h'.keeps fd session'' hsession''
          rw [hnone] at hsession'
          cases hsession'
      · rw [hlater, hcalls, List.append_assoc]

end Tends

/-! ### The handlers -/

theorem tends_setWriteInterest (w : WebsocketWorker) (fd : Fd) (enabled modOk : Bool) :
    Tends licence w (w.setWriteInterest fd enabled modOk) := by
  rcases w.setWriteInterest_cases fd enabled modOk with ⟨interest, h⟩ | ⟨-, -, h⟩
  · rw [h]
    exact .of_eq rfl rfl rfl rfl rfl rfl
  · rw [h]
    exact .remove w fd .epollFailed

theorem tends_handleWritable (w : WebsocketWorker) (fd : Fd) (io : WritableInputs) :
    Tends licence w (w.handleWritable fd io) := by
  rw [WebsocketWorker.handleWritable]
  split
  · exact .refl w
  · next session hsession =>
    split
    · next connection bytes _ =>
      have hsent : Tends licence w ((w.setSession fd
          { session with connection := connection }).record [.sent session.id bytes]) := by
        have hid : { session with connection := connection }.identity = session.identity := rfl
        refine .update hsession hid fun event hevent => ?_
        rw [List.mem_singleton.1 hevent]
        trivial
      simp only
      split
      · exact hsent
      · split
        · exact hsent.trans (.remove _ fd .drained)
        · exact hsent.trans (tends_setWriteInterest _ fd false io.modOk)
    · exact .refl w
    · exact .remove w fd .sendFailed

theorem tends_takeVerdict (w : WebsocketWorker) (fd : Fd) (session : WebSocketSession)
    (result : WebSocketHandleResult) : Tends licence w (w.takeVerdict fd session result) := by
  rw [WebsocketWorker.takeVerdict]
  split
  · exact .refl w
  · exact .refl w
  · split
    · exact .change (.of_eq rfl) rfl rfl rfl [.closing session.id] rfl (by simp [Licence.event]) []
        (List.append_nil _).symm (by simp)
    · exact .remove w fd .peerClosed
  · exact .remove w fd .protocolError
  · exact .remove w fd .recvFailed

theorem tends_handleReadable (parser : JsonParser) (w : WebsocketWorker) (fd : Fd)
    (io : ReadableInputs) : Tends licence w (w.handleReadable parser fd io).1 := by
  rw [WebsocketWorker.handleReadable]
  split
  · exact .refl w
  · rcases hsession : w.sessions fd with _ | session
    · exact .refl w
    · simp only [WebsocketWorker.handleBatch]
      have hread : Tends licence w ((w.setSession fd
          (ChatBackend.handleReadable session io.recvs).session).record
            (answers (ChatBackend.handleReadable session io.recvs).session.identity
              (ChatBackend.handleReadable session io.recvs).handled)) := by
        refine .update hsession (reading_handleReadable session io.recvs).identity ?_
        intro event hevent
        obtain ⟨frame, -, reply, -, rfl⟩ := mem_answers.1 hevent
        by_cases hclose : frame.opcode = .close
        · rw [if_pos hclose]
          trivial
        · rw [if_neg hclose]
          trivial
      generalize ((w.setSession fd (ChatBackend.handleReadable session io.recvs).session).record
        (answers (ChatBackend.handleReadable session io.recvs).session.identity
          (ChatBackend.handleReadable session io.recvs).handled)) = w₁ at hread ⊢
      have harmed : Tends licence w (if (ChatBackend.handleReadable session io.recvs).result.outputQueued
          = true then w₁.setWriteInterest fd true io.modOk else w₁) := by
        split
        · exact hread.trans (tends_setWriteInterest w₁ fd true io.modOk)
        · exact hread
      generalize (if (ChatBackend.handleReadable session io.recvs).result.outputQueued = true then
        w₁.setWriteInterest fd true io.modOk else w₁) = w₂ at harmed ⊢
      have hdispatched (requests : List Request) :
          Tends licence w (w₂.record (requests.map .dispatched)) := by
        refine harmed.trans (.record w₂ fun event hevent => ?_)
        obtain ⟨_, -, rfl⟩ := List.mem_map.1 hevent
        trivial
      split
      · exact harmed
      · split
        · exact hdispatched _
        · exact (hdispatched _).trans (tends_takeVerdict _ fd _ _)

theorem tends_finishEvent (w : WebsocketWorker) (fd : Fd) (flags : WebsocketWorker.Flags)
    (output : WritableInputs) : Tends licence w (w.finishEvent fd flags output) := by
  rw [WebsocketWorker.finishEvent]
  split
  · exact .refl w
  · have hwritable : Tends licence w
        (if flags.writable = true then w.handleWritable fd output else w) := by
      split
      · exact tends_handleWritable w fd output
      · exact .refl w
    generalize (if flags.writable = true then w.handleWritable fd output else w) = w₁
      at hwritable ⊢
    simp only
    split
    · exact hwritable
    · split
      · exact hwritable.trans (.remove w₁ fd .halfClosed)
      · exact hwritable

theorem tends_socketEvent (parser : JsonParser) (w : WebsocketWorker) (fd : Fd)
    (flags : WebsocketWorker.Flags) (input : ReadableInputs) (output : WritableInputs) :
    Tends licence w (w.socketEvent parser fd flags input output) := by
  rw [WebsocketWorker.socketEvent]
  split
  · exact .remove w fd .hangup
  · split
    · have hread : Tends licence w (w.handleReadable parser fd input).1 :=
        tends_handleReadable parser w fd input
      split
      · next hthrew =>
        rw [hthrew] at hread
        exact hread
      · next w₁ hthrew =>
        rw [hthrew] at hread
        exact hread.trans (tends_finishEvent w₁ fd flags output)
    · exact tends_finishEvent w fd flags output

theorem tends_handleTimer (w : WebsocketWorker) (now : SteadyTime) (order : List Fd)
    (modOk : Fd → Bool) : Tends licence w (w.handleTimer now order modOk) := by
  have hping (w : WebsocketWorker) (fd : Fd) : Tends licence w (w.sendPing now fd) := by
    rw [WebsocketWorker.sendPing]
    split
    · exact .refl w
    · next session hsession =>
      have hid : ((session.write pingFrame).markPingSent now).identity = session.identity := rfl
      exact .update hsession hid (by simp [Licence.event])
  have hexpire (w : WebsocketWorker) (expired : Fd × Cause) : Tends licence w (w.expire expired) :=
    .remove w expired.1 expired.2
  have harm (w : WebsocketWorker) (fd : Fd) :
      Tends licence w (w.setWriteInterest fd true (modOk fd)) :=
    tends_setWriteInterest w fd true (modOk fd)
  exact ((Tends.foldl hping _ w).trans (Tends.foldl hexpire _ _)).trans (Tends.foldl harm _ _)

/-- A message is written by who has the right to. -/
theorem tends_deliver {session : WebSocketSession} (hsession : w.sessions fd = some session)
    {who : Writer} (hwho : licence.writes who) (message : Json) (modOk : Bool) :
    Tends licence w (w.deliver writer fd session who message modOk) := by
  rw [WebsocketWorker.deliver]
  split
  · exact .refl w
  · have happend (text : Bytes) : Tends licence w (w.append fd session who (textFrame text)) := by
      have hid : (session.write (textFrame text)).identity = session.identity := rfl
      refine .update hsession hid fun event hevent => ?_
      rw [List.mem_singleton.1 hevent]
      cases who <;> first | exact hwho | trivial
    exact (happend _).trans (tends_setWriteInterest _ fd true modOk)

theorem tends_runReply (w : WebsocketWorker) (request : Request) (response : Json) (modOk : Bool) :
    Tends (.reply request response) w (w.runReply writer request response modOk) := by
  rw [WebsocketWorker.runReply]
  split
  · exact .refl w
  · split
    · split
      · exact .refl w
      · next recipient hrecipient =>
        refine .change (.of_eq rfl) rfl rfl rfl [] (List.append_nil _).symm (by simp)
          [.pushToDevice recipient response] rfl fun call hcall => ?_
        exact ⟨recipient, response, List.mem_singleton.1 hcall, rfl, hrecipient⟩
    · split
      · exact .refl w
      · next session hsession =>
        split
        · exact .refl w
        · exact tends_deliver hsession rfl response modOk

theorem tends_runPush (w : WebsocketWorker) (task : PushTask) (modOk : Bool) :
    Tends (.push task) w (w.runPush writer task modOk) := by
  rw [WebsocketWorker.runPush]
  split
  · exact .refl w
  · next session hsession =>
    split
    · exact .refl w
    · split
      · exact .refl w
      · exact tends_deliver hsession rfl task.message modOk

theorem tends_runClose (w : WebsocketWorker) (fd : Fd) (sessionId : ℕ) (deviceId : Uuid) :
    Tends licence w (w.runClose fd sessionId deviceId) := by
  rw [WebsocketWorker.runClose]
  split
  · exact .refl w
  · split
    · exact .refl w
    · split
      · exact .refl w
      · exact .remove w fd .closeTask

theorem tends_revoke (io : Fd → RevocationInputs) (w : WebsocketWorker) (fd : Fd) :
    Tends licence w (w.revoke io fd) := by
  rw [WebsocketWorker.revoke]
  split
  · exact .refl w
  · next session hsession =>
    split
    · exact .refl w
    · have hlimit : Tends licence w (w.setDeadline fd ((io fd).now + revokeTimeout)) :=
        .of_eq rfl rfl rfl rfl rfl rfl
      have hrest (w₁ : WebsocketWorker) (h : Tends licence w w₁) (sends : WritableInputs) :
          Tends licence w ((w₁.setWriteInterest fd true (io fd).modOk).handleWritable fd sends) :=
        (h.trans (tends_setWriteInterest w₁ fd true (io fd).modOk)).trans
          (tends_handleWritable _ fd sends)
      simp only
      split
      · exact hrest _ hlimit _
      · refine hrest _ (hlimit.trans ?_) _
        have hclose : (session.write revokedFrame).identity = session.identity := rfl
        generalize hw₁ : w.setDeadline fd ((io fd).now + revokeTimeout) = w₁
        have hsession₁ : (w₁.markClosing fd session).sessions fd = some session := by
          rw [← hw₁]
          exact hsession
        have hmark : Tends licence w₁ (w₁.markClosing fd session) :=
          .change (.of_eq rfl) rfl rfl rfl [.closing session.id] rfl (by simp [Licence.event]) []
            (List.append_nil _).symm (by simp)
        exact hmark.trans (.update hsession₁ hclose (by simp [Licence.event]))

/-- What a step that is no registration and no scan does on behalf of others. -/
def licenceOf : WorkerInput → Licence
  | .reply request response _ => .reply request response
  | .push task _ => .push task
  | _ => .none

/-- **A step that is neither a registration nor a scan** only tends to sessions. -/
theorem tends_step (parser : JsonParser) (writer : JsonWriter) (w : WebsocketWorker)
    {input : WorkerInput}
    (hregister : ∀ fd who inputBuffer now addOk, input ≠ .register fd who inputBuffer now addOk)
    (hscan : ∀ scan userId deviceId order io, input ≠ .revocation scan userId deviceId order io) :
    Tends (licenceOf input) w (w.step parser writer input) := by
  cases input with
  | register fd who inputBuffer now addOk => exact absurd rfl (hregister fd who inputBuffer now addOk)
  | socket fd flags input output => exact tends_socketEvent parser w fd flags input output
  | timer now order modOk => exact tends_handleTimer w now order modOk
  | reply request response modOk => exact tends_runReply w request response modOk
  | push task modOk => exact tends_runPush w task modOk
  | close fd sessionId deviceId => exact tends_runClose w fd sessionId deviceId
  | revocation scan userId deviceId order io => exact absurd rfl (hscan scan userId deviceId order io)

/-! ### Registrations and scans -/

/-- **What a registration does**, if it does anything. -/
theorem register_cases (w : WebsocketWorker) (fd : Fd) (who : Identity) (inputBuffer : Bytes)
    (now : SteadyTime) (addOk : Bool) :
    w.register fd who inputBuffer now addOk = w ∨
      w.sessions fd = none ∧ addOk = true ∧ ∃ session : WebSocketSession,
        session.identity = who ∧
          (w.register fd who inputBuffer now addOk).sessions =
            update w.sessions fd (some session) ∧
          (w.register fd who inputBuffer now addOk).closing = w.closing ∧
          (w.register fd who inputBuffer now addOk).log = w.log ++ [.registered fd who] ∧
          (w.register fd who inputBuffer now addOk).calls =
            w.calls ++ [.addIndex who.deviceId who.userId fd who.id] := by
  rw [WebsocketWorker.register]
  split
  · exact .inl rfl
  · next hfree =>
    rw [Option.not_isSome_iff_eq_none] at hfree
    split
    · exact .inl rfl
    · next hadd =>
      rw [Bool.not_eq_false] at hadd
      exact .inr ⟨hfree, hadd, _, rfl, rfl, rfl, rfl, rfl⟩

/-- The callbacks that a scan leaves at its targets. -/
def WebsocketWorker.await (w : WebsocketWorker) (scan : ScanId) (targets : List Fd) :
    WebsocketWorker :=
  { w with
    remaining := update w.remaining scan targets.length
    completions := fun fd => if fd ∈ targets then w.completions fd ++ [scan] else w.completions fd }

/-- **What a scan does**: it leaves its callbacks, and then it tends to the sessions. -/
theorem runRevocation_eq (w : WebsocketWorker) (scan : ScanId) (userId deviceId : Uuid)
    (order : List Fd) (io : Fd → RevocationInputs) :
    (order.filter (w.owned userId deviceId) = [] ∧
      w.runRevocation scan userId deviceId order io =
        { w with fulfilled := w.fulfilled ++ [scan] }) ∨
    (order.filter (w.owned userId deviceId) ≠ [] ∧
      Tends .none (w.await scan (order.filter (w.owned userId deviceId)))
        (w.runRevocation scan userId deviceId order io)) := by
  rw [WebsocketWorker.runRevocation]
  split
  · next hnone => exact .inl ⟨hnone, rfl⟩
  · next hsome => exact .inr ⟨hsome, Tends.foldl (tends_revoke io) _ _⟩

/-- **What a step does that is no registration**: what it writes and asks of the pool is within its
licence, and a session that is gone has been taken out of the directory. -/
theorem unregistering_step (parser : JsonParser) (writer : JsonWriter) (w : WebsocketWorker)
    {input : WorkerInput}
    (h : ∀ fd who inputBuffer now addOk, input ≠ .register fd who inputBuffer now addOk) :
    (∃ events, (w.step parser writer input).log = w.log ++ events ∧
      ∀ event ∈ events, (licenceOf input).event event) ∧
    (∃ calls, (w.step parser writer input).calls = w.calls ++ calls ∧
      ∀ call ∈ calls, (licenceOf input).call call ∧
        call.Done (w.step parser writer input)) ∧
    ∀ fd session, w.sessions fd = some session →
      (∃ session', (w.step parser writer input).sessions fd = some session' ∧
        session'.identity = session.identity) ∨
      (w.step parser writer input).sessions fd = none ∧
        ∃ calls, (w.step parser writer input).calls = w.calls ++ calls ∧
          .removeIndex session.deviceId fd session.id ∈ calls := by
  by_cases hscan : ∀ scan userId deviceId order io,
      input ≠ .revocation scan userId deviceId order io
  · have htends := tends_step parser writer w h hscan
    exact ⟨htends.log, htends.calls, fun _ _ => htends.lost⟩
  · push Not at hscan
    obtain ⟨scan, userId, deviceId, order, io, rfl⟩ := hscan
    rcases runRevocation_eq w scan userId deviceId order io with ⟨-, heq⟩ | ⟨-, htends⟩
    · rw [WebsocketWorker.step, heq]
      exact ⟨⟨[], (List.append_nil _).symm, nofun⟩, ⟨[], (List.append_nil _).symm, nofun⟩,
        fun _ session hsession => .inl ⟨session, hsession, rfl⟩⟩
    · exact ⟨htends.log, htends.calls, fun _ _ => htends.lost⟩

/-- **Only a registration adds a session.** -/
theorem keeps_step {input : WorkerInput}
    (h : ∀ fd who inputBuffer now addOk, input ≠ .register fd who inputBuffer now addOk) :
    Keeps w (w.step parser writer input) := by
  by_cases hscan : ∀ scan userId deviceId order io,
      input ≠ .revocation scan userId deviceId order io
  · exact (tends_step parser writer w h hscan).keeps
  · push Not at hscan
    obtain ⟨scan, userId, deviceId, order, io, rfl⟩ := hscan
    rcases runRevocation_eq w scan userId deviceId order io with ⟨-, heq⟩ | ⟨-, htends⟩
    · rw [WebsocketWorker.step, heq]
      exact .of_eq rfl
    · exact Keeps.trans (.of_eq rfl) htends.keeps

end ChatBackend
