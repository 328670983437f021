import ChatBackend.Websocket.Business
import ChatBackend.Websocket.Pool

/-!
# Messages get to whom they are for

A reply and a push are tasks with a file descriptor and the id of a session in them, and between the
session that they are for and the run of the task there are queues, the directory of the pool, and
other connections with the same file descriptor. Every worker only writes them where the ids are
right, and never to a session that is closing.

## Main definitions

* `WorkerEvent.Concerns` — a session keeps its identity
* `Writer.Justified` — what there must have been before a message is written
* `WebSocketPool.Sound`

## Main results

* `no_cross_session_delivery`
-/

namespace ChatBackend

open Function (update update_self update_of_ne)
open WebsocketWorker (ReadableInputs answers)
open Traces (Always always_append always_of_forall always_nil)

/-! ### Identities -/

variable {parser : JsonParser} {writer : JsonWriter} {allowed : Entry → Stimulus → Prop}

/-- The event is of the session that was registered so. -/
def WorkerEvent.Concerns (fd : Fd) (who : Identity) : WorkerEvent → Prop
  | .registered fd' who' => fd' = fd ∧ who' = who
  | .appended who' _ _ => who' = who
  | .dispatched request => request.fd = fd ∧ request.who = who
  | _ => True

theorem Entry.concerns_readEvents (entry : Entry) (io : ReadableInputs) :
    ∀ event ∈ entry.readEvents parser io, event.Concerns entry.fd entry.who := by
  intro event hevent
  rcases Entry.mem_readEvents hevent with hanswer | ⟨request, hrequest, rfl⟩
  · obtain ⟨_, -, _, -, rfl⟩ := mem_answers.1 hanswer
    rfl
  · obtain ⟨frame, -, rfl⟩ := List.mem_map.1
      ((WebsocketWorker.dispatchFrames_isPrefix parser _ _ _).subset hrequest)
    exact ⟨rfl, rfl⟩

/-- What a session does is done under its identity. -/
theorem Move.concerns_who {entry : Entry} {stimulus : Stimulus} {events : List WorkerEvent}
    {result : Option Entry} (h : Move parser entry stimulus events result) :
    ∀ event ∈ events, event.Concerns entry.fd entry.who := by
  cases h with
  | unarmedReading =>
    intro event hevent
    rcases List.mem_append.1 hevent with hanswer | hremoved
    · obtain ⟨_, -, _, -, rfl⟩ := mem_answers.1 hanswer
      rfl
    · rw [List.mem_singleton.1 hremoved]
      trivial
  | threw | read => exact entry.concerns_readEvents _
  | readClosing | readRemoved =>
    intro event hevent
    rcases List.mem_append.1 hevent with hevent | hlast
    · exact entry.concerns_readEvents _ event hevent
    · rw [List.mem_singleton.1 hlast]
      trivial
  | _ => simp [WorkerEvent.Concerns]

theorem Life.concerns {events : List WorkerEvent} {result : Option Entry}
    (h : Life parser allowed events result) :
    ∃ fd who, .registered fd who ∈ events ∧ (∀ event ∈ events, event.Concerns fd who) ∧
      ∀ entry ∈ result, entry.fd = fd ∧ entry.who = who := by
  induction h with
  | registered entry =>
    refine ⟨entry.fd, entry.who, List.mem_singleton.2 rfl, ?_, ?_⟩
    · intro event hevent
      rw [List.mem_singleton.1 hevent]
      exact ⟨rfl, rfl⟩
    · rintro _ ⟨⟩
      exact ⟨rfl, rfl⟩
  | step _ _ hmove ih =>
    obtain ⟨fd, who, hregistered, hevents, hresult⟩ := ih
    obtain ⟨hfd, hwho⟩ := hresult _ rfl
    refine ⟨fd, who, List.mem_append_left _ hregistered, ?_, ?_⟩
    · intro event hevent
      rcases List.mem_append.1 hevent with hevent | hevent
      · exact hevents event hevent
      · rw [← hfd, ← hwho]
        exact hmove.concerns_who event hevent
    · intro entry' hentry'
      obtain ⟨hwho', hfd'⟩ := hmove.concerns.2 entry' hentry'
      exact ⟨hfd'.trans hfd, hwho'.trans hwho⟩

namespace Refines

variable {w : WebsocketWorker} {fd : Fd}

/-- **Whatever happens to a session** happens under the identity that it was registered with. -/
theorem registered (hw : Refines parser allowed w) {event : WorkerEvent} (hevent : event ∈ w.log) :
    ∃ fd who, .registered fd who ∈ w.log ∧ who.id = event.id ∧ event.Concerns fd who := by
  have hmem : event ∈ history event.id w.log := mem_history.2 ⟨hevent, rfl⟩
  rcases hw.past event.id with hnil | ⟨result, hlife⟩
  · rw [hnil] at hmem
    cases hmem
  · obtain ⟨fd, who, hregistered, hevents, -⟩ := hlife.concerns
    obtain ⟨hlog, hid⟩ := mem_history.1 hregistered
    exact ⟨fd, who, hlog, hid, hevents event hmem⟩

theorem concerns (hw : Refines parser allowed w) {who : Identity}
    (hregistered : .registered fd who ∈ w.log) {event : WorkerEvent} (hevent : event ∈ w.log)
    (hid : event.id = who.id) : event.Concerns fd who := by
  have hmem : event ∈ history who.id w.log := mem_history.2 ⟨hevent, hid⟩
  have hregistered' : .registered fd who ∈ history who.id w.log := mem_history.2 ⟨hregistered, rfl⟩
  rcases hw.past who.id with hnil | ⟨result, hlife⟩
  · rw [hnil] at hmem
    cases hmem
  · obtain ⟨fd', who', -, hevents, -⟩ := hlife.concerns
    obtain ⟨rfl, rfl⟩ := hevents _ hregistered'
    exact hevents event hmem

end Refines

/-! ### Messages -/

/-- A reading writes no messages. -/
theorem Entry.isMessage_readEvents {entry : Entry} {io : ReadableInputs} {event : WorkerEvent}
    (h : event ∈ entry.readEvents parser io) : event.isMessage = false := by
  rcases Entry.mem_readEvents h with hanswer | ⟨request, -, rfl⟩
  · obtain ⟨frame, -, _, -, rfl⟩ := mem_answers.1 hanswer
    by_cases hclose : frame.opcode = .close
    · rw [if_pos hclose]
      rfl
    · rw [if_neg hclose]
      rfl
  · rfl

/-- A message is written to a session that it is for. -/
theorem Move.serves {entry : Entry} {stimulus : Stimulus} {events : List WorkerEvent}
    {result : Option Entry} (h : Move parser entry stimulus events result) {who : Identity}
    {writer : Writer} {frame : Frame} (hevent : .appended who writer frame ∈ events)
    (hmessage : (WorkerEvent.appended who writer frame).isMessage = true) : writer.Serves who := by
  -- What a reading writes is no message.
  have hread {io : ReadableInputs}
      (hread : .appended who writer frame ∈ entry.readEvents parser io) : writer.Serves who := by
    rw [Entry.isMessage_readEvents hread] at hmessage
    cases hmessage
  have hlast {events : List WorkerEvent} {last : WorkerEvent}
      (hlast : ∀ who writer frame, last ≠ .appended who writer frame)
      (hmem : .appended who writer frame ∈ events ++ [last]) :
      .appended who writer frame ∈ events := by
    rcases List.mem_append.1 hmem with hmem | hmem
    · exact hmem
    · exact absurd (List.mem_singleton.1 hmem).symm (hlast who writer frame)
  cases h with
  | @unarmedReading io =>
    exact hread (List.mem_append_left _ (hlast (by simp) hevent))
  | threw | read => exact hread hevent
  | readClosing | readRemoved => exact hread (hlast (by simp) hevent)
  | message text hopen hserves =>
    obtain ⟨rfl, rfl, -⟩ := WorkerEvent.appended.inj (List.mem_singleton.1 hevent)
    exact hserves
  | ping | revoke | unarmedRevoke =>
    simp only [List.mem_cons, WorkerEvent.appended.injEq, reduceCtorEq, List.not_mem_nil, false_or,
      or_false] at hevent
    obtain ⟨-, rfl, -⟩ := hevent
    cases hmessage
  | _ => simp at hevent

theorem Life.serves {events : List WorkerEvent} {result : Option Entry}
    (h : Life parser allowed events result) {who : Identity} {writer : Writer} {frame : Frame}
    (hevent : .appended who writer frame ∈ events)
    (hmessage : (WorkerEvent.appended who writer frame).isMessage = true) : writer.Serves who := by
  induction h with
  | registered => simp at hevent
  | step _ _ hmove ih =>
    rcases List.mem_append.1 hevent with hevent | hevent
    · exact ih hevent
    · exact hmove.serves hevent hmessage

theorem Refines.serves {w : WebsocketWorker} (hw : Refines parser allowed w) {who : Identity}
    {writer : Writer} {frame : Frame} (hevent : .appended who writer frame ∈ w.log)
    (hmessage : (WorkerEvent.appended who writer frame).isMessage = true) : writer.Serves who := by
  have hmem : .appended who writer frame ∈ history who.id w.log := mem_history.2 ⟨hevent, rfl⟩
  rcases hw.past who.id with hnil | ⟨result, hlife⟩
  · rw [hnil] at hmem
    cases hmem
  · exact hlife.serves hmem hmessage

/-! ### What there has been before -/

/-- The push is one for a session of the user: to a device that the message is for, or to all devices
of the user. -/
def PushTask.Meant (task : PushTask) (userId : Uuid) : Prop :=
  match task.target with
  | .device deviceId => task.deviceId = deviceId ∧
      WebsocketWorker.recipientDeviceId task.message = some deviceId
  | .user userId' => userId = userId'

/-- **What there must have been before a message is written**: the request, or the registration of the
session that the directory had. -/
def Writer.Justified (log : List WorkerEvent) : Writer → Prop
  | .reply request => .dispatched request ∈ log
  | .push task => ∃ userId, .registered task.fd ⟨task.sessionId, userId, task.deviceId⟩ ∈ log ∧
      task.Meant userId
  | _ => True

/-- Before a task is queued. -/
def WorkerTask.Justified (log : List WorkerEvent) : WorkerTask → Prop
  | .reply request _ => (Writer.reply request).Justified log
  | .push task => (Writer.push task).Justified log
  | _ => True

/-- Before the pool is called. -/
def PoolCall.Justified (log : List WorkerEvent) : PoolCall → Prop
  | .addIndex deviceId userId fd sessionId => .registered fd ⟨sessionId, userId, deviceId⟩ ∈ log
  | .removeIndex .. => True
  | .pushToDevice deviceId message => WebsocketWorker.recipientDeviceId message = some deviceId

/-- What is written has been justified. -/
def WorkerEvent.Justified (before : List WorkerEvent) : WorkerEvent → Prop
  | .appended _ writer _ => writer.Justified before
  | _ => True

variable {log more : List WorkerEvent}

theorem Writer.Justified.append {writer : Writer} (h : writer.Justified log) :
    writer.Justified (log ++ more) := by
  cases writer with
  | reply request => exact List.mem_append_left _ h
  | push task =>
    obtain ⟨userId, hregistered, hmeant⟩ := h
    exact ⟨userId, List.mem_append_left _ hregistered, hmeant⟩
  | _ => trivial

theorem WorkerTask.Justified.append {task : WorkerTask} (h : task.Justified log) :
    task.Justified (log ++ more) := by
  cases task with
  | reply request response => exact (show (Writer.reply request).Justified log from h).append
  | push task => exact (show (Writer.push task).Justified log from h).append
  | _ => trivial

theorem PoolCall.Justified.append {call : PoolCall} (h : call.Justified log) :
    call.Justified (log ++ more) := by
  cases call with
  | addIndex => exact List.mem_append_left _ h
  | removeIndex => trivial
  | pushToDevice => exact h

/-! ### Workers -/

/-- **All that is in a worker is justified**: what it has written and asked of the pool, and the tasks
in its queue. -/
structure WorkerThread.Sound (parser : JsonParser) (writer : JsonWriter) (thread : WorkerThread) :
    Prop where
  reaches : thread.state.Reaches parser writer fun _ _ => True
  log : Always WorkerEvent.Justified thread.state.log
  calls : ∀ call ∈ thread.state.calls, call.Justified thread.state.log
  tasks : ∀ task ∈ thread.tasks, task.Justified thread.state.log

/-- A step within its licence, where what the licence permits is justified. -/
theorem WorkerThread.Sound.tend {thread : WorkerThread} (h : thread.Sound parser writer)
    {input : WorkerInput} (hadmits : thread.state.Admits input)
    (hregister : ∀ fd who inputBuffer now addOk, input ≠ .register fd who inputBuffer now addOk)
    (hwrites : ∀ writer, (licenceOf input).writes writer → writer.Justified thread.state.log)
    (hpushes : ∀ deviceId message, (licenceOf input).pushes deviceId message →
      WebsocketWorker.recipientDeviceId message = some deviceId)
    {tasks : List WorkerTask} (htasks : tasks ⊆ thread.tasks) :
    WorkerThread.Sound parser writer
        { thread with state := thread.state.step parser writer input, tasks := tasks } ∧
      ∃ events, (thread.state.step parser writer input).log = thread.state.log ++ events := by
  obtain ⟨⟨events, hlog, hevents⟩, ⟨calls, hcalls, hpermitted⟩, -⟩ :=
    unregistering_step parser writer thread.state hregister
  refine ⟨⟨h.reaches.step hadmits trivial, ?_, ?_, ?_⟩, events, hlog⟩
  · rw [hlog, always_append]
    refine ⟨h.log, always_of_forall fun event hevent before => ?_⟩
    have hlicence := hevents event hevent
    cases event with
    | appended who writer frame =>
      cases writer with
      | reply request => exact (hwrites _ hlicence).append
      | push task => exact (hwrites _ hlicence).append
      | _ => trivial
    | _ => trivial
  · intro call hcall
    rw [hcalls, List.mem_append] at hcall
    rw [hlog]
    rcases hcall with hcall | hcall
    · exact (h.calls call hcall).append
    · have hlicence := (hpermitted call hcall).1
      cases call with
      | addIndex => exact hlicence.elim
      | removeIndex => trivial
      | pushToDevice deviceId message => exact hpushes deviceId message hlicence
  · intro task htask
    rw [hlog]
    exact (h.tasks task (htasks htask)).append

theorem WorkerThread.Sound.register {thread : WorkerThread} (h : thread.Sound parser writer)
    {who : Identity} (hfresh : ∀ event ∈ thread.state.log, event.id ≠ who.id) (fd : Fd)
    (inputBuffer : Bytes) (now : SteadyTime) (addOk : Bool) :
    WorkerThread.Sound parser writer
        { thread with
          state := thread.state.step parser writer (.register fd who inputBuffer now addOk)
          accepting := none } ∧
      ∃ events, (thread.state.step parser writer (.register fd who inputBuffer now addOk)).log =
        thread.state.log ++ events := by
  have hadmits : thread.state.Admits (.register fd who inputBuffer now addOk) := hfresh
  have hreaches := h.reaches.step hadmits trivial
  rcases register_cases thread.state fd who inputBuffer now addOk with
    hsame | ⟨-, -, session, -, -, -, hlog, hcalls⟩
  · refine ⟨⟨hreaches, ?_, ?_, ?_⟩, [], ?_⟩
    · rw [WebsocketWorker.step, hsame]
      exact h.log
    · rw [WebsocketWorker.step, hsame]
      exact h.calls
    · rw [WebsocketWorker.step, hsame]
      exact h.tasks
    · rw [WebsocketWorker.step, hsame, List.append_nil]
  · refine ⟨⟨hreaches, ?_, ?_, ?_⟩, _, hlog⟩
    · rw [WebsocketWorker.step, hlog, always_append]
      refine ⟨h.log, always_of_forall fun event hevent _ => ?_⟩
      rw [List.mem_singleton.1 hevent]
      trivial
    · intro call hcall
      rw [WebsocketWorker.step, hcalls, List.mem_append] at hcall
      rw [WebsocketWorker.step, hlog]
      rcases hcall with hcall | hcall
      · exact (h.calls call hcall).append
      · rw [List.mem_singleton.1 hcall]
        exact List.mem_append_right _ (List.mem_singleton.2 rfl)
    · intro task htask
      rw [WebsocketWorker.step, hlog]
      exact (h.tasks task htask).append

/-- **What a thread does is justified.** -/
theorem WorkerThread.Sound.step {active : Uuid → Uuid → Prop} {fresh : ℕ → Prop}
    {thread thread' : WorkerThread} (h : thread.Sound parser writer)
    (hfresh : ∀ id, fresh id → ∀ event ∈ thread.state.log, event.id ≠ id)
    (hstep : thread.Step parser writer active fresh thread') :
    thread'.Sound parser writer ∧ ∃ events, thread'.state.log = thread.state.log ++ events := by
  cases hstep with
  | verify _ _ _ _ =>
    exact ⟨⟨h.reaches, h.log, h.calls, h.tasks⟩, [], (List.append_nil _).symm⟩
  | register _ hid fd inputBuffer now addOk =>
    exact h.register (hfresh _ hid) fd inputBuffer now addOk
  | abandon => exact ⟨⟨h.reaches, h.log, h.calls, h.tasks⟩, [], (List.append_nil _).symm⟩
  | socket _ fd flags input output =>
    have hadmits : thread.state.Admits (.socket fd flags input output) := trivial
    exact h.tend hadmits nofun (fun _ => False.elim) (fun _ _ => False.elim) (List.Subset.refl _)
  | timer _ now order modOk hadmits =>
    exact h.tend hadmits nofun (fun _ => False.elim) (fun _ _ => False.elim) (List.Subset.refl _)
  | @run _ task tasks htasks input hruns hadmits =>
    have htask : task.Justified thread.state.log := by
      refine h.tasks task ?_
      rw [htasks]
      exact List.mem_cons_self
    have hsubset : tasks ⊆ thread.tasks := by
      rw [htasks]
      exact List.subset_cons_self task tasks
    cases hruns with
    | reply request response modOk =>
      refine h.tend hadmits nofun ?_ (fun _ _ hpush => ?_) hsubset
      · rintro _ rfl
        exact htask
      · obtain ⟨rfl, hrecipient⟩ := hpush
        exact hrecipient
    | push task modOk =>
      refine h.tend hadmits nofun ?_ (fun _ _ => False.elim) hsubset
      rintro _ rfl
      exact htask
    | close => exact h.tend hadmits nofun (fun _ => False.elim) (fun _ _ => False.elim) hsubset
    | revocation => exact h.tend hadmits nofun (fun _ => False.elim) (fun _ _ => False.elim) hsubset
  | halt _ => exact ⟨⟨h.reaches, h.log, h.calls, h.tasks⟩, [], (List.append_nil _).symm⟩

/-! ### The pool -/

variable {n : ℕ} {pool pool' : WebSocketPool n}

/-- **All that is in the pool is justified**; each session in the directory has been registered with
its worker. -/
structure WebSocketPool.Sound (parser : JsonParser) (writer : JsonWriter) (pool : WebSocketPool n) :
    Prop where
  threads : ∀ i, (pool.workers i).Sound parser writer
  directory : ∀ deviceId connection, pool.directory deviceId = some connection →
    .registered connection.fd ⟨connection.sessionId, connection.userId, deviceId⟩ ∈
      (pool.workers connection.workerId).state.log

namespace WebSocketPool.Sound

/-- One of the threads goes on. -/
theorem setThread (h : pool.Sound parser writer) {i : Fin n} {thread : WorkerThread}
    (hthread : thread.Sound parser writer)
    (hlog : ∃ events, thread.state.log = (pool.workers i).state.log ++ events) :
    (pool.setThread i thread).Sound parser writer where
  threads j := by
    by_cases hj : j = i
    · subst hj
      rw [workers_setThread, update_self]
      exact hthread
    · rw [workers_setThread, update_of_ne hj]
      exact h.threads j
  directory deviceId connection hconnection := by
    have hregistered := h.directory deviceId connection hconnection
    by_cases hj : connection.workerId = i
    · obtain ⟨events, hlog⟩ := hlog
      rw [workers_setThread, hj, update_self, hlog]
      rw [hj] at hregistered
      exact List.mem_append_left _ hregistered
    · rw [workers_setThread, update_of_ne hj]
      exact hregistered

theorem enqueue (h : pool.Sound parser writer) {i : Fin n} {task : WorkerTask}
    (htask : task.Justified (pool.workers i).state.log) :
    (pool.enqueue i task).Sound parser writer := by
  obtain ⟨hreaches, hlog, hcalls, htasks⟩ := h.threads i
  refine h.setThread ⟨hreaches, hlog, hcalls, fun other hother => ?_⟩ ⟨[], (List.append_nil _).symm⟩
  rcases List.mem_append.1 hother with hother | hother
  · exact htasks other hother
  · rw [List.mem_singleton.1 hother]
    exact htask

/-- The directory loses entries. -/
theorem forget (h : pool.Sound parser writer) (hworkers : pool'.workers = pool.workers)
    (hdirectory : ∀ deviceId connection, pool'.directory deviceId = some connection →
      pool.directory deviceId = some connection) : pool'.Sound parser writer where
  threads := hworkers ▸ h.threads
  directory deviceId connection hconnection := by
    rw [hworkers]
    exact h.directory deviceId connection (hdirectory deviceId connection hconnection)

/-- A worker's call is executed. -/
theorem execute (h : pool.Sound parser writer) {i : Fin n} {call : PoolCall}
    (hcall : call ∈ (pool.workers i).state.calls) : (pool.execute i call).Sound parser writer := by
  have hjustified := (h.threads i).calls call hcall
  cases call with
  | addIndex deviceId userId fd sessionId =>
    rw [WebSocketPool.execute, addIndex]
    split
    · exact h
    · refine ⟨h.threads, fun other connection hconnection => ?_⟩
      by_cases hother : other = deviceId
      · subst hother
        simp only [update_self] at hconnection
        obtain rfl := Option.some.inj hconnection
        exact hjustified
      · simp only [update_of_ne hother] at hconnection
        exact h.directory other connection hconnection
  | removeIndex deviceId fd sessionId =>
    rw [WebSocketPool.execute, removeIndex]
    split
    · exact h
    · split
      · refine h.forget rfl fun other connection hconnection => ?_
        by_cases hother : other = deviceId
        · simp only [hother, update_self] at hconnection
          cases hconnection
        · simpa only [update_of_ne hother] using hconnection
      · exact h
  | pushToDevice deviceId message =>
    rw [WebSocketPool.execute, pushToDevice]
    split
    · exact h
    · split
      · exact h
      · next connection hconnection =>
        exact h.enqueue ⟨connection.userId, h.directory deviceId connection hconnection, rfl,
          hjustified⟩

end WebSocketPool.Sound

/-- The rest of a call of `closeSession` only queues scans. -/
theorem CloseCall.Step.sound {call call' : CloseCall n} (h : call.Step pool pool' call')
    (hsound : pool.Sound parser writer) : pool'.Sound parser writer := by
  have hscan (i : Fin n) (user device : Uuid) (next : ScanId) : WebSocketPool.Sound parser writer
      { pool.enqueue i (.revocation pool.nextScan user device) with nextScan := next } := by
    have hqueued : (pool.enqueue i (.revocation pool.nextScan user device)).Sound parser writer :=
      hsound.enqueue trivial
    exact hqueued.forget rfl fun _ _ => id
  cases h with
  | queue => exact hscan _ _ _ _
  | queueFailed =>
    split
    · exact hscan _ _ _ _
    · exact hsound
  | _ => exact hsound

theorem WebSocketPool.sound_start : (WebSocketPool.start n).Sound parser writer where
  threads _ := ⟨.start, always_nil, nofun, nofun⟩
  directory := nofun

/-- **Every step keeps everything justified.** -/
theorem WebSocketPool.Sound.step (h : pool.Sound parser writer)
    (hstep : pool.Step parser writer pool') : pool'.Sound parser writer := by
  cases hstep with
  | thread i hthread =>
    obtain ⟨hsound, hlog⟩ := (h.threads i).step (fun _ hfresh => hfresh i) hthread
    exact h.setThread hsound hlog
  | commit _ _ => exact h.forget rfl fun _ _ => id
  | reply i request response hdispatched => exact h.enqueue hdispatched
  | @call i poolCall hcall =>
    have hexecute := h.execute (List.mem_of_getElem? hcall)
    obtain ⟨hreaches, hlog, hcalls, htasks⟩ := hexecute.threads i
    exact hexecute.setThread ⟨hreaches, hlog, hcalls, htasks⟩ ⟨[], (List.append_nil _).symm⟩
  | pushToUser _ userId message honline huser =>
    exact h.enqueue ⟨userId, huser ▸ h.directory _ _ honline, rfl⟩
  | enqueueCloseSession i fd sessionId deviceId => exact h.enqueue trivial
  | closeSession _ _ => exact h.forget rfl fun _ _ => id
  | closeCall _ hcall => exact (hcall.sound h).forget rfl fun _ _ => id
  | close => exact h.forget rfl nofun
  | destroy _ i _ =>
    obtain ⟨hreaches, hlog, hcalls, -⟩ := h.threads i
    exact h.setThread ⟨hreaches, hlog, hcalls, nofun⟩ ⟨[], (List.append_nil _).symm⟩

theorem WebSocketPool.Reaches.sound (h : pool.Reaches parser writer) : pool.Sound parser writer := by
  induction h with
  | refl => exact sound_start
  | tail _ hstep ih => exact ih.step hstep

/-- A message that a worker has written got to whom it was for. -/
def DeliveredRight (before : List WorkerEvent) (who : Identity) : Writer → Prop
  | .reply request => .dispatched request ∈ before ∧ request.who = who
  | .push task =>
    match task.target with
    | .device deviceId =>
      WebsocketWorker.recipientDeviceId task.message = some deviceId ∧ who.deviceId = deviceId
    | .user userId => who.userId = userId
  | _ => True

/-- **No cross-session delivery**: whenever a worker appends the bytes of a reply to an output buffer,
it is that of the session that sent the request; the bytes of a push to a device, that of a session of
the device that the message is for; the bytes of a push to a user, that of a session of the user; and
none of these sessions is closing. -/
theorem no_cross_session_delivery (hpool : pool.Reaches parser writer) (i : Fin n)
    {before after : List WorkerEvent} {who : Identity} {source : Writer} {frame : Frame}
    (hlog : (pool.workers i).state.log = before ++ .appended who source frame :: after) :
    DeliveredRight before who source ∧
      ((WorkerEvent.appended who source frame).isMessage = true → .closing who.id ∉ before) := by
  obtain ⟨hreaches, hjustified, -, -⟩ := hpool.sound.threads i
  have hrefines : Refines parser (fun _ _ => True) (pool.workers i).state :=
    refines_of_reaches_any hreaches
  have hmem : .appended who source frame ∈ (pool.workers i).state.log := by
    rw [hlog]
    exact List.mem_append_right _ List.mem_cons_self
  have hsource : source.Justified before := hjustified before _ after hlog
  have hbefore {event : WorkerEvent} (hevent : event ∈ before) :
      event ∈ (pool.workers i).state.log := by
    rw [hlog]
    exact List.mem_append_left _ hevent
  constructor
  · cases source with
    | reply request =>
      refine ⟨hsource, ?_⟩
      have hserves : request.who.id = who.id := hrefines.serves hmem rfl
      obtain ⟨fd, who', hregistered, hid, -, hwho⟩ := hrefines.registered (hbefore hsource)
      have hwho' : who = who' := hrefines.concerns hregistered hmem (hserves.symm.trans hid.symm)
      rw [hwho, hwho']
    | push task =>
      obtain ⟨userId, hregistered, hmeant⟩ := hsource
      obtain ⟨hserves, -⟩ : task.sessionId = who.id ∧ task.deviceId = who.deviceId :=
        hrefines.serves hmem rfl
      have hwho : who = ⟨task.sessionId, userId, task.deviceId⟩ :=
        hrefines.concerns (hbefore hregistered) hmem hserves.symm
      rw [PushTask.Meant] at hmeant
      rw [DeliveredRight, hwho]
      split at hmeant
      · exact ⟨hmeant.2, hmeant.1⟩
      · exact hmeant
    | _ => trivial
  · intro hmessage hclosing
    have hquiet := quiet_isMessage_of_reaches hreaches who.id
    rw [hlog, history_append] at hquiet
    have hevent : history who.id (.appended who source frame :: after) =
        .appended who source frame :: history who.id after := by
      simp [history, WorkerEvent.id]
    rw [hevent] at hquiet
    have hno := hquiet _ _ _ rfl (mem_history.2 ⟨hclosing, rfl⟩)
    rw [hmessage] at hno
    cases hno

namespace Sample

/-- Every response is dumped as an empty object. -/
def objectWriter : JsonWriter := ⟨fun _ => some objectText⟩

/-- A push to user 1 at device 2. -/
def greeting : PushTask := ⟨7, 1, 2, .object [], .user 1⟩

/-- The worker has run the push. -/
def greeted : WebSocketPool 1 :=
  (online.enqueue 0 (.push greeting)).setThread 0
    { (online.enqueue 0 (.push greeting)).workers 0 with
      state := (online.workers 0).state.step objectParser objectWriter (.push greeting true)
      tasks := [] }

theorem reaches_greeted : greeted.Reaches objectParser objectWriter := by
  have hqueued : (online.enqueue 0 (.push greeting)).Reaches objectParser objectWriter :=
    (reaches_online _ _).tail
      (@WebSocketPool.Step.pushToUser 1 _ _ online rfl 1 (.object []) 2 ⟨0, 7, 1, 1⟩ rfl rfl)
  exact hqueued.tail (.thread 0 (.run ⟨rfl, rfl, rfl⟩ rfl (.push greeting true) trivial))

end Sample

/-- A push to user 1 gets to the session of device 2 of user 1. -/
theorem no_cross_session_delivery_greeted :
    (Sample.greeted.workers 0).state.log = [.registered 7 Sample.who] ++
        [.appended Sample.who (.push Sample.greeting) (textFrame Sample.objectText)] ∧
      Sample.who.userId = 1 ∧ .closing Sample.who.id ∉ [WorkerEvent.registered 7 Sample.who] := by
  have hlog : (Sample.greeted.workers 0).state.log = [.registered 7 Sample.who] ++
      [.appended Sample.who (.push Sample.greeting) (textFrame Sample.objectText)] := rfl
  obtain ⟨hright, hquiet⟩ := no_cross_session_delivery Sample.reaches_greeted 0 hlog
  exact ⟨hlog, hright, hquiet rfl⟩

end ChatBackend
