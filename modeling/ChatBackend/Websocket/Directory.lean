import ChatBackend.Websocket.Addressing

/-!
# The directory

The directory of online devices and the maps of the workers are separate, and so are the updates of
them: a registration first enters the session in the map of the worker and then in the directory, and
a removal first takes it out of the directory and then out of the map. An entry of the directory
always is of a session in the map of its worker; but of several sessions of a device only the one that
was entered last can have the entry.

## Main definitions

* `WorkerThread.pending` — the calls of a step that have not been executed
* `WebSocketPool.Directed` — how the directory and the maps agree
* `WebSocketPool.Live`

## Main results

* `directory_is_sound`
* `newest_is_reachable`
-/

namespace ChatBackend

open Function (update update_self update_of_ne)

variable {parser : JsonParser} {writer : JsonWriter}

/-! ### Threads -/

namespace WorkerThread

variable {thread thread' : WorkerThread} {fd : Fd} {who : Identity}

/-- The calls of the worker that the pool has not executed. -/
def pending (thread : WorkerThread) : List PoolCall := thread.state.calls.drop thread.called

/-- **The session is in the map**; one that a step is about to remove is erased after the call of
`removeIndex`. -/
def Holds (thread : WorkerThread) (fd : Fd) (who : Identity) : Prop :=
  (∃ session, thread.state.sessions fd = some session ∧ session.identity = who) ∨
    .removeIndex who.deviceId fd who.id ∈ thread.pending

/-- **What the calls of a step are about**: a session that is entered in the directory is there, and
one that is taken out of it is gone. A handshake makes its call at the end. -/
structure Paced (thread : WorkerThread) : Prop where
  accepting : thread.accepting ≠ none → thread.called = thread.state.calls.length
  entering : ∀ deviceId userId fd id, .addIndex deviceId userId fd id ∈ thread.pending →
    ∃ session, thread.state.sessions fd = some session ∧ session.identity = ⟨id, userId, deviceId⟩
  done : ∀ call ∈ thread.pending, call.Done thread.state

/-- **What a thread does to the sessions that others know of.** -/
structure Continues (thread thread' : WorkerThread) : Prop where
  paced : thread.Paced → thread'.Paced
  log : ∃ events, thread'.state.log = thread.state.log ++ events
  holds : ∀ fd who, thread.Holds fd who → thread'.Holds fd who
  gone : ∀ fd who, .registered fd who ∈ thread.state.log →
    (∀ session, thread.state.sessions fd = some session → session.id ≠ who.id) →
      ∀ session, thread'.state.sessions fd = some session → session.id ≠ who.id
  entered : ∀ fd session', thread'.state.sessions fd = some session' →
    (∃ session, thread.state.sessions fd = some session ∧ session.identity = session'.identity ∧
      ∀ deviceId userId fd id, .addIndex deviceId userId fd id ∈ thread.pending →
        .addIndex deviceId userId fd id ∈ thread'.pending) ∨
    .addIndex session'.deviceId session'.userId fd session'.id ∈ thread'.pending

/-- Nothing is pending when the worker is done. -/
theorem pending_eq_nil (h : thread.called = thread.state.calls.length) : thread.pending = [] := by
  rw [pending, h, List.drop_length]

/-- A step of the worker, then, leaves the calls that it makes pending. -/
theorem pending_step {state : WebsocketWorker} {calls : List PoolCall}
    (h : thread.called = thread.state.calls.length) (hcalls : state.calls = thread.state.calls ++ calls) :
    state.calls.drop thread.called = calls := by
  rw [h, hcalls, List.drop_left]

/-- The step leaves the maps and the calls alone. -/
theorem Continues.of_eq (hstate : thread'.state = thread.state) (hcalled : thread'.called = thread.called)
    (haccepting : thread'.accepting ≠ none →
      thread.accepting ≠ none ∨ thread.called = thread.state.calls.length) :
    thread.Continues thread' := by
  have hpending : thread'.pending = thread.pending := by
    rw [WorkerThread.pending, hstate, hcalled, WorkerThread.pending]
  refine ⟨fun hpaced => ⟨fun h => ?_, ?_, ?_⟩, ⟨[], ?_⟩, ?_, ?_, ?_⟩
  · rw [hstate, hcalled]
    exact (haccepting h).elim hpaced.accepting id
  · rw [hpending, hstate]
    exact hpaced.entering
  · rw [hpending, hstate]
    exact hpaced.done
  · rw [hstate, List.append_nil]
  · intro fd who h
    rwa [Holds, hpending, hstate]
  · intro fd who _
    rw [hstate]
    exact id
  · intro fd session' hsession'
    rw [hstate] at hsession'
    exact .inl ⟨session', hsession', rfl, fun _ _ _ _ hcall => hpending ▸ hcall⟩

/-- **A step that registers no session.** -/
theorem Continues.tend {input : WorkerInput} {tasks : List WorkerTask}
    (h : thread.called = thread.state.calls.length) (haccepting : thread.accepting = none)
    (hregister : ∀ fd who inputBuffer now addOk, input ≠ .register fd who inputBuffer now addOk) :
    thread.Continues
      { thread with state := thread.state.step parser writer input, tasks := tasks } := by
  obtain ⟨hlog, ⟨calls, hcalls, hpermitted⟩, hlost⟩ :=
    unregistering_step parser writer thread.state hregister
  have hkeeps : Keeps thread.state (thread.state.step parser writer input) := keeps_step hregister
  have hpending : (thread.state.step parser writer input).calls.drop thread.called = calls :=
    pending_step h hcalls
  refine ⟨fun hpaced => ⟨?_, ?_, ?_⟩, ?_, ?_, ?_, ?_⟩
  · exact fun hnone => absurd haccepting hnone
  · intro deviceId userId fd id hcall
    rw [pending, hpending] at hcall
    exact (hpermitted _ hcall).1.elim
  · intro call hcall
    rw [pending, hpending] at hcall
    exact (hpermitted call hcall).2
  · exact hlog.imp fun _ => And.left
  · intro fd who hholds
    rw [Holds, pending_eq_nil h] at hholds
    obtain ⟨session, hsession, rfl⟩ := hholds.resolve_right List.not_mem_nil
    rcases hlost fd session hsession with ⟨session', hsession', hid⟩ | ⟨-, calls', hcalls', hcall⟩
    · exact .inl ⟨session', hsession', hid⟩
    · refine .inr ?_
      rw [pending, pending_step h hcalls']
      exact hcall
  · intro fd who _ hgone session' hsession'
    obtain ⟨session, hsession, hid⟩ := hkeeps fd session' hsession'
    have hsame : session'.id = session.id := congrArg Identity.id hid
    rw [hsame]
    exact hgone session hsession
  · intro fd session' hsession'
    obtain ⟨session, hsession, hid⟩ := hkeeps fd session' hsession'
    refine .inl ⟨session, hsession, hid.symm, ?_⟩
    rw [pending_eq_nil h]
    exact nofun

/-- **A registration.** -/
theorem Continues.register (h : thread.called = thread.state.calls.length)
    (hfresh : ∀ event ∈ thread.state.log, event.id ≠ who.id) (fd : Fd) (inputBuffer : Bytes)
    (now : SteadyTime) (addOk : Bool) :
    thread.Continues
      { thread with
        state := thread.state.step parser writer (.register fd who inputBuffer now addOk)
        accepting := none } := by
  rcases register_cases thread.state fd who inputBuffer now addOk with
    hsame | ⟨hfree, -, session, hid, hsessions, -, hlog, hcalls⟩
  · exact .of_eq hsame rfl (absurd rfl)
  · have hpending := pending_step h hcalls
    refine ⟨fun _ => ⟨absurd rfl, ?_, ?_⟩, ⟨_, hlog⟩, ?_, ?_, ?_⟩
    · intro deviceId userId fd' id hcall
      rw [pending, WebsocketWorker.step, hpending, List.mem_singleton] at hcall
      obtain ⟨rfl, rfl, rfl, rfl⟩ := PoolCall.addIndex.inj hcall
      refine ⟨session, ?_, hid⟩
      rw [WebsocketWorker.step, hsessions, update_self]
    · intro call hcall
      rw [pending, WebsocketWorker.step, hpending] at hcall
      rw [List.mem_singleton.1 hcall]
      trivial
    · intro other who' hholds
      rw [Holds, pending_eq_nil h] at hholds
      obtain ⟨session', hsession', hid'⟩ := hholds.resolve_right List.not_mem_nil
      have hother : other ≠ fd := by
        rintro rfl
        rw [hfree] at hsession'
        cases hsession'
      refine .inl ⟨session', ?_, hid'⟩
      rw [WebsocketWorker.step, hsessions, update_of_ne hother]
      exact hsession'
    · intro other who' hregistered hgone session' hsession'
      rw [WebsocketWorker.step, hsessions] at hsession'
      by_cases hother : other = fd
      · rw [hother, update_self] at hsession'
        obtain rfl := Option.some.inj hsession'
        have hwho : session.id = who.id := congrArg Identity.id hid
        rw [hwho]
        exact (hfresh _ hregistered).symm
      · rw [update_of_ne hother] at hsession'
        exact hgone session' hsession'
    · intro other session' hsession'
      rw [WebsocketWorker.step, hsessions] at hsession'
      by_cases hother : other = fd
      · rw [hother, update_self] at hsession'
        obtain rfl := Option.some.inj hsession'
        refine .inr ?_
        rw [pending, WebsocketWorker.step, hpending, List.mem_singleton, ← hid, hother]
        rfl
      · rw [update_of_ne hother] at hsession'
        refine .inl ⟨session', hsession', rfl, ?_⟩
        rw [pending_eq_nil h]
        exact fun _ _ _ _ hmem => absurd hmem List.not_mem_nil

/-- **Every step of a thread.** -/
theorem Step.continues {active : Uuid → Uuid → Prop} {fresh : ℕ → Prop}
    (hstep : thread.Step parser writer active fresh thread') (hpaced : thread.Paced)
    (hfresh : ∀ id, fresh id → ∀ event ∈ thread.state.log, event.id ≠ id) :
    thread.Continues thread' := by
  cases hstep with
  | verify hready _ _ _ => exact .of_eq rfl rfl fun _ => .inr hready.called
  | @register who haccepting hid fd inputBuffer now addOk =>
    refine .register (hpaced.accepting ?_) (hfresh _ hid) fd inputBuffer now addOk
    rw [haccepting]
    exact Option.some_ne_none _
  | abandon => exact .of_eq rfl rfl (absurd rfl)
  | socket hready fd flags input output => exact .tend hready.called hready.accepting nofun
  | timer hready now order modOk _ => exact .tend hready.called hready.accepting nofun
  | run hready _ hruns _ =>
    refine .tend hready.called hready.accepting ?_
    rintro fd who inputBuffer now addOk rfl
    cases hruns
  | halt _ => exact .of_eq rfl rfl .inl

/-! ### Calls -/

/-- The pool has executed a call. -/
def advance (thread : WorkerThread) : WorkerThread := { thread with called := thread.called + 1 }

variable {call : PoolCall}

theorem pending_advance (hcall : thread.state.calls[thread.called]? = some call) :
    thread.pending = call :: thread.advance.pending := by
  obtain ⟨hlt, heq⟩ := List.getElem?_eq_some_iff.1 hcall
  rw [pending, List.drop_eq_getElem_cons hlt, heq]
  rfl

theorem mem_advance (hcall : thread.state.calls[thread.called]? = some call) {other : PoolCall}
    (hne : other ≠ call) (hother : other ∈ thread.pending) : other ∈ thread.advance.pending := by
  rw [pending_advance hcall] at hother
  exact (List.mem_cons.1 hother).resolve_left hne

theorem Paced.advance (h : thread.Paced)
    (hcall : thread.state.calls[thread.called]? = some call) : thread.advance.Paced := by
  have hsubset : thread.advance.pending ⊆ thread.pending := by
    rw [pending_advance hcall]
    exact List.subset_cons_self _ _
  refine ⟨fun haccepting => ?_, ?_, ?_⟩
  · obtain ⟨hlt, -⟩ := List.getElem?_eq_some_iff.1 hcall
    exact absurd (h.accepting haccepting) hlt.ne
  · exact fun _ _ _ _ hmem => h.entering _ _ _ _ (hsubset hmem)
  · exact fun other hmem => h.done other (hsubset hmem)

theorem Holds.advance (h : thread.Holds fd who)
    (hcall : thread.state.calls[thread.called]? = some call)
    (hne : call ≠ .removeIndex who.deviceId fd who.id) : thread.advance.Holds fd who :=
  h.imp id (mem_advance hcall hne.symm)

/-- A call that pushes a message. -/
theorem Continues.advance {deviceId : Uuid} {message : Json}
    (hcall : thread.state.calls[thread.called]? = some (.pushToDevice deviceId message)) :
    thread.Continues thread.advance where
  paced h := h.advance hcall
  log := ⟨[], (List.append_nil _).symm⟩
  holds _ _ h := h.advance hcall nofun
  gone _ _ _ h := h
  entered _ session' hsession' :=
    .inl ⟨session', hsession', rfl, fun _ _ _ _ hmem => mem_advance hcall nofun hmem⟩

end WorkerThread

/-! ### The pool -/

variable {n : ℕ} {pool pool' : WebSocketPool n}

/-- The device and whom the entry of the directory is of. -/
def OnlineConnection.who (connection : OnlineConnection n) (deviceId : Uuid) : Identity :=
  ⟨connection.sessionId, connection.userId, deviceId⟩

/-- **How the directory and the maps of the workers agree.** -/
structure WebSocketPool.Directed (pool : WebSocketPool n) : Prop where
  paced : ∀ i, (pool.workers i).Paced
  destroyed : ∀ i, (pool.workers i).destroyed = true → pool.stopping = true
  stopped : pool.stopping = true → ∀ deviceId, pool.directory deviceId = none
  held : ∀ deviceId connection, pool.directory deviceId = some connection →
    (pool.workers connection.workerId).Holds connection.fd (connection.who deviceId)
  /-- The entry is that of the session that was entered last. -/
  newest : ∀ deviceId connection, pool.directory deviceId = some connection →
    pool.newest deviceId = some connection
  registered : ∀ deviceId connection, pool.newest deviceId = some connection →
    .registered connection.fd (connection.who deviceId) ∈
      (pool.workers connection.workerId).state.log
  /-- That session has the entry for as long as it is there. -/
  gone : pool.stopping = false → ∀ deviceId connection, pool.newest deviceId = some connection →
    pool.directory deviceId = some connection ∨
      ∀ session, (pool.workers connection.workerId).state.sessions connection.fd = some session →
        session.id ≠ connection.sessionId
  /-- Every session has been entered, or will be at the end of the step. -/
  entered : pool.stopping = false → ∀ i fd session,
    (pool.workers i).state.sessions fd = some session →
      (pool.newest session.deviceId).isSome ∨
        .addIndex session.deviceId session.userId fd session.id ∈ (pool.workers i).pending

namespace WebSocketPool.Directed

/-- One of the threads goes on. -/
theorem setThread (h : pool.Directed) {i : Fin n} {thread : WorkerThread}
    (hthread : (pool.workers i).Continues thread)
    (hdestroyed : thread.destroyed = true → pool.stopping = true) :
    (pool.setThread i thread).Directed where
  paced j := by
    by_cases hj : j = i
    · subst hj
      rw [workers_setThread, update_self]
      exact hthread.paced (h.paced j)
    · rw [workers_setThread, update_of_ne hj]
      exact h.paced j
  destroyed j hj' := by
    by_cases hj : j = i
    · subst hj
      rw [workers_setThread, update_self] at hj'
      exact hdestroyed hj'
    · rw [workers_setThread, update_of_ne hj] at hj'
      exact h.destroyed j hj'
  stopped := h.stopped
  held deviceId connection hconnection := by
    have hheld := h.held deviceId connection hconnection
    by_cases hj : connection.workerId = i
    · rw [workers_setThread, hj, update_self]
      rw [hj] at hheld
      exact hthread.holds _ _ hheld
    · rw [workers_setThread, update_of_ne hj]
      exact hheld
  newest := h.newest
  registered deviceId connection hconnection := by
    have hregistered := h.registered deviceId connection hconnection
    by_cases hj : connection.workerId = i
    · obtain ⟨events, hlog⟩ := hthread.log
      rw [workers_setThread, hj, update_self, hlog]
      rw [hj] at hregistered
      exact List.mem_append_left _ hregistered
    · rw [workers_setThread, update_of_ne hj]
      exact hregistered
  gone hrunning deviceId connection hconnection := by
    have hregistered := h.registered deviceId connection hconnection
    rcases h.gone hrunning deviceId connection hconnection with hentry | hgone
    · exact .inl hentry
    · refine .inr ?_
      by_cases hj : connection.workerId = i
      · rw [workers_setThread, hj, update_self]
        rw [hj] at hregistered hgone
        exact hthread.gone _ _ hregistered hgone
      · rw [workers_setThread, update_of_ne hj]
        exact hgone
  entered hrunning j fd session' hsession' := by
    by_cases hj : j = i
    · subst hj
      rw [workers_setThread, update_self] at hsession' ⊢
      rcases hthread.entered fd session' hsession' with ⟨session, hsession, hid, hsubset⟩ | hcall
      · have huser : session.userId = session'.userId := congrArg Identity.userId hid
        have hdevice : session.deviceId = session'.deviceId := congrArg Identity.deviceId hid
        have hsessionId : session.id = session'.id := congrArg Identity.id hid
        rcases h.entered hrunning j fd session hsession with hnewest | hcall
        · rw [hdevice] at hnewest
          exact .inl hnewest
        · rw [huser, hdevice, hsessionId] at hcall
          exact .inr (hsubset _ _ _ _ hcall)
      · exact .inr hcall
    · rw [workers_setThread, update_of_ne hj] at hsession' ⊢
      exact h.entered hrunning j fd session' hsession'

theorem enqueue (h : pool.Directed) (i : Fin n) (task : WorkerTask) :
    (pool.enqueue i task).Directed :=
  h.setThread (.of_eq rfl rfl .inl) (h.destroyed i)

/-- An entry that is not being taken out stays held when the worker's call has been executed. -/
theorem held_advance (h : pool.Directed) {i : Fin n} {call : PoolCall}
    (hcall : (pool.workers i).state.calls[(pool.workers i).called]? = some call)
    {deviceId : Uuid} {connection : OnlineConnection n}
    (hconnection : pool.directory deviceId = some connection)
    (hne : connection.workerId = i → call ≠ .removeIndex deviceId connection.fd connection.sessionId) :
    ((pool.advance i).workers connection.workerId).Holds connection.fd (connection.who deviceId) := by
  have hheld := h.held deviceId connection hconnection
  by_cases hj : connection.workerId = i
  · rw [WebSocketPool.advance, workers_setThread, hj, update_self]
    rw [hj] at hheld
    exact hheld.advance hcall (hne hj)
  · rw [WebSocketPool.advance, workers_setThread, update_of_ne hj]
    exact hheld

/-- The sessions of the workers are the same after it. -/
theorem state_advance (pool : WebSocketPool n) (i j : Fin n) :
    ((pool.advance i).workers j).state = (pool.workers j).state ∧
      ((pool.advance i).workers j).destroyed = (pool.workers j).destroyed := by
  rw [WebSocketPool.advance, workers_setThread]
  by_cases hj : j = i
  · subst hj
    rw [update_self]
    exact ⟨rfl, rfl⟩
  · rw [update_of_ne hj]
    exact ⟨rfl, rfl⟩

theorem paced_advance (h : pool.Directed) {i : Fin n} {call : PoolCall}
    (hcall : (pool.workers i).state.calls[(pool.workers i).called]? = some call) (j : Fin n) :
    ((pool.advance i).workers j).Paced := by
  rw [WebSocketPool.advance, workers_setThread]
  by_cases hj : j = i
  · subst hj
    rw [update_self]
    exact (h.paced j).advance hcall
  · rw [update_of_ne hj]
    exact h.paced j

theorem mem_pending_advance {i j : Fin n} {call other : PoolCall}
    (hcall : (pool.workers i).state.calls[(pool.workers i).called]? = some call) (hne : other ≠ call)
    (hother : other ∈ (pool.workers j).pending) : other ∈ ((pool.advance i).workers j).pending := by
  rw [WebSocketPool.advance, workers_setThread]
  by_cases hj : j = i
  · subst hj
    rw [update_self]
    exact WorkerThread.mem_advance hcall hne hother
  · rw [update_of_ne hj]
    exact hother

/-- **`addIndex`**, while the pool is running. -/
theorem addIndex (h : pool.Directed) (hsound : pool.Sound parser writer)
    (hrunning : pool.stopping = false) {i : Fin n} {deviceId userId : Uuid} {fd : Fd} {sessionId : ℕ}
    (hcall : (pool.workers i).state.calls[(pool.workers i).called]? =
      some (.addIndex deviceId userId fd sessionId)) :
    WebSocketPool.Directed { pool.advance i with
      directory := update pool.directory deviceId (some ⟨i, fd, sessionId, userId⟩)
      newest := update pool.newest deviceId (some ⟨i, fd, sessionId, userId⟩) } := by
  have hmem : .addIndex deviceId userId fd sessionId ∈ (pool.workers i).pending := by
    rw [WorkerThread.pending_advance hcall]
    exact List.mem_cons_self
  have hstate := state_advance pool i
  refine ⟨h.paced_advance hcall, ?_, ?_, ?_, ?_, ?_, ?_, ?_⟩
  · intro j hdestroyed
    exact h.destroyed j ((hstate j).2.symm.trans hdestroyed)
  · intro hstopping
    rw [show pool.stopping = true from hstopping] at hrunning
    cases hrunning
  · intro other connection hconnection
    by_cases hother : other = deviceId
    · simp only [hother, update_self] at hconnection
      obtain rfl := Option.some.inj hconnection
      obtain ⟨session, hsession, hid⟩ := (h.paced i).entering _ _ _ _ hmem
      refine .inl ⟨session, ?_, ?_⟩
      · exact (congrFun (congrArg _ (hstate i).1) fd).trans hsession
      · rw [hother]
        exact hid
    · simp only [update_of_ne hother] at hconnection
      exact h.held_advance hcall hconnection nofun
  · intro other connection hconnection
    by_cases hother : other = deviceId
    · simp only [hother, update_self] at hconnection ⊢
      exact hconnection
    · simp only [update_of_ne hother] at hconnection ⊢
      exact h.newest other connection hconnection
  · intro other connection hconnection
    change _ ∈ ((pool.advance i).workers connection.workerId).state.log
    rw [(hstate _).1]
    by_cases hother : other = deviceId
    · simp only [hother, update_self] at hconnection
      obtain rfl := Option.some.inj hconnection
      rw [hother]
      exact (hsound.threads i).calls _ (List.mem_of_getElem? hcall)
    · simp only [update_of_ne hother] at hconnection
      exact h.registered other connection hconnection
  · intro _ other connection hconnection
    by_cases hother : other = deviceId
    · simp only [hother, update_self] at hconnection ⊢
      exact .inl hconnection
    · simp only [update_of_ne hother] at hconnection ⊢
      rw [(hstate _).1]
      exact h.gone hrunning other connection hconnection
  · intro _ j fd' session hsession
    change ((pool.advance i).workers j).state.sessions fd' = some session at hsession
    rw [(hstate j).1] at hsession
    by_cases hother : session.deviceId = deviceId
    · left
      simp only [hother, update_self, Option.isSome_some]
    · simp only [update_of_ne hother]
      refine (h.entered hrunning j fd' session hsession).imp id fun hmem' => ?_
      refine mem_pending_advance hcall (fun heq => ?_) hmem'
      exact hother (PoolCall.addIndex.inj heq).1

/-- The same, where the pool only forgets entries. -/
theorem forget (h : pool.Directed) {i : Fin n} {call : PoolCall}
    (hcall : (pool.workers i).state.calls[(pool.workers i).called]? = some call)
    (hentering : ∀ deviceId userId fd sessionId, call = .addIndex deviceId userId fd sessionId →
      pool.stopping = true)
    {directory : Uuid → Option (OnlineConnection n)}
    (hdirectory : ∀ deviceId connection, directory deviceId = some connection →
      pool.directory deviceId = some connection ∧ (connection.workerId = i →
        call ≠ .removeIndex deviceId connection.fd connection.sessionId))
    (hgone : ∀ deviceId connection, pool.directory deviceId = some connection →
      directory deviceId = some connection ∨ ∀ session,
        (pool.workers connection.workerId).state.sessions connection.fd = some session →
          session.id ≠ connection.sessionId) :
    WebSocketPool.Directed { pool.advance i with directory := directory } := by
  have hstate := state_advance pool i
  refine ⟨h.paced_advance hcall, ?_, ?_, ?_, ?_, ?_, ?_, ?_⟩
  · intro j hdestroyed
    exact h.destroyed j ((hstate j).2.symm.trans hdestroyed)
  · intro hstopping deviceId
    rcases hentry : directory deviceId with _ | connection
    · exact hentry
    · have hnone := h.stopped hstopping deviceId
      rw [(hdirectory deviceId connection hentry).1] at hnone
      cases hnone
  · intro deviceId connection hconnection
    obtain ⟨hold, hne⟩ := hdirectory deviceId connection hconnection
    exact h.held_advance hcall hold hne
  · exact fun deviceId connection hconnection =>
      h.newest deviceId connection (hdirectory deviceId connection hconnection).1
  · intro deviceId connection hconnection
    change _ ∈ ((pool.advance i).workers connection.workerId).state.log
    rw [(hstate _).1]
    exact h.registered deviceId connection hconnection
  · intro hrunning deviceId connection hconnection
    change _ ∨ ∀ session,
      ((pool.advance i).workers connection.workerId).state.sessions connection.fd = some session → _
    rw [(hstate _).1]
    rcases h.gone hrunning deviceId connection hconnection with hentry | hnot
    · exact hgone deviceId connection hentry
    · exact .inr hnot
  · intro hrunning j fd session hsession
    change ((pool.advance i).workers j).state.sessions fd = some session at hsession
    rw [(hstate j).1] at hsession
    refine (h.entered hrunning j fd session hsession).imp id fun hmem => ?_
    refine mem_pending_advance hcall ?_ hmem
    rintro rfl
    have hstopping := hentering _ _ _ _ rfl
    rw [show pool.stopping = false from hrunning] at hstopping
    cases hstopping

/-- **A call of a worker is executed.** -/
theorem call (h : pool.Directed) (hsound : pool.Sound parser writer) {i : Fin n} {call : PoolCall}
    (hcall : (pool.workers i).state.calls[(pool.workers i).called]? = some call) :
    ((pool.execute i call).advance i).Directed := by
  cases call with
  | addIndex deviceId userId fd sessionId =>
    rw [WebSocketPool.execute, WebSocketPool.addIndex]
    split
    · next hstopping =>
      refine h.forget hcall (fun _ _ _ _ _ => hstopping) (fun other connection hconnection => ?_)
        fun _ _ => .inl
      exact ⟨hconnection, fun _ heq => by cases heq⟩
    · next hrunning => exact h.addIndex hsound (Bool.not_eq_true _ ▸ hrunning) hcall
  | removeIndex deviceId fd sessionId =>
    have hother : ∀ deviceId' userId' fd' sessionId', PoolCall.removeIndex deviceId fd sessionId =
        .addIndex deviceId' userId' fd' sessionId' → pool.stopping = true :=
      fun _ _ _ _ heq => by cases heq
    have hgone := (h.paced i).done (.removeIndex deviceId fd sessionId) (by
      rw [WorkerThread.pending_advance hcall]
      exact List.mem_cons_self)
    rw [WebSocketPool.execute, WebSocketPool.removeIndex]
    split
    · next hnone =>
      refine h.forget hcall hother (fun other connection hconnection => ⟨hconnection, ?_⟩)
        fun _ _ => .inl
      rintro - heq
      obtain ⟨rfl, -, -⟩ := PoolCall.removeIndex.inj heq
      rw [hnone] at hconnection
      cases hconnection
    · next connection hconnection =>
      split
      · next hmatch =>
        obtain ⟨hworker, hfd, hsession⟩ := hmatch
        refine h.forget hcall hother (fun other connection' hconnection' => ?_)
          fun other connection' hconnection' => ?_
        · change update pool.directory deviceId none other = some connection' at hconnection'
          by_cases hother : other = deviceId
          · rw [hother, update_self] at hconnection'
            cases hconnection'
          · rw [update_of_ne hother] at hconnection'
            refine ⟨hconnection', fun _ heq => ?_⟩
            exact hother (PoolCall.removeIndex.inj heq).1.symm
        · by_cases hother : other = deviceId
          · rw [hother, hconnection] at hconnection'
            obtain rfl := Option.some.inj hconnection'
            right
            rw [hworker, hfd, hsession]
            exact hgone
          · left
            change update pool.directory deviceId none other = some connection'
            rw [update_of_ne hother]
            exact hconnection'
      · next hmismatch =>
        refine h.forget hcall hother (fun other connection' hconnection' => ⟨hconnection', ?_⟩)
          fun _ _ => .inl
        rintro hworker heq
        obtain ⟨rfl, rfl, rfl⟩ := PoolCall.removeIndex.inj heq
        rw [hconnection] at hconnection'
        obtain rfl := Option.some.inj hconnection'
        exact hmismatch ⟨hworker, rfl, rfl⟩
  | pushToDevice deviceId message =>
    have hadvance {pool' : WebSocketPool n} (hpool : pool'.Directed)
        (hcall' : (pool'.workers i).state.calls[(pool'.workers i).called]? =
          some (.pushToDevice deviceId message)) : (pool'.advance i).Directed :=
      hpool.setThread (.advance hcall') (hpool.destroyed i)
    rw [WebSocketPool.execute, WebSocketPool.pushToDevice]
    split
    · exact hadvance h hcall
    · split
      · exact hadvance h hcall
      · next connection _ =>
        refine hadvance (h.enqueue _ _) ?_
        rw [WebSocketPool.workers_enqueue]
        by_cases hi : i = connection.workerId
        · rw [← hi, update_self]
          exact hcall
        · rw [update_of_ne hi]
          exact hcall

end WebSocketPool.Directed

/-- What has nothing to do with sessions. -/
theorem WebSocketPool.Directed.of_eq (h : pool.Directed) (hworkers : pool'.workers = pool.workers)
    (hdirectory : pool'.directory = pool.directory) (hnewest : pool'.newest = pool.newest)
    (hstopping : pool'.stopping = pool.stopping) : pool'.Directed := by
  obtain ⟨hpaced, hdestroyed, hstopped, hheld, hnew, hregistered, hgone, hentered⟩ := h
  refine ⟨?_, ?_, ?_, ?_, ?_, ?_, ?_, ?_⟩
  · rwa [hworkers]
  · rwa [hworkers, hstopping]
  · rwa [hstopping, hdirectory]
  · rwa [hdirectory, hworkers]
  · rwa [hdirectory, hnewest]
  · rwa [hnewest, hworkers]
  · rwa [hstopping, hnewest, hdirectory, hworkers]
  · rwa [hstopping, hworkers, hnewest]

theorem CloseCall.Step.directed {call call' : CloseCall n} (h : call.Step pool pool' call')
    (hdirected : pool.Directed) : pool'.Directed := by
  cases h with
  | queue => exact (hdirected.enqueue _ _).of_eq rfl rfl rfl rfl
  | queueFailed =>
    split
    · exact (hdirected.enqueue _ _).of_eq rfl rfl rfl rfl
    · exact hdirected
  | _ => exact hdirected

theorem WebSocketPool.directed_start : (WebSocketPool.start n).Directed :=
  ⟨fun _ => ⟨fun _ => rfl, nofun, nofun⟩, nofun, nofun, nofun, nofun, nofun, fun _ => nofun,
    fun _ _ => nofun⟩

/-- **Every step keeps the directory and the maps in agreement.** -/
theorem WebSocketPool.Directed.step (h : pool.Directed) (hsound : pool.Sound parser writer)
    (hstep : pool.Step parser writer pool') : pool'.Directed := by
  cases hstep with
  | thread i hthread =>
    have hdestroyed := h.destroyed i
    have hcontinues := hthread.continues (h.paced i) fun _ hfresh => hfresh i
    refine h.setThread hcontinues ?_
    cases hthread <;> exact hdestroyed
  | commit _ _ => exact h.of_eq rfl rfl rfl rfl
  | reply i _ _ _ => exact h.enqueue i _
  | call i hcall => exact h.call hsound hcall
  | pushToUser _ _ _ _ _ => exact h.enqueue _ _
  | enqueueCloseSession i _ _ _ => exact h.enqueue i _
  | closeSession _ _ => exact h.of_eq rfl rfl rfl rfl
  | closeCall _ hcall => exact (hcall.directed h).of_eq rfl rfl rfl rfl
  | close =>
    exact ⟨h.paced, fun _ _ => rfl, fun _ _ => rfl, nofun, nofun, h.registered, nofun, nofun⟩
  | destroy hstopping i _ => exact h.setThread (.of_eq rfl rfl .inl) fun _ => hstopping

theorem WebSocketPool.Reaches.directed (h : pool.Reaches parser writer) : pool.Directed := by
  induction h with
  | refl => exact directed_start
  | tail hreaches hstep ih =>
    exact ih.step (WebSocketPool.Reaches.sound hreaches) hstep

/-! ### Soundness -/

/-- The session of an entry is in the map of its worker. -/
def WebSocketPool.OnMap (pool : WebSocketPool n) (deviceId : Uuid) (connection : OnlineConnection n) :
    Prop :=
  ∃ session, (pool.workers connection.workerId).sessions connection.fd = some session ∧
    session.identity = connection.who deviceId

/-- **The directory is sound**: the session of an entry is in the map of its worker, unless a step that
is about to erase it has yet to call `removeIndex`; the session that was entered last keeps its entry
while it is in the map, whatever becomes of others; and a registration that fails leaves the worker as
it is, and no entry. -/
theorem directory_is_sound (hpool : pool.Reaches parser writer) :
    (∀ deviceId connection, pool.directory deviceId = some connection →
      pool.OnMap deviceId connection ∨
        .removeIndex deviceId connection.fd connection.sessionId ∈
          (pool.workers connection.workerId).pending) ∧
    (pool.stopping = false → ∀ deviceId connection, pool.newest deviceId = some connection →
      pool.OnMap deviceId connection → pool.directory deviceId = some connection) ∧
    (∀ i fd who inputBuffer now addOk, pool.Fresh who.id →
      (∀ session, ((pool.workers i).state.register fd who inputBuffer now addOk).sessions fd =
        some session → session.identity ≠ who) →
      (pool.workers i).state.register fd who inputBuffer now addOk = (pool.workers i).state ∧
        ∀ deviceId connection, pool.directory deviceId = some connection →
          connection.sessionId ≠ who.id) := by
  have h := hpool.directed
  refine ⟨?_, ?_, ?_⟩
  · intro deviceId connection hconnection
    have hlive : (pool.workers connection.workerId).destroyed = false := by
      rw [← Bool.not_eq_true]
      intro hdestroyed
      rw [h.stopped (h.destroyed _ hdestroyed) deviceId] at hconnection
      cases hconnection
    refine (h.held deviceId connection hconnection).imp ?_ id
    rintro ⟨session, hsession, hid⟩
    refine ⟨session, ?_, hid⟩
    rw [WorkerThread.sessions, hlive]
    exact hsession
  · rintro hrunning deviceId connection hnewest ⟨session, hsession, hid⟩
    refine (h.gone hrunning deviceId connection hnewest).resolve_right fun hgone => ?_
    rw [WorkerThread.sessions] at hsession
    split at hsession
    · cases hsession
    · exact hgone session hsession (congrArg Identity.id hid)
  · intro i fd who inputBuffer now addOk hfresh hfailed
    constructor
    · rcases register_cases (pool.workers i).state fd who inputBuffer now addOk with
        hsame | ⟨-, -, session, hid, hsessions, -⟩
      · exact hsame
      · refine absurd hid (hfailed session ?_)
        rw [hsessions, update_self]
    · intro deviceId connection hconnection
      have hregistered := h.registered deviceId connection (h.newest _ _ hconnection)
      exact hfresh connection.workerId _ hregistered

/-- The entry of a session that is there. -/
theorem directory_is_sound_online :
    Sample.online.directory 2 = some ⟨0, 7, 1, 1⟩ ∧
      (Sample.online.OnMap 2 ⟨0, 7, 1, 1⟩ ∨
        .removeIndex 2 7 1 ∈ (Sample.online.workers 0).pending) :=
  ⟨rfl, (directory_is_sound (Sample.reaches_online Sample.objectParser Sample.noWriter)).1 2
    ⟨0, 7, 1, 1⟩ rfl⟩

/-! ### Reachability -/

/-- The session of an entry is in the map of its worker and is not closing. -/
def WebSocketPool.Live (pool : WebSocketPool n) (deviceId : Uuid) (connection : OnlineConnection n) :
    Prop :=
  pool.OnMap deviceId connection ∧
    (pool.workers connection.workerId).state.closing connection.fd = false

/-- Each device is reachable for which there is a session that is not closing, once the session has been
entered. -/
def WebSocketPool.AllReachable (pool : WebSocketPool n) : Prop :=
  ∀ i fd session, (pool.workers i).sessions fd = some session →
    (pool.workers i).state.closing fd = false → (pool.workers i).pending = [] →
      ∃ connection, pool.directory session.deviceId = some connection ∧
        pool.Live session.deviceId connection

/-- **The session that was entered last is the one that is reachable**: there is a live one in the
directory exactly if the session of the device that was entered last is live, and then a push goes to
it; and there is one that was entered last if there is any. -/
theorem newest_is_reachable (hpool : pool.Reaches parser writer) (hrunning : pool.stopping = false)
    (deviceId : Uuid) :
    (∀ connection, pool.directory deviceId = some connection ∧ pool.Live deviceId connection ↔
      pool.newest deviceId = some connection ∧ pool.Live deviceId connection) ∧
    (∀ connection message, pool.newest deviceId = some connection → pool.Live deviceId connection →
      pool.pushToDevice deviceId message = pool.enqueue connection.workerId
        (.push ⟨connection.fd, connection.sessionId, deviceId, message, .device deviceId⟩)) ∧
    ∀ i fd session, (pool.workers i).sessions fd = some session → session.deviceId = deviceId →
      (pool.workers i).pending = [] → ∃ connection, pool.newest deviceId = some connection := by
  obtain ⟨-, hkept, -⟩ := directory_is_sound hpool
  refine ⟨fun connection => and_congr_left fun hlive => ?_, ?_, ?_⟩
  · constructor
    · exact hpool.directed.newest deviceId connection
    · exact fun hnewest => hkept hrunning deviceId connection hnewest hlive.1
  · intro connection message hnewest hlive
    have hentry := hkept hrunning deviceId connection hnewest hlive.1
    simp only [WebSocketPool.pushToDevice, hrunning, Bool.false_eq_true, if_false, hentry]
  · rintro i fd session hsession rfl hpending
    rw [WorkerThread.sessions] at hsession
    split at hsession
    · cases hsession
    · rcases hpool.directed.entered hrunning i fd session hsession with hsome | hcall
      · exact Option.isSome_iff_exists.1 hsome
      · rw [hpending] at hcall
        cases hcall

namespace Sample

/-- A second session of device 2. -/
def second : Identity := ⟨2, 1, 2⟩

/-- It comes, and goes again. -/
def doubled : WebSocketPool 1 := joined (verified online second) 8 second

def parted : WebSocketPool 1 :=
  let hungUp := doubled.setThread 0
    { doubled.workers 0 with
      state := (doubled.workers 0).state.step objectParser noWriter
        (.socket 8 ⟨false, true, false, false, false⟩ ⟨[], true, []⟩ ⟨[], true⟩) }
  (hungUp.execute 0 (.removeIndex 2 8 2)).advance 0

theorem reaches_doubled : doubled.Reaches objectParser noWriter := by
  have hverify : (verified online second).Reaches objectParser noWriter :=
    (reaches_online _ _).tail (.thread 0 (.verify ⟨rfl, rfl, rfl⟩ 1 2 List.not_mem_nil))
  have hfresh : (verified online second).Fresh 2 := by
    intro i
    rw [Subsingleton.elim i 0]
    decide +kernel
  exact (hverify.tail (.thread 0
    (@WorkerThread.Step.register _ _ _ _ _ second rfl hfresh 8 [] 0 true))).tail (.call 0 rfl)

theorem reaches_parted : parted.Reaches objectParser noWriter :=
  (reaches_doubled.tail (.thread 0 (.socket ⟨rfl, rfl, rfl⟩ 8 ⟨false, true, false, false, false⟩
    ⟨[], true, []⟩ ⟨[], true⟩))).tail (@WebSocketPool.Step.call 1 _ _ _ 0 (.removeIndex 2 8 2) rfl)

end Sample

/-- The second session of device 2 has been entered. -/
theorem newest_is_reachable_doubled :
    Sample.doubled.pushToDevice 2 .null = Sample.doubled.enqueue 0 (.push ⟨8, 2, 2, .null, .device 2⟩) :=
  (newest_is_reachable Sample.reaches_doubled rfl 2).2.1 ⟨0, 8, 2, 1⟩ .null rfl
    ⟨⟨_, rfl, rfl⟩, rfl⟩

/-- The second session of device 2 hangs up, and the first one is not in the directory. -/
theorem newest_is_reachable_fails :
    Sample.parted.Reaches Sample.objectParser Sample.noWriter ∧ Sample.parted.stopping = false ∧
      ¬ Sample.parted.AllReachable := by
  refine ⟨Sample.reaches_parted, rfl, fun hreachable => ?_⟩
  have hsession : (Sample.parted.workers 0).sessions 7 =
      some ⟨1, 1, 2, ⟨[], []⟩, 0, 0, false, false⟩ := by decide +kernel
  obtain ⟨connection, hentry, -⟩ := hreachable 0 7 _ hsession rfl rfl
  have hnone : Sample.parted.directory 2 = none := by decide +kernel
  rw [hnone] at hentry
  cases hentry

end ChatBackend
