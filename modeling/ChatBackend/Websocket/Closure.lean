import ChatBackend.Websocket.Promises

/-!
# Revoked devices are off

`closeSession` has every worker scan its sessions for those of a device, and returns `true` when each
of the scans has set the value of its promise. If the revocation of the device was committed before, no
worker has a session of the device then, and none will have one. A handshake that passed the check of
the device before the commit is no exception: it is done with before the worker gets to its scan, and
the scan finds the session.

## Main definitions

* `WorkerThread.Safe`, `WorkerThread.Promised` — a worker where no session of the device will be, and
  one that is safe when a scan is fulfilled
* `CloseCall.Stands` — what a call of `closeSession` has achieved so far

## Main results

* `closure_is_real`
-/

namespace ChatBackend

open Function (update update_self update_of_ne)
open WebsocketWorker (Absent Clear Waiting)

variable {parser : JsonParser} {writer : JsonWriter} {active : Uuid → Uuid → Prop}
  {fresh : ℕ → Prop} {thread thread' : WorkerThread} {scan next : ScanId} {userId deviceId : Uuid}

/-! ### Threads -/

/-- The scan that a task is. -/
def WorkerTask.scan? : WorkerTask → Option ScanId
  | .revocation scan _ _ => some scan
  | _ => none

theorem WorkerTask.RunsAs.scan? {task : WorkerTask} {input : WorkerInput} (h : task.RunsAs input) :
    input.scan? = task.scan? := by
  cases h <;> rfl

/-- No task registers a session. -/
theorem WorkerTask.RunsAs.not_admits {task : WorkerTask} {input : WorkerInput} (h : task.RunsAs input) :
    ¬ input.Admits userId deviceId := by
  rintro ⟨fd, who, inputBuffer, now, addOk, rfl, -⟩
  cases h

namespace WorkerThread

/-- The scans in the queue. -/
def scans (thread : WorkerThread) : List ScanId := thread.tasks.filterMap WorkerTask.scan?

/-- **Scans are run once**: those in the queue are different ones and have left no trace, and neither
have those that are yet to be numbered. -/
structure Numbered (thread : WorkerThread) (next : ScanId) : Prop where
  nodup : thread.scans.Nodup
  queued : ∀ scan ∈ thread.scans, Absent thread.state scan
  unused : ∀ scan, next ≤ scan → scan ∉ thread.scans ∧ Absent thread.state scan

/-- **There is no session of a device**, nor is one being registered. -/
structure Safe (thread : WorkerThread) (userId deviceId : Uuid) : Prop where
  clear : Clear thread.state userId deviceId
  accepting : thread.accepting ≠ some (userId, deviceId)

/-- A scan whose promise has no value yet. -/
inductive Pending (thread : WorkerThread) (scan : ScanId) (userId deviceId : Uuid) : Prop where
  | queued (h : .revocation scan userId deviceId ∈ thread.tasks)
  | waiting (h : Waiting thread.state scan userId deviceId)
      (haccepting : thread.accepting ≠ some (userId, deviceId))
  /-- It will not get one. -/
  | ended (h : thread.running = false) (hopen : scan ∉ thread.state.fulfilled)

/-- **The worker is safe when the scan is fulfilled.** -/
def Promised (thread : WorkerThread) (scan : ScanId) (userId deviceId : Uuid) : Prop :=
  thread.Pending scan userId deviceId ∨ thread.Safe userId deviceId

/-! ### Steps of a thread -/

theorem Numbered.of_sublist (h : thread.Numbered next) (hscans : thread'.scans.Sublist thread.scans)
    (hstate : ∀ scan, scan ∈ thread'.scans ∨ next ≤ scan → Absent thread.state scan →
      Absent thread'.state scan) : thread'.Numbered next where
  nodup := h.nodup.sublist hscans
  queued scan hscan := hstate scan (.inl hscan) (h.queued scan (hscans.subset hscan))
  unused scan hnext := by
    obtain ⟨hnot, habsent⟩ := h.unused scan hnext
    exact ⟨fun hscan => hnot (hscans.subset hscan), hstate scan (.inr hnext) habsent⟩

theorem Numbered.step (h : thread.Step parser writer active fresh thread')
    (hnumbered : thread.Numbered next) : thread'.Numbered next := by
  -- A step that is not the run of a task leaves the queue as it is, or clears it.
  have hsame {state : WebsocketWorker} {accepting : Option (Uuid × Uuid)} {running : Bool}
      (hstate : ∀ scan, Absent thread.state scan → Absent state scan) :
      Numbered { thread with state := state, accepting := accepting, running := running } next :=
    hnumbered.of_sublist (.refl _) fun scan _ => hstate scan
  cases h with
  | verify _ _ _ _ => exact hsame fun _ => id
  | register _ _ _ _ _ _ => exact hsame fun _ habsent => absent_step habsent nofun
  | abandon => exact hsame fun _ => id
  | socket _ _ _ _ _ => exact hsame fun _ habsent => absent_step habsent nofun
  | timer _ _ _ _ _ => exact hsame fun _ habsent => absent_step habsent nofun
  | @run _ task tasks htasks input hruns _ =>
    have hscans : thread.scans = task.scan?.toList ++ tasks.filterMap WorkerTask.scan? := by
      rw [scans, htasks, List.filterMap_cons]
      cases task.scan? with
      | none => rfl
      | some scan => rfl
    refine hnumbered.of_sublist ?_ fun scan hscan habsent => absent_step habsent ?_
    · rw [hscans]
      exact List.sublist_append_right _ _
    · rw [hruns.scan?]
      intro htask
      rw [htask] at hscans
      have hmem : scan ∈ thread.scans := by
        rw [hscans]
        exact List.mem_cons_self
      have hnodup := hnumbered.nodup
      rw [hscans] at hnodup
      rcases hscan with hscan | hnext
      · exact (List.nodup_cons.1 hnodup).1 hscan
      · exact (hnumbered.unused scan hnext).1 hmem
  | halt _ => exact hsame fun _ => id

/-- **A worker that is safe stays so**, once the device has been revoked. -/
theorem Safe.step (h : thread.Step parser writer active fresh thread')
    (hrevoked : ¬ active userId deviceId) (hsafe : thread.Safe userId deviceId) :
    thread'.Safe userId deviceId := by
  cases h with
  | verify _ user device hactive =>
    refine ⟨hsafe.clear, fun heq => ?_⟩
    obtain ⟨rfl, rfl⟩ := Prod.mk.inj (Option.some.inj heq)
    exact hrevoked hactive
  | @register who haccepting _ _ _ _ _ =>
    refine ⟨clear_step hsafe.clear ?_, nofun⟩
    rintro ⟨_, _, _, _, _, heq, huser, hdevice⟩
    cases heq
    rw [huser, hdevice] at haccepting
    exact hsafe.accepting haccepting
  | abandon => exact ⟨hsafe.clear, nofun⟩
  | socket _ _ _ _ _ =>
    exact ⟨clear_step hsafe.clear (by rintro ⟨_, _, _, _, _, ⟨⟩, _⟩), hsafe.accepting⟩
  | timer _ _ _ _ _ =>
    exact ⟨clear_step hsafe.clear (by rintro ⟨_, _, _, _, _, ⟨⟩, _⟩), hsafe.accepting⟩
  | run _ _ hruns _ => exact ⟨clear_step hsafe.clear hruns.not_admits, hsafe.accepting⟩
  | halt _ => exact ⟨hsafe.clear, hsafe.accepting⟩

/-- **A promise is kept** by what the worker does. -/
theorem Pending.step (h : thread.Step parser writer active fresh thread')
    (hrevoked : ¬ active userId deviceId) (hnumbered : thread.Numbered next)
    (hpending : thread.Pending scan userId deviceId) : thread'.Promised scan userId deviceId := by
  have hnot {event : Uuid × Uuid} (hactive : active event.1 event.2) :
      some event ≠ some (userId, deviceId) := by
    rintro ⟨⟩
    exact hrevoked hactive
  cases hpending with
  | queued hqueued =>
    have hscan : scan ∈ thread.scans := List.mem_filterMap.2 ⟨_, hqueued, rfl⟩
    have habsent : Absent thread.state scan := hnumbered.queued scan hscan
    cases h with
    | @run hready task tasks htasks input hruns hadmits =>
      rw [htasks] at hqueued
      rcases List.mem_cons.1 hqueued with rfl | hqueued
      · cases hruns with
        | revocation _ _ _ order io =>
          have haccepting : thread.accepting ≠ some (userId, deviceId) := by
            rw [hready.accepting]
            exact nofun
          rcases scan_runRevocation habsent hadmits io with hwaiting | hclear
          · exact .inl (.waiting hwaiting haccepting)
          · exact .inr ⟨hclear, haccepting⟩
      · exact .inl (.queued hqueued)
    | halt _ => exact .inl (.ended rfl habsent.2)
    | _ => exact .inl (.queued hqueued)
  | waiting hwaiting haccepting =>
    have hscan : scan ∉ thread.scans :=
      fun hscan => hwaiting.not_absent (hnumbered.queued scan hscan)
    -- The step of the worker either leaves the promise waiting or clears the worker.
    have hstep {input : WorkerInput} (hinput : input.scan? ≠ some scan)
        (hadmits : ¬ input.Admits userId deviceId) {tasks : List WorkerTask}
        {accepting : Option (Uuid × Uuid)} (haccepting : accepting ≠ some (userId, deviceId)) :
        Promised { thread with
          state := thread.state.step parser writer input, tasks := tasks, accepting := accepting }
          scan userId deviceId := by
      have hstep : Waiting (thread.state.step parser writer input) scan userId deviceId ∨
          Clear (thread.state.step parser writer input) userId deviceId :=
        waiting_step hwaiting hinput hadmits
      rcases hstep with hwaiting | hclear
      · exact .inl (.waiting hwaiting haccepting)
      · exact .inr ⟨hclear, haccepting⟩
    cases h with
    | verify _ user device hactive => exact .inl (.waiting hwaiting (hnot hactive))
    | @register who hregistering _ _ _ _ _ =>
      refine hstep (by nofun) ?_ (by nofun)
      rintro ⟨_, _, _, _, _, heq, huser, hdevice⟩
      cases heq
      rw [huser, hdevice] at hregistering
      exact haccepting hregistering
    | abandon => exact .inl (.waiting hwaiting nofun)
    | socket _ _ _ _ _ => exact hstep (by nofun) (by rintro ⟨_, _, _, _, _, ⟨⟩, _⟩) haccepting
    | timer _ _ _ _ _ => exact hstep (by nofun) (by rintro ⟨_, _, _, _, _, ⟨⟩, _⟩) haccepting
    | @run _ task tasks htasks input hruns _ =>
      refine hstep ?_ hruns.not_admits haccepting
      rw [hruns.scan?]
      intro htask
      refine hscan (List.mem_filterMap.2 ⟨task, ?_, htask⟩)
      rw [htasks]
      exact List.mem_cons_self
    | halt _ => exact .inl (.waiting hwaiting haccepting)
  | ended hover hopen =>
    have hbusy {goal : Prop} (hready : thread.Ready) : goal :=
      absurd (hready.running.symm.trans hover) nofun
    cases h with
    | verify hready _ _ _ => exact hbusy hready
    | @register who _ _ fd inputBuffer now addOk =>
      refine .inl (.ended hover ?_)
      rw [WebsocketWorker.step, (register_promises thread.state fd who inputBuffer now addOk).2.2]
      exact hopen
    | abandon => exact .inl (.ended hover hopen)
    | socket hready _ _ _ _ => exact hbusy hready
    | timer hready _ _ _ _ => exact hbusy hready
    | run hready _ _ _ => exact hbusy hready
    | halt _ => exact .inl (.ended rfl hopen)

theorem Promised.step (h : thread.Step parser writer active fresh thread')
    (hrevoked : ¬ active userId deviceId) (hnumbered : thread.Numbered next)
    (hpromised : thread.Promised scan userId deviceId) : thread'.Promised scan userId deviceId := by
  rcases hpromised with hpending | hsafe
  · exact hpending.step h hrevoked hnumbered
  · exact .inr (hsafe.step h hrevoked)

/-- The worker is safe when the promise has its value. -/
theorem Promised.safe (h : thread.Promised scan userId deviceId) (hnumbered : thread.Numbered next)
    (hfulfilled : scan ∈ thread.state.fulfilled) : thread.Safe userId deviceId := by
  rcases h with hpending | hsafe
  · cases hpending with
    | queued hqueued =>
      exact absurd hfulfilled (hnumbered.queued scan (List.mem_filterMap.2 ⟨_, hqueued, rfl⟩)).2
    | waiting hwaiting _ =>
      obtain ⟨_, -, -, -, -, hopen⟩ := hwaiting
      exact absurd hfulfilled hopen
    | ended _ hopen => exact absurd hfulfilled hopen
  · exact hsafe

/-- A worker is destroyed. -/
theorem Numbered.destroy (h : thread.Numbered next) : thread.destroy.Numbered next :=
  h.of_sublist (List.nil_sublist _) fun _ _ => id

theorem Promised.destroy (h : thread.Promised scan userId deviceId) (hnumbered : thread.Numbered next)
    (hhalted : thread.running = false) : thread.destroy.Promised scan userId deviceId := by
  rcases h with hpending | hsafe
  · cases hpending with
    | queued hqueued =>
      have hscan : scan ∈ thread.scans := List.mem_filterMap.2 ⟨_, hqueued, rfl⟩
      exact .inl (.ended hhalted (hnumbered.queued scan hscan).2)
    | waiting hwaiting haccepting => exact .inl (.waiting hwaiting haccepting)
    | ended hover hopen => exact .inl (.ended hover hopen)
  · exact .inr ⟨hsafe.clear, hsafe.accepting⟩

/-- One more task does not matter. -/
theorem Promised.enqueue (h : thread.Promised scan userId deviceId) (task : WorkerTask) :
    (thread.enqueue task).Promised scan userId deviceId := by
  rcases h with hpending | hsafe
  · cases hpending with
    | queued hqueued => exact .inl (.queued (List.mem_append_left _ hqueued))
    | waiting hwaiting haccepting => exact .inl (.waiting hwaiting haccepting)
    | ended hover hopen => exact .inl (.ended hover hopen)
  · exact .inr ⟨hsafe.clear, hsafe.accepting⟩

theorem Numbered.enqueue (h : thread.Numbered next) {task : WorkerTask} (htask : task.scan? = none) :
    (thread.enqueue task).Numbered next := by
  have hscans : (thread.enqueue task).scans = thread.scans := by
    rw [scans, WorkerThread.enqueue, List.filterMap_append]
    simp [htask, scans]
  exact h.of_sublist (hscans ▸ .refl _) fun _ _ => id

theorem Numbered.mono (h : thread.Numbered next) : thread.Numbered (next + 1) :=
  ⟨h.nodup, h.queued, fun scan hscan => h.unused scan (Nat.le_of_succ_le hscan)⟩

/-- A scan with the next number. -/
theorem Numbered.enqueue_revocation (h : thread.Numbered next) (userId deviceId : Uuid) :
    (thread.enqueue (.revocation next userId deviceId)).Numbered (next + 1) := by
  have hscans : (thread.enqueue (.revocation next userId deviceId)).scans = thread.scans ++ [next] := by
    rw [scans, WorkerThread.enqueue, List.filterMap_append]
    rfl
  obtain ⟨hnot, habsent⟩ := h.unused next le_rfl
  refine ⟨?_, ?_, ?_⟩
  · rw [hscans]
    exact List.nodup_append_comm.1 (List.nodup_cons.2 ⟨hnot, h.nodup⟩)
  · intro scan hscan
    rw [hscans, List.mem_append, List.mem_singleton] at hscan
    rcases hscan with hscan | rfl
    · exact h.queued scan hscan
    · exact habsent
  · intro scan hscan
    obtain ⟨hnot', habsent'⟩ := h.unused scan (Nat.le_of_succ_le hscan)
    refine ⟨?_, habsent'⟩
    rw [hscans, List.mem_append, List.mem_singleton, not_or]
    exact ⟨hnot', (Nat.lt_of_succ_le hscan).ne'⟩

end WorkerThread

/-! ### The pool -/

variable {n : ℕ} {pool pool' : WebSocketPool n} {call call' : CloseCall n}

namespace WebSocketPool

/-- Scans are run once, by any worker. -/
def Numbered (pool : WebSocketPool n) : Prop :=
  ∀ i, (pool.workers i).Numbered pool.nextScan

/-- **What has been promised of a device stays so.** -/
structure Advances (pool pool' : WebSocketPool n) (userId deviceId : Uuid) : Prop where
  safe : ∀ i, (pool.workers i).Safe userId deviceId → (pool'.workers i).Safe userId deviceId
  promised : ∀ i scan, (pool.workers i).Promised scan userId deviceId →
    (pool'.workers i).Promised scan userId deviceId

/-- Only one of the threads matters. -/
theorem Advances.setThread {i : Fin n} {thread : WorkerThread}
    (hsafe : (pool.workers i).Safe userId deviceId → thread.Safe userId deviceId)
    (hpromised : ∀ scan, (pool.workers i).Promised scan userId deviceId →
      thread.Promised scan userId deviceId) :
    pool.Advances (pool.setThread i thread) userId deviceId where
  safe j h := by
    by_cases hj : j = i
    · subst hj
      rw [workers_setThread, update_self]
      exact hsafe h
    · rwa [workers_setThread, update_of_ne hj]
  promised j scan h := by
    by_cases hj : j = i
    · subst hj
      rw [workers_setThread, update_self]
      exact hpromised scan h
    · rwa [workers_setThread, update_of_ne hj]

theorem Numbered.setThread (h : pool.Numbered) {i : Fin n} {thread : WorkerThread}
    (hthread : thread.Numbered pool.nextScan) : (pool.setThread i thread).Numbered := by
  intro j
  by_cases hj : j = i
  · subst hj
    rw [workers_setThread, update_self]
    exact hthread
  · rw [workers_setThread, update_of_ne hj]
    exact h j

theorem Advances.of_eq (h : pool'.workers = pool.workers) :
    pool.Advances pool' userId deviceId where
  safe _ hsafe := h ▸ hsafe
  promised _ _ hpromised := h ▸ hpromised

theorem Advances.enqueue (pool : WebSocketPool n) (i : Fin n) (task : WorkerTask) :
    pool.Advances (pool.enqueue i task) userId deviceId :=
  .setThread (fun h => ⟨h.clear, h.accepting⟩) fun _ h => h.enqueue task

theorem Numbered.enqueue (h : pool.Numbered) (i : Fin n) {task : WorkerTask}
    (htask : task.scan? = none) : (pool.enqueue i task).Numbered :=
  h.setThread ((h i).enqueue htask)

/-- The scan of a call is queued. -/
theorem Numbered.enqueue_revocation (h : pool.Numbered) (i : Fin n) (userId deviceId : Uuid) :
    WebSocketPool.Numbered { pool.enqueue i (.revocation pool.nextScan userId deviceId) with
      nextScan := pool.nextScan + 1 } := by
  intro j
  by_cases hj : j = i
  · subst hj
    simp only [workers_enqueue, update_self]
    exact (h j).enqueue_revocation userId deviceId
  · simp only [workers_enqueue, update_of_ne hj]
    exact (h j).mono

/-- The calls of a worker to the pool put at most a push in a queue. -/
theorem execute_cases (pool : WebSocketPool n) (i : Fin n) (poolCall : PoolCall) :
    (∃ directory newest,
      pool.execute i poolCall = { pool with directory := directory, newest := newest }) ∨
      ∃ j task, pool.execute i poolCall = pool.enqueue j (.push task) := by
  cases poolCall with
  | addIndex deviceId userId fd sessionId =>
    rw [execute, addIndex]
    split
    · exact .inl ⟨pool.directory, pool.newest, rfl⟩
    · exact .inl ⟨_, _, rfl⟩
  | removeIndex deviceId fd sessionId =>
    rw [execute, removeIndex]
    split
    · exact .inl ⟨pool.directory, pool.newest, rfl⟩
    · split
      · exact .inl ⟨_, _, rfl⟩
      · exact .inl ⟨pool.directory, pool.newest, rfl⟩
  | pushToDevice deviceId message =>
    rw [execute, pushToDevice]
    split
    · exact .inl ⟨pool.directory, pool.newest, rfl⟩
    · split
      · exact .inl ⟨pool.directory, pool.newest, rfl⟩
      · exact .inr ⟨_, _, rfl⟩

end WebSocketPool

open WebSocketPool (Numbered Advances)

/-! ### Calls of `closeSession` -/

/-- **What a call has achieved**, by phases: while nothing has gone wrong, each of the workers that it
is done with is safe when a promise that it has yet to look at has its value, or is safe. -/
def CloseCall.Stands (pool : WebSocketPool n) (call : CloseCall n) : Prop :=
  match call.phase with
  | .queueing workers completions allQueued => allQueued = true → ∀ i, i ∈ workers ∨
      ∃ scan, (i, scan) ∈ completions ∧
        (pool.workers i).Promised scan call.userId call.deviceId
  | .waiting completions allQueued => allQueued = true → ∀ i,
      (∃ scan, (i, scan) ∈ completions ∧
        (pool.workers i).Promised scan call.userId call.deviceId) ∨
      (pool.workers i).Safe call.userId call.deviceId
  | .returned result => result = true → ∀ i, (pool.workers i).Safe call.userId call.deviceId

theorem CloseCall.Stands.advances (h : call.Stands pool)
    (hadvances : pool.Advances pool' call.userId call.deviceId) : call.Stands pool' := by
  unfold CloseCall.Stands at h ⊢
  split at h
  · intro hqueued i
    rcases h hqueued i with hmem | ⟨scan, hmem, hpromised⟩
    · exact .inl hmem
    · exact .inr ⟨scan, hmem, hadvances.promised i scan hpromised⟩
  · intro hqueued i
    rcases h hqueued i with ⟨scan, hmem, hpromised⟩ | hsafe
    · exact .inl ⟨scan, hmem, hadvances.promised i scan hpromised⟩
    · exact .inr (hadvances.safe i hsafe)
  · exact fun hresult i => hadvances.safe i (h hresult i)

/-- A call leaves the sessions alone, and numbers what it queues. -/
theorem CloseCall.Step.advances (h : call.Step pool pool' call') (hnumbered : pool.Numbered)
    (userId deviceId : Uuid) : pool'.Numbered ∧ pool.Advances pool' userId deviceId ∧
      pool'.revoked = pool.revoked ∧ pool'.closeCalls = pool.closeCalls := by
  have hqueue (i : Fin n) (user device : Uuid) :
      WebSocketPool.Numbered { pool.enqueue i (.revocation pool.nextScan user device) with
          nextScan := pool.nextScan + 1 } ∧
        pool.Advances { pool.enqueue i (.revocation pool.nextScan user device) with
          nextScan := pool.nextScan + 1 } userId deviceId := by
    have hadvances : pool.Advances (pool.enqueue i (.revocation pool.nextScan user device))
        userId deviceId := .enqueue pool i _
    exact ⟨hnumbered.enqueue_revocation i user device, hadvances.safe, hadvances.promised⟩
  cases h with
  | @queue i _ _ _ _ =>
    obtain ⟨hnumbered', hadvances⟩ := hqueue i call.userId call.deviceId
    exact ⟨hnumbered', hadvances, rfl, rfl⟩
  | @queueFailed i _ _ _ _ queued =>
    obtain ⟨hnumbered', hadvances⟩ := hqueue i call.userId call.deviceId
    split
    · exact ⟨hnumbered', hadvances, rfl, rfl⟩
    · exact ⟨hnumbered, .of_eq rfl, rfl, rfl⟩
  | _ => exact ⟨hnumbered, .of_eq rfl, rfl, rfl⟩

/-- **A call keeps what it has achieved**, and waits for each of the promises. -/
theorem CloseCall.Stands.step (hstands : call.Stands pool) (hnumbered : pool.Numbered)
    (h : call.Step pool pool' call') : call'.Stands pool' := by
  have hadvances : pool.Advances pool' call.userId call.deviceId :=
    (h.advances hnumbered call.userId call.deviceId).2.1
  unfold CloseCall.Stands at hstands
  cases h with
  | @queue i workers completions allQueued hphase =>
    rw [hphase] at hstands
    intro hqueued j
    rcases hstands hqueued j with hmem | ⟨scan, hmem, hpromised⟩
    · rcases List.mem_cons.1 hmem with rfl | hmem
      · refine .inr ⟨pool.nextScan, by simp, .inl (.queued ?_)⟩
        simp only [WebSocketPool.workers_enqueue, update_self]
        exact List.mem_append_right _ (List.mem_singleton.2 rfl)
      · exact .inl hmem
    · exact .inr ⟨scan, List.mem_append_left _ hmem, hadvances.promised j scan hpromised⟩
  | queueFailed => exact nofun
  | queued hphase =>
    rw [hphase] at hstands
    intro hqueued j
    rcases hstands hqueued j with hmem | hpromised
    · cases hmem
    · exact .inl hpromised
  | @ready i scan completions allQueued hphase hfulfilled =>
    rw [hphase] at hstands
    intro hqueued j
    rcases hstands hqueued j with ⟨scan', hmem, hpromised⟩ | hsafe
    · rcases List.mem_cons.1 hmem with heq | hmem
      · obtain ⟨rfl, rfl⟩ := Prod.mk.inj heq
        exact .inr (hpromised.safe (hnumbered j) hfulfilled)
      · exact .inl ⟨scan', hmem, hpromised⟩
    · exact .inr hsafe
  | late => exact nofun
  | done hphase =>
    rw [hphase] at hstands
    intro hqueued j
    rcases hstands hqueued j with ⟨scan, hmem, -⟩ | hsafe
    · cases hmem
    · exact hsafe

/-! ### Runs of the pool -/

namespace WebSocketPool

theorem Step.numbered (h : pool.Step parser writer pool') (hnumbered : pool.Numbered) :
    pool'.Numbered := by
  cases h with
  | thread i h => exact hnumbered.setThread ((hnumbered i).step h)
  | commit _ _ => exact hnumbered
  | reply i _ _ _ => exact hnumbered.enqueue i rfl
  | @call i poolCall _ =>
    have hexecute : (pool.execute i poolCall).Numbered := by
      rcases pool.execute_cases i poolCall with ⟨_, _, heq⟩ | ⟨j, task, heq⟩
      · rw [heq]
        exact hnumbered
      · rw [heq]
        exact hnumbered.enqueue j rfl
    exact hexecute.setThread ((hexecute i).of_sublist (.refl _) fun _ _ => id)
  | @pushToUser _ _ _ _ connection _ _ => exact hnumbered.enqueue connection.workerId rfl
  | enqueueCloseSession i _ _ _ => exact hnumbered.enqueue i rfl
  | closeSession _ _ => exact hnumbered
  | @closeCall pool₁ _ _ call _ _ h => exact (h.advances hnumbered call.userId call.deviceId).1
  | close => exact hnumbered
  | destroy _ i _ => exact hnumbered.setThread (hnumbered i).destroy

/-- What the database has committed stays. -/
theorem Step.revoked (h : pool.Step parser writer pool') (hnumbered : pool.Numbered) :
    pool.revoked ⊆ pool'.revoked := by
  cases h with
  | commit _ _ => exact List.subset_cons_self _ _
  | @call i poolCall _ =>
    rcases pool.execute_cases i poolCall with ⟨_, _, heq⟩ | ⟨_, _, heq⟩
    · rw [heq]
      exact List.Subset.refl _
    · rw [heq]
      exact List.Subset.refl _
  | @closeCall _ _ _ call _ _ h =>
    exact (h.advances hnumbered call.userId call.deviceId).2.2.1 ▸ List.Subset.refl _
  | _ => exact List.Subset.refl _

/-- **No step of the pool breaks a promise** about a device that has been revoked. -/
theorem Step.advances (h : pool.Step parser writer pool') (hnumbered : pool.Numbered)
    (hrevoked : (userId, deviceId) ∈ pool.revoked) : pool.Advances pool' userId deviceId := by
  cases h with
  | thread i h =>
    have hinactive : ¬ pool.Active userId deviceId := not_not.2 hrevoked
    exact .setThread (fun hsafe => hsafe.step h hinactive)
      fun _ hpromised => hpromised.step h hinactive (hnumbered i)
  | commit _ _ => exact .of_eq rfl
  | reply i _ _ _ => exact .enqueue pool i _
  | @call i poolCall _ =>
    have hexecute : pool.Advances (pool.execute i poolCall) userId deviceId := by
      rcases pool.execute_cases i poolCall with ⟨_, _, heq⟩ | ⟨j, task, heq⟩
      · rw [heq]
        exact .of_eq rfl
      · rw [heq]
        exact .enqueue pool j _
    have hadvance : (pool.execute i poolCall).Advances ((pool.execute i poolCall).advance i)
        userId deviceId := by
      refine .setThread (fun hsafe => ⟨hsafe.clear, hsafe.accepting⟩) fun scan hpromised => ?_
      rcases hpromised with hpending | hsafe
      · cases hpending with
        | queued hqueued => exact .inl (.queued hqueued)
        | waiting hwaiting haccepting => exact .inl (.waiting hwaiting haccepting)
        | ended hover hopen => exact .inl (.ended hover hopen)
      · exact .inr ⟨hsafe.clear, hsafe.accepting⟩
    exact ⟨fun j hsafe => hadvance.safe j (hexecute.safe j hsafe),
      fun j scan hpromised => hadvance.promised j scan (hexecute.promised j scan hpromised)⟩
  | @pushToUser _ _ _ _ connection _ _ => exact .enqueue pool connection.workerId _
  | enqueueCloseSession i _ _ _ => exact .enqueue pool i _
  | closeSession _ _ => exact .of_eq rfl
  | closeCall _ h =>
    obtain ⟨-, hadvances, -⟩ := h.advances hnumbered userId deviceId
    exact ⟨hadvances.safe, hadvances.promised⟩
  | close => exact .of_eq rfl
  | destroy _ i hhalted =>
    exact .setThread (fun hsafe => ⟨hsafe.clear, hsafe.accepting⟩)
      fun _ hpromised => hpromised.destroy (hnumbered i) hhalted

/-- **Calls of `closeSession` for devices that had been revoked** stand. -/
structure Stands (pool : WebSocketPool n) : Prop where
  numbered : pool.Numbered
  stands : ∀ call ∈ pool.closeCalls, call.committed = true →
    (call.userId, call.deviceId) ∈ pool.revoked ∧ call.Stands pool

theorem stands_start : (WebSocketPool.start n).Stands where
  numbered _ := ⟨List.nodup_nil, nofun, fun _ _ => ⟨nofun, fun _ => nofun, nofun⟩⟩
  stands := nofun

theorem Stands.step (hstands : pool.Stands) (h : pool.Step parser writer pool') : pool'.Stands := by
  refine ⟨h.numbered hstands.numbered, ?_⟩
  -- A call that is what it was still stands.
  have hold : ∀ call ∈ pool.closeCalls, call.committed = true →
      (call.userId, call.deviceId) ∈ pool'.revoked ∧ call.Stands pool' := by
    intro call hcall hcommitted
    obtain ⟨hrevoked, hcall⟩ := hstands.stands call hcall hcommitted
    exact ⟨h.revoked hstands.numbered hrevoked,
      hcall.advances (h.advances hstands.numbered hrevoked)⟩
  cases h with
  | thread _ _ => exact hold
  | commit _ _ => exact hold
  | reply _ _ _ _ => exact hold
  | @call i poolCall _ =>
    have hcalls : ((pool.execute i poolCall).advance i).closeCalls = pool.closeCalls := by
      rcases pool.execute_cases i poolCall with ⟨_, _, heq⟩ | ⟨_, _, heq⟩
      · rw [heq]
        rfl
      · rw [heq]
        rfl
    rw [hcalls]
    exact hold
  | pushToUser _ _ _ _ _ => exact hold
  | enqueueCloseSession _ _ _ _ => exact hold
  | closeSession userId deviceId =>
    intro call hcall hcommitted
    rcases List.mem_append.1 hcall with hcall | hnew
    · exact hold call hcall hcommitted
    · obtain rfl := List.mem_singleton.1 hnew
      refine ⟨of_decide_eq_true hcommitted, ?_⟩
      unfold CloseCall.Stands
      by_cases hstopping : pool.stopping = true
      · simp [hstopping]
      · simp [hstopping]
  | @closeCall pool₁ before after call call' hcalls h =>
    intro other hother hcommitted
    rw [List.mem_append, List.mem_cons] at hother
    have hmem {other : CloseCall n} (hother : other ∈ before ∨ other = call ∨ other ∈ after) :
        other ∈ pool.closeCalls := by
      rw [hcalls, List.mem_append, List.mem_cons]
      exact hother
    rcases hother with hother | rfl | hother
    · exact hold other (hmem (.inl hother)) hcommitted
    · have hsame : other.userId = call.userId ∧ other.deviceId = call.deviceId ∧
          other.committed = call.committed := by
        cases h <;> exact ⟨rfl, rfl, rfl⟩
      obtain ⟨huser, hdevice, hcommitted'⟩ := hsame
      obtain ⟨hrevoked, hcall⟩ :=
        hstands.stands call (hmem (.inr (.inl rfl))) (hcommitted'.symm.trans hcommitted)
      refine ⟨?_, ?_⟩
      · rw [huser, hdevice]
        exact (hold call (hmem (.inr (.inl rfl))) (hcommitted'.symm.trans hcommitted)).1
      · have hstep : other.Stands pool₁ := hcall.step hstands.numbered h
        exact hstep.advances (.of_eq rfl)
    · exact hold other (hmem (.inr (.inr hother))) hcommitted
  | close => exact hold
  | destroy _ _ _ => exact hold

theorem Reaches.stands (h : pool.Reaches parser writer) : pool.Stands := by
  induction h with
  | refl => exact stands_start
  | tail _ hstep ih => exact ih.step hstep

/-- A device that is off stays off. -/
theorem Steps.safe (h : Steps parser writer pool pool') (hnumbered : pool.Numbered)
    (hrevoked : (userId, deviceId) ∈ pool.revoked)
    (hsafe : ∀ i, (pool.workers i).Safe userId deviceId) :
    ∀ i, (pool'.workers i).Safe userId deviceId := by
  have hall : pool'.Numbered ∧ (userId, deviceId) ∈ pool'.revoked ∧
      ∀ i, (pool'.workers i).Safe userId deviceId := by
    induction h with
    | refl => exact ⟨hnumbered, hrevoked, hsafe⟩
    | tail _ hstep ih =>
      obtain ⟨hnumbered, hrevoked, hsafe⟩ := ih
      exact ⟨hstep.numbered hnumbered, hstep.revoked hnumbered hrevoked,
        fun i => (hstep.advances hnumbered hrevoked).safe i (hsafe i)⟩
  exact hall.2.2

end WebSocketPool

/-- **Confirmed closure is real**: if a call of `closeSession` for a device whose revocation had been
committed before has returned `true`, no worker has a session of the device, then or ever after. -/
theorem closure_is_real (hpool : pool.Reaches parser writer) (hcall : call ∈ pool.closeCalls)
    (hcommitted : call.committed = true) (hreturned : call.phase = .returned true)
    (hsteps : WebSocketPool.Steps parser writer pool pool') (i : Fin n) (fd : Fd)
    {session : WebSocketSession} (hsession : (pool'.workers i).sessions fd = some session) :
    ¬ (session.userId = call.userId ∧ session.deviceId = call.deviceId) := by
  obtain ⟨hrevoked, hstands⟩ := hpool.stands.stands call hcall hcommitted
  unfold CloseCall.Stands at hstands
  rw [hreturned] at hstands
  have hsafe := hsteps.safe hpool.stands.numbered hrevoked (hstands rfl) i
  refine hsafe.clear fd session ?_
  rw [WorkerThread.sessions] at hsession
  split at hsession
  · cases hsession
  · exact hsession

namespace Sample

/-- The identity of a session of device 4 of user 3. -/
def racer : Identity := ⟨2, 3, 4⟩

/-- The worker gets to the scan. -/
def scanned (pool : WebSocketPool 1) (order : List Fd) : WebSocketPool 1 :=
  pool.setThread 0
    { pool.workers 0 with
      state := (pool.workers 0).state.step objectParser noWriter
        (.revocation 0 3 4 order fun _ => ⟨0, true, [.accepted 18 (by decide)]⟩)
      tasks := [] }

/-- The revocation of device 4 has been committed, and a call of `closeSession` is under way. -/
def called (pool : WebSocketPool 1) (phase : ClosePhase 1) : WebSocketPool 1 :=
  { pool with revoked := [(3, 4)], closeCalls := [⟨3, 4, true, phase⟩] }

/-- Device 2 is online, and device 4 has passed the check. -/
def raced : WebSocketPool 1 := verified online racer

/-- The scan for device 4 is queued. -/
def overtaken : WebSocketPool 1 :=
  { raced.enqueue 0 (.revocation 0 3 4) with nextScan := 1 }

/-- The worker goes on with the handshake, and then runs the scan. -/
def cleared : WebSocketPool 1 := scanned (joined overtaken 8 racer) [7, 8]

theorem reaches_raced : raced.Reaches objectParser noWriter :=
  (reaches_online _ _).tail (.thread 0 (.verify ⟨rfl, rfl, rfl⟩ 3 4 List.not_mem_nil))

/-- A call of `closeSession` that is the only one goes on. -/
theorem called_step {pool pool' : WebSocketPool 1} {phase phase' : ClosePhase 1}
    (h : CloseCall.Step (called pool phase) ⟨3, 4, true, phase⟩ (called pool' phase)
      ⟨3, 4, true, phase'⟩) :
    (called pool phase).Step objectParser noWriter (called pool' phase') :=
  .closeCall (List.nil_append _).symm h

theorem reaches_cleared :
    (called cleared (.waiting [(0, 0)] true)).Reaches objectParser noWriter := by
  have hcall : (called raced (.queueing [0] [] true)).Reaches objectParser noWriter :=
    (reaches_raced.tail (.commit 3 4)).tail (.closeSession 3 4)
  have hqueued : (called overtaken (.waiting [(0, 0)] true)).Reaches objectParser noWriter :=
    (hcall.tail (called_step
      (@CloseCall.Step.queue 1 _ ⟨3, 4, true, .queueing [0] [] true⟩ 0 [] [] true rfl))).tail
        (called_step (.queued rfl))
  have hfresh : (called overtaken (.waiting [(0, 0)] true)).Fresh 2 := by
    intro i
    rw [Subsingleton.elim i 0]
    decide +kernel
  have hjoined : (called (joined overtaken 8 racer) (.waiting [(0, 0)] true)).Reaches
      objectParser noWriter :=
    (hqueued.tail (.thread 0 (@WorkerThread.Step.register _ _ _ _ _ racer rfl hfresh 8 [] 0 true))).tail
      (@WebSocketPool.Step.call 1 _ _ _ 0 (.addIndex 4 3 8 2) rfl)
  have henumerates : ((called (joined overtaken 8 racer) (.waiting [(0, 0)] true)).workers
      0).state.Enumerates [7, 8] := by
    refine ⟨by decide, fun fd => ?_⟩
    rw [List.mem_cons, List.mem_singleton]
    have hsessions : ((called (joined overtaken 8 racer) (.waiting [(0, 0)] true)).workers
        0).state.sessions = update (update (fun _ => none) 7
          (some ⟨1, 1, 2, ⟨[], []⟩, 0, 0, false, false⟩)) 8
            (some ⟨2, 3, 4, ⟨[], []⟩, 0, 0, false, false⟩) := rfl
    rw [hsessions, Function.update_apply, Function.update_apply]
    by_cases h8 : fd = 8
    · simp [h8]
    · by_cases h7 : fd = 7
      · simp [h7]
      · simp [h7, h8]
  exact hjoined.tail (.thread 0 (.run ⟨rfl, rfl, rfl⟩ rfl (.revocation 0 3 4 [7, 8] _) henumerates))

/-- The call returns. -/
theorem reaches_closed : (called cleared (.returned true)).Reaches objectParser noWriter := by
  have hfulfilled : 0 ∈ ((called cleared (.waiting [(0, 0)] true)).workers 0).state.fulfilled := by
    decide +kernel
  exact (reaches_cleared.tail (called_step (.ready rfl hfulfilled))).tail (called_step (.done rfl))

end Sample

/-- A handshake of device 4 has passed the check when its revocation is committed; its session is
registered and removed, and that of device 2 stays. -/
theorem closure_is_real_raced : ((Sample.called Sample.cleared (.returned true)).workers 0).sessions 7 =
    some ⟨1, 1, 2, ⟨[], []⟩, 0, 0, false, false⟩ ∧
      ¬ (Sample.who.userId = Sample.racer.userId ∧ Sample.who.deviceId = Sample.racer.deviceId) := by
  have hsession : ((Sample.called Sample.cleared (.returned true)).workers 0).sessions 7 =
      some ⟨1, 1, 2, ⟨[], []⟩, 0, 0, false, false⟩ := by
    decide +kernel
  exact ⟨hsession, closure_is_real Sample.reaches_closed (List.mem_singleton.2 rfl) rfl rfl
    Relation.ReflTransGen.refl 0 7 hsession⟩

end ChatBackend
