import ChatBackend.Descriptors
import Mathlib.Data.Finset.Sort

/-!
# The thread pool

`src/server/ThreadPool.cpp`: the accept loop queues connections, a worker takes one, registers its
number in `active_fds_`, handles it, unregisters it and closes it. `requestStop` shuts down the
registered numbers. Around the pool are the WebSocket pool that upgraded connections go to, and
everybody else who opens and closes descriptors of the process; the kernel gives a number that has
been closed to whoever opens the next one.

A step is one critical section, or what happens between two of them.

## Main definitions

* `Owner` — who owns a descriptor
* `WorkerPhase` — where a worker is in its loop
* `ThreadPool`, `ThreadPool.step`
* `ThreadPool.Exact` — what `requestStop` would interrupt
* `ThreadPool.Careful` — the steps that are in order

## Main results

* `interrupts_exactly_iff`
-/

namespace ChatBackend

open Function (update)
open Descriptors (Backs)

/-! ### The state -/

/-- Who owns an open descriptor: the local variable of the accept loop, the queue, an HTTP worker, the
WebSocket pool with its workers, or anybody else in the process. -/
inductive Owner (ι : Type) where
  | acceptLoop
  | taskQueue
  | httpWorker (i : ι)
  | webSocketPool
  | other
  deriving DecidableEq

/-- Where a worker is in the loop of `worker`, with its `rawFd`. -/
inductive WorkerPhase where
  /-- Waiting for a connection. -/
  | waiting
  /-- It has taken one, and is making its session. -/
  | prepared (rawFd : ℕ)
  /-- It has registered the number, and is inside `HandleHttpSession`. -/
  | handling (rawFd : ℕ)
  /-- `HandleHttpSession` has thrown, or returned nothing. -/
  | returned (rawFd : ℕ)
  /-- `HandleHttpSession` has returned a connection to hand on. -/
  | upgraded (rawFd : ℕ)
  /-- `forward_connections` has returned. -/
  | forwarded (rawFd : ℕ) (accepted : Bool)
  /-- The number has been erased once; `result` is still there. -/
  | unregistered (rawFd : ℕ) (accepted : Bool)
  /-- `result` is gone, and the number will be erased once more. -/
  | handedOff (rawFd : ℕ)
  /-- The number has been erased, and the session will be destroyed. -/
  | closing (rawFd : ℕ)
  deriving DecidableEq

/-- The descriptor that the worker owns in a phase. -/
def WorkerPhase.owned : WorkerPhase → Option ℕ
  | waiting | handedOff _ => none
  | prepared fd | handling fd | returned fd | upgraded fd | closing fd => some fd
  | forwarded fd accepted | unregistered fd accepted => if accepted then none else some fd

/-- The descriptor that the worker owns in a phase after registering and before erasing its number. -/
def WorkerPhase.registered : WorkerPhase → Option ℕ
  | handling fd | returned fd | upgraded fd => some fd
  | forwarded fd accepted => if accepted then none else some fd
  | waiting | prepared _ | unregistered _ _ | handedOff _ | closing _ => none

theorem WorkerPhase.owned_of_registered {phase : WorkerPhase} {fd : ℕ}
    (h : phase.registered = some fd) : phase.owned = some fd := by
  cases phase with
  | forwarded x accepted => exact h
  | handling x => exact h
  | returned x => exact h
  | upgraded x => exact h
  | waiting => cases h
  | prepared x => cases h
  | unregistered x accepted => cases h
  | handedOff x => cases h
  | closing x => cases h

/-- `ThreadPool`, after `init`, with the descriptors of the process. -/
structure ThreadPool (ι : Type) where
  /-- `config_.max_capacity`. -/
  maxCapacity : ℕ
  /-- `task_queue`. -/
  taskQueue : List ℕ := []
  /-- `active_fds_`. -/
  activeFds : Finset ℕ := ∅
  stopping : Bool := false
  /-- The local variable `fd` of `running`. -/
  accepted : Option ℕ := none
  workers : ι → WorkerPhase := fun _ => .waiting
  /-- `forward_connections` would accept: the WebSocket pool is initialized, not stopping, and has
  workers. -/
  forwarding : Bool := true
  /-- The kernel's table. -/
  owner : ℕ → Option (Owner ι) := fun _ => none

/-- What a worker does next. -/
inductive WorkerAction where
  | take
  /-- Making the session throws. -/
  | prepareFails
  | register
  /-- `HandleHttpSession` throws, or returns nothing. -/
  | finish
  /-- `HandleHttpSession` returns a connection. -/
  | upgrade
  /-- `forward_connections`; waking the WebSocket worker up may throw. -/
  | forward (wakeupFails : Bool)
  | unregister
  /-- `result` goes out of scope. -/
  | destroyResult
  /-- The erasure after the inner `try`. -/
  | unregisterAgain
  /-- `session` goes out of scope. -/
  | destroySession
  deriving DecidableEq

/-- What happens next. -/
inductive PoolAction (ι : Type) where
  /-- `acceptConnection` returns a connection. -/
  | accept (fd : ℕ)
  /-- The accept loop queues it, or drops it. -/
  | push
  | requestStop
  | worker (i : ι) (action : WorkerAction)
  /-- A WebSocket worker closes a connection that it has been given. -/
  | closeSession (fd : ℕ)
  /-- The WebSocket pool is initialized or closed. -/
  | setForwarding (forwarding : Bool)
  | openOther (fd : ℕ)
  | closeOther (fd : ℕ)

namespace ThreadPool

variable {ι : Type} [DecidableEq ι] {s s' : ThreadPool ι} {i j : ι} {fd : ℕ}

/-! ### The steps -/

/-- A worker goes to its next phase. -/
def setWorker (s : ThreadPool ι) (i : ι) (phase : WorkerPhase) : ThreadPool ι :=
  { s with workers := update s.workers i phase }

/-- A descriptor is closed, or gets a new owner. -/
def setOwner (s : ThreadPool ι) (fd : ℕ) (owner : Option (Owner ι)) : ThreadPool ι :=
  { s with owner := update s.owner fd owner }

/-- `active_fds_.insert`. -/
def insertFd (s : ThreadPool ι) (fd : ℕ) : ThreadPool ι :=
  { s with activeFds := insert fd s.activeFds }

/-- `active_fds_.erase`. -/
def eraseFd (s : ThreadPool ι) (fd : ℕ) : ThreadPool ι :=
  { s with activeFds := s.activeFds.erase fd }

/-- `task_queue.pop`. -/
def popQueue (s : ThreadPool ι) : ThreadPool ι := { s with taskQueue := s.taskQueue.tail }

/-- `requestStop`, with the descriptors that it shuts down and whose they are. -/
def requestStop (s : ThreadPool ι) : ThreadPool ι × List (ℕ × Option (Owner ι)) :=
  let owner := Descriptors.closeAll s.owner s.taskQueue
  ({ s with stopping := true, taskQueue := [], owner := owner },
    (s.activeFds.sort (· ≤ ·)).map fun fd => (fd, owner fd))

/-- The accept loop, with a new connection. -/
def push (s : ThreadPool ι) (fd : ℕ) : ThreadPool ι :=
  if s.stopping ∨ s.maxCapacity ≤ s.taskQueue.length then
    { s with accepted := none, owner := update s.owner fd none }
  else
    { s with
      accepted := none
      taskQueue := s.taskQueue ++ [fd]
      owner := update s.owner fd (some .taskQueue) }

/-- What a worker does in its phase; `none` if it does something else. -/
def stepWorker (s : ThreadPool ι) (i : ι) (action : WorkerAction) : Option (ThreadPool ι) :=
  match action, s.workers i with
  | .take, .waiting => match s.taskQueue with
    | fd :: _ =>
      if s.stopping then none
      else some ((s.popQueue.setOwner fd (some (.httpWorker i))).setWorker i (.prepared fd))
    | [] => none
  | .prepareFails, .prepared fd => some ((s.setOwner fd none).setWorker i .waiting)
  | .register, .prepared fd =>
    if s.stopping then some ((s.setOwner fd none).setWorker i .waiting)
    else some ((s.insertFd fd).setWorker i (.handling fd))
  | .finish, .handling fd => some (s.setWorker i (.returned fd))
  | .upgrade, .handling fd => some (s.setWorker i (.upgraded fd))
  | .forward wakeupFails, .upgraded fd =>
    if s.forwarding then
      -- the connection is in the queue of a WebSocket worker, also if waking that worker up throws
      some ((s.setOwner fd (some .webSocketPool)).setWorker i
        (if wakeupFails then .handedOff fd else .forwarded fd true))
    else if wakeupFails then none
    else some (s.setWorker i (.forwarded fd false))
  | .unregister, .forwarded fd accepted =>
    some ((s.eraseFd fd).setWorker i (.unregistered fd accepted))
  | .destroyResult, .unregistered fd true => some (s.setWorker i (.handedOff fd))
  | .destroyResult, .unregistered fd false =>
    some ((s.setOwner fd none).setWorker i (.handedOff fd))
  | .unregisterAgain, .returned fd => some ((s.eraseFd fd).setWorker i (.closing fd))
  | .unregisterAgain, .handedOff fd => some ((s.eraseFd fd).setWorker i .waiting)
  | .destroySession, .closing fd => some ((s.setOwner fd none).setWorker i .waiting)
  | _, _ => none

/-- **A step.** The kernel opens any number that is closed. -/
def step (s : ThreadPool ι) : PoolAction ι → Option (ThreadPool ι)
  | .accept fd =>
    if s.owner fd = none ∧ s.accepted = none then
      some { s.setOwner fd (some .acceptLoop) with accepted := some fd }
    else none
  | .push => s.accepted.map s.push
  | .requestStop => some s.requestStop.1
  | .worker i action => s.stepWorker i action
  | .closeSession fd =>
    if s.owner fd = some .webSocketPool then some (s.setOwner fd none) else none
  | .setForwarding forwarding => some { s with forwarding }
  | .openOther fd => if s.owner fd = none then some (s.setOwner fd (some .other)) else none
  | .closeOther fd => if s.owner fd = some .other then some (s.setOwner fd none) else none

/-- A run. -/
def run (s : ThreadPool ι) : List (PoolAction ι) → Option (ThreadPool ι)
  | [] => some s
  | action :: actions => (s.step action).bind fun s' => s'.run actions

/-! ### What a worker can do -/

/-- **The steps of a worker, by what they change.** -/
inductive Moved (s : ThreadPool ι) (i : ι) : WorkerAction → ThreadPool ι → Prop where
  /-- It takes a connection from the queue. -/
  | took {fd : ℕ} {rest : List ℕ} : s.workers i = .waiting → s.taskQueue = fd :: rest →
      Moved s i .take ((s.popQueue.setOwner fd (some (.httpWorker i))).setWorker i (.prepared fd))
  /-- It registers the number. -/
  | registered {fd : ℕ} : s.workers i = .prepared fd → s.stopping = false →
      Moved s i .register ((s.insertFd fd).setWorker i (.handling fd))
  /-- It only goes on. -/
  | continued {action : WorkerAction} {phase : WorkerPhase} :
      phase.owned = (s.workers i).owned → phase.registered = (s.workers i).registered →
      (∀ fd, phase ≠ .handling fd) → Moved s i action (s.setWorker i phase)
  /-- It closes a descriptor that is not registered. -/
  | closed {action : WorkerAction} {fd : ℕ} {phase : WorkerPhase} :
      (s.workers i).owned = some fd → (s.workers i).registered = none →
      phase = .waiting ∨ phase = .handedOff fd →
      Moved s i action ((s.setOwner fd none).setWorker i phase)
  /-- It hands the connection over. -/
  | handedOver {fd : ℕ} {phase : WorkerPhase} (wakeupFails : Bool) :
      s.workers i = .upgraded fd → s.forwarding = true →
      phase = .handedOff fd ∨ phase = .forwarded fd true → Moved s i (.forward wakeupFails)
        ((s.setOwner fd (some .webSocketPool)).setWorker i phase)
  /-- It erases the number of a connection that it still owns. -/
  | unregistered {fd : ℕ} : s.workers i = .returned fd →
      Moved s i .unregisterAgain ((s.eraseFd fd).setWorker i (.closing fd))
  /-- It erases the number after the hand-off. -/
  | unregisteredFirst {fd : ℕ} {accepted : Bool} : s.workers i = .forwarded fd accepted →
      Moved s i .unregister ((s.eraseFd fd).setWorker i (.unregistered fd accepted))
  /-- It erases the number after the hand-off a second time. -/
  | unregisteredAgain {fd : ℕ} : s.workers i = .handedOff fd →
      Moved s i .unregisterAgain ((s.eraseFd fd).setWorker i .waiting)

theorem moved_of_stepWorker {action : WorkerAction} (hs : s.stepWorker i action = some s') :
    Moved s i action s' := by
  unfold stepWorker at hs
  split at hs
  · next hphase =>
    split at hs
    · next hqueue =>
      split_ifs at hs
      obtain rfl := Option.some.inj hs
      exact .took hphase hqueue
    · cases hs
  · next hphase =>
    obtain rfl := Option.some.inj hs
    exact .closed (hphase ▸ rfl) (hphase ▸ rfl) (Or.inl rfl)
  · next hphase =>
    split_ifs at hs with hstop
    · obtain rfl := Option.some.inj hs
      exact .closed (hphase ▸ rfl) (hphase ▸ rfl) (Or.inl rfl)
    · obtain rfl := Option.some.inj hs
      exact .registered hphase (Bool.eq_false_iff.mpr hstop)
  · next hphase =>
    obtain rfl := Option.some.inj hs
    exact .continued (hphase ▸ rfl) (hphase ▸ rfl) (by simp)
  · next hphase =>
    obtain rfl := Option.some.inj hs
    exact .continued (hphase ▸ rfl) (hphase ▸ rfl) (by simp)
  · next wakeupFails fd hphase =>
    split_ifs at hs with hforwarding hfails hfails
    · obtain rfl := Option.some.inj hs
      exact .handedOver _ hphase hforwarding (Or.inl rfl)
    · obtain rfl := Option.some.inj hs
      exact .handedOver _ hphase hforwarding (Or.inr rfl)
    · obtain rfl := Option.some.inj hs
      exact .continued (hphase ▸ rfl) (hphase ▸ rfl) (by simp)
  · next hphase =>
    obtain rfl := Option.some.inj hs
    exact .unregisteredFirst hphase
  · next hphase =>
    obtain rfl := Option.some.inj hs
    exact .continued (hphase ▸ rfl) (hphase ▸ rfl) (by simp)
  · next hphase =>
    obtain rfl := Option.some.inj hs
    exact .closed (hphase ▸ rfl) (hphase ▸ rfl) (Or.inr rfl)
  · next hphase =>
    obtain rfl := Option.some.inj hs
    exact .unregistered hphase
  · next hphase =>
    obtain rfl := Option.some.inj hs
    exact .unregisteredAgain hphase
  · next hphase =>
    obtain rfl := Option.some.inj hs
    exact .closed (hphase ▸ rfl) (hphase ▸ rfl) (Or.inl rfl)
  · cases hs

/-! ### Ownership -/

/-- What a party holds, by its own variables. -/
def holds (s : ThreadPool ι) : Owner ι → ℕ → Prop
  | .acceptLoop, fd => s.accepted = some fd
  | .taskQueue, fd => fd ∈ s.taskQueue
  | .httpWorker i, fd => (s.workers i).owned = some fd
  | .webSocketPool, _ => False
  | .other, _ => False

/-- **The kernel's table backs the pool.** -/
structure Held (s : ThreadPool ι) : Prop where
  backs : Backs s.owner s.holds
  nodup : s.taskQueue.Nodup

omit [DecidableEq ι] in
theorem held_start (maxCapacity : ℕ) : Held ({ maxCapacity } : ThreadPool ι) := by
  refine ⟨fun o x hx => ?_, List.nodup_nil⟩
  cases o with
  | acceptLoop => cases hx
  | taskQueue => cases hx
  | httpWorker i => cases hx
  | webSocketPool => exact hx.elim
  | other => exact hx.elim

/-- After a step of one worker, what is held is what the others held, and what that worker has now. -/
theorem holds_setWorker {phase : WorkerPhase} {o : Owner ι} {x : ℕ}
    (h : (s.setWorker i phase).holds o x) :
    s.holds o x ∧ o ≠ .httpWorker i ∨ o = .httpWorker i ∧ phase.owned = some x := by
  cases o with
  | acceptLoop => exact Or.inl ⟨h, by simp⟩
  | taskQueue => exact Or.inl ⟨h, by simp⟩
  | httpWorker j =>
    by_cases hj : j = i
    · subst hj
      refine Or.inr ⟨rfl, ?_⟩
      simpa [holds, setWorker] using h
    · refine Or.inl ⟨?_, by simpa using hj⟩
      simpa [holds, setWorker, Function.update_of_ne hj] using h
  | webSocketPool => exact h.elim
  | other => exact h.elim

/-- A worker keeps what it has. -/
theorem Held.keep (h : Held s) {phase : WorkerPhase} (hphase : phase.owned = (s.workers i).owned) :
    Held (s.setWorker i phase) := by
  refine ⟨h.backs.mono fun o x hx => ?_, h.nodup⟩
  rcases holds_setWorker hx with ⟨hold, -⟩ | ⟨rfl, howned⟩
  · exact hold
  · exact hphase.symm.trans howned

/-- A worker gives its descriptor away, or closes it. -/
theorem Held.give (h : Held s) {phase : WorkerPhase} (hfd : (s.workers i).owned = some fd)
    (hphase : phase.owned = none) (new : Option (Owner ι)) :
    Held ((s.setOwner fd new).setWorker i phase) := by
  have hi : s.holds (.httpWorker i) fd := hfd
  refine ⟨h.backs.release hi new fun o x hx => ?_, h.nodup⟩
  rcases holds_setWorker hx with ⟨hold, hne⟩ | ⟨rfl, howned⟩
  · exact ⟨hold, fun heq => hne heq.1⟩
  · rw [hphase] at howned
    cases howned

/-- A worker takes a connection from the queue. -/
theorem Held.take (h : Held s) {rest : List ℕ} (hqueue : s.taskQueue = fd :: rest) :
    Held ((s.popQueue.setOwner fd (some (.httpWorker i))).setWorker i (.prepared fd)) := by
  have hnodup := h.nodup
  rw [hqueue] at hnodup
  obtain ⟨hnotMem, hrest⟩ := List.nodup_cons.mp hnodup
  have htail : s.taskQueue.tail = rest := by rw [hqueue, List.tail_cons]
  have hfd : s.holds .taskQueue fd := by
    rw [holds, hqueue]
    exact List.mem_cons_self ..
  refine ⟨h.backs.pass hfd fun o x hx => ?_, ?_⟩
  · rcases holds_setWorker hx with ⟨hold, hne⟩ | ⟨rfl, howned⟩
    · cases o with
      | taskQueue =>
        have hx : x ∈ s.taskQueue.tail := hold
        refine Or.inl ⟨List.mem_of_mem_tail hx, ?_⟩
        rintro ⟨-, rfl⟩
        exact hnotMem (htail ▸ hx)
      | acceptLoop => exact Or.inl ⟨hold, by simp⟩
      | httpWorker j => exact Or.inl ⟨hold, by simp⟩
      | webSocketPool => exact hold.elim
      | other => exact hold.elim
    · exact Or.inr ⟨rfl, (Option.some.inj howned).symm⟩
  · change s.taskQueue.tail.Nodup
    rw [htail]
    exact hrest

/-- **A step of a worker.** -/
theorem Held.moved (h : Held s) {action : WorkerAction} (hs : Moved s i action s') : Held s' := by
  cases hs with
  | took hphase hqueue => exact h.take hqueue
  | registered hphase =>
    have hkept : Held (s.setWorker i (.handling _)) := h.keep (by rw [hphase]; rfl)
    exact ⟨hkept.backs, hkept.nodup⟩
  | continued howned => exact h.keep howned
  | closed hfd _ hphase =>
    refine h.give hfd ?_ none
    rcases hphase with rfl | rfl <;> rfl
  | handedOver wakeupFails hphase hforwarding hnext =>
    refine h.give (by rw [hphase]; rfl) ?_ _
    rcases hnext with rfl | rfl <;> rfl
  | @unregistered fd hphase =>
    have hkept : Held (s.setWorker i (.closing fd)) := h.keep (by rw [hphase]; rfl)
    exact ⟨hkept.backs, hkept.nodup⟩
  | @unregisteredFirst fd accepted hphase =>
    have hkept : Held (s.setWorker i (.unregistered fd accepted)) := h.keep (by rw [hphase]; rfl)
    exact ⟨hkept.backs, hkept.nodup⟩
  | unregisteredAgain hphase =>
    have hkept : Held (s.setWorker i .waiting) := h.keep (by rw [hphase]; rfl)
    exact ⟨hkept.backs, hkept.nodup⟩

omit [DecidableEq ι] in
/-- The accept loop queues the connection, or drops it. -/
theorem Held.push (h : Held s) (hfd : s.accepted = some fd) : Held (s.push fd) := by
  have hi : s.holds .acceptLoop fd := hfd
  rw [ThreadPool.push]
  split_ifs
  · refine ⟨h.backs.release hi none fun o x hx => ?_, h.nodup⟩
    cases o with
    | acceptLoop => cases hx
    | taskQueue => exact ⟨hx, by simp⟩
    | httpWorker j => exact ⟨hx, by simp⟩
    | webSocketPool => exact hx.elim
    | other => exact hx.elim
  · have hnotMem : fd ∉ s.taskQueue := by
      intro hmem
      have hqueue : s.holds .taskQueue fd := hmem
      have hsame := h.backs.unique hqueue hi
      cases hsame
    refine ⟨h.backs.pass hi fun o x hx => ?_, ?_⟩
    · cases o with
      | acceptLoop => cases hx
      | taskQueue =>
        rcases List.mem_append.mp hx with hx | hx
        · exact Or.inl ⟨hx, by simp⟩
        · exact Or.inr ⟨rfl, List.mem_singleton.mp hx⟩
      | httpWorker j => exact Or.inl ⟨hx, by simp⟩
      | webSocketPool => exact hx.elim
      | other => exact hx.elim
    · rw [List.nodup_append]
      refine ⟨h.nodup, List.nodup_singleton fd, ?_⟩
      rintro x hx y hy rfl
      exact hnotMem (List.mem_singleton.mp hy ▸ hx)

omit [DecidableEq ι] in
/-- A descriptor that nobody of the pool holds changes hands. -/
theorem Held.elsewhere (h : Held s) (hnobody : ∀ o, ¬ s.holds o fd) (new : Option (Owner ι)) :
    Held (s.setOwner fd new) :=
  ⟨h.backs.elsewhere hnobody new, h.nodup⟩

/-- **A step.** -/
theorem Held.step (h : Held s) {action : PoolAction ι} (hs : s.step action = some s') : Held s' := by
  have nobody : ∀ {fd owner}, s.owner fd = owner → (∀ o, s.holds o fd → owner ≠ some o) →
      ∀ o, ¬ s.holds o fd := by
    intro fd owner howner hne o ho
    exact hne o ho (howner.symm.trans (h.backs o fd ho))
  cases action <;> simp only [ThreadPool.step] at hs
  case accept fd =>
    split_ifs at hs with hfree
    obtain rfl := Option.some.inj hs
    refine ⟨h.backs.acquire hfree.1 fun o x hx => ?_, h.nodup⟩
    cases o with
    | acceptLoop => exact Or.inr ⟨rfl, (Option.some.inj hx).symm⟩
    | taskQueue => exact Or.inl hx
    | httpWorker j => exact Or.inl hx
    | webSocketPool => exact hx.elim
    | other => exact hx.elim
  case push =>
    obtain ⟨fd, hfd, rfl⟩ := Option.map_eq_some_iff.mp hs
    exact h.push hfd
  case requestStop =>
    obtain rfl := Option.some.inj hs
    refine ⟨h.backs.closeAll fun o x hx => ?_, List.nodup_nil⟩
    have hne : ∀ {o : Owner ι}, s.holds o x → o ≠ .taskQueue → x ∉ s.taskQueue :=
      fun ho hne hmem => hne (h.backs.unique ho hmem)
    cases o with
    | acceptLoop => exact ⟨hx, hne (o := .acceptLoop) hx (by simp)⟩
    | taskQueue => cases hx
    | httpWorker j => exact ⟨hx, hne (o := .httpWorker j) hx (by simp)⟩
    | webSocketPool => exact hx.elim
    | other => exact hx.elim
  case worker i action => exact h.moved (moved_of_stepWorker hs)
  case closeSession fd =>
    split_ifs at hs with howner
    obtain rfl := Option.some.inj hs
    refine h.elsewhere (nobody howner fun o ho => ?_) none
    rintro hsame
    obtain rfl := Option.some.inj hsame
    exact ho
  case setForwarding forwarding =>
    obtain rfl := Option.some.inj hs
    exact ⟨h.backs, h.nodup⟩
  case openOther fd =>
    split_ifs at hs with howner
    obtain rfl := Option.some.inj hs
    exact h.elsewhere (nobody howner fun o ho => by simp) _
  case closeOther fd =>
    split_ifs at hs with howner
    obtain rfl := Option.some.inj hs
    refine h.elsewhere (nobody howner fun o ho => ?_) none
    rintro hsame
    obtain rfl := Option.some.inj hsame
    exact ho

/-! ### What is registered -/

/-- **`active_fds_` is the connections in progress**: that of every worker that is inside
`HandleHttpSession` is in it, and every number in it is that of a connection which a worker owns; the
descriptors that `requestStop` would shut down are the same. -/
structure Exact (s : ThreadPool ι) : Prop where
  inProgress : ∀ i fd, s.workers i = .handling fd → fd ∈ s.activeFds
  noOther : ∀ fd ∈ s.activeFds, ∃ i, s.owner fd = some (.httpWorker i)
  interrupted : ∀ i fd, s.workers i = .handling fd → (fd, some (.httpWorker i)) ∈ s.requestStop.2
  notInterrupted : ∀ x ∈ s.requestStop.2, ∃ i, x.2 = some (.httpWorker i)

/-- **The steps that are in order**: no connection is handed over while its number is registered, and
no worker erases, after a hand-off, the number of a connection in progress. -/
def Careful (s : ThreadPool ι) : PoolAction ι → Prop
  | .worker i (.forward _) =>
    s.forwarding = true → ∀ fd, s.workers i = .upgraded fd → fd ∉ s.activeFds
  | .worker i .unregister =>
    ∀ fd accepted, s.workers i = .forwarded fd accepted → ∀ j, s.workers j ≠ .handling fd
  | .worker i .unregisterAgain =>
    ∀ fd, s.workers i = .handedOff fd → ∀ j, s.workers j ≠ .handling fd
  | _ => True

/-- What careful steps keep. -/
structure Registered (s : ThreadPool ι) : Prop where
  inProgress : ∀ i fd, s.workers i = .handling fd → fd ∈ s.activeFds
  active : ∀ fd ∈ s.activeFds, ∃ i, (s.workers i).registered = some fd

omit [DecidableEq ι] in
theorem registered_start (maxCapacity : ℕ) : Registered ({ maxCapacity } : ThreadPool ι) :=
  ⟨nofun, fun _ h => absurd h (Finset.notMem_empty _)⟩

omit [DecidableEq ι] in
/-- What a worker has registered is still its own when the queue has been dropped. -/
theorem Held.closeAll_registered (h : Held s) (hfd : (s.workers i).registered = some fd) :
    Descriptors.closeAll s.owner s.taskQueue fd = some (.httpWorker i) := by
  have hworker : s.holds (.httpWorker i) fd := WorkerPhase.owned_of_registered hfd
  have hnotMem : fd ∉ s.taskQueue := by
    intro hmem
    have hqueue : s.holds .taskQueue fd := hmem
    cases h.backs.unique hworker hqueue
  rw [Descriptors.closeAll, if_neg hnotMem, h.backs _ _ hworker]

omit [DecidableEq ι] in
/-- A connection in progress whose number is in the set is shut down. -/
theorem Held.interrupted (h : Held s) (hphase : s.workers i = .handling fd)
    (hmem : fd ∈ s.activeFds) : (fd, some (.httpWorker i)) ∈ s.requestStop.2 := by
  have hregistered : (s.workers i).registered = some fd := by rw [hphase, WorkerPhase.registered]
  refine List.mem_map.mpr ⟨fd, (Finset.mem_sort _).mpr hmem, ?_⟩
  rw [h.closeAll_registered hregistered]

omit [DecidableEq ι] in
theorem Registered.exact (h : Registered s) (hheld : Held s) : Exact s := by
  refine ⟨h.inProgress, fun fd hfd => ?_, fun i fd hphase => ?_, fun x hx => ?_⟩
  · obtain ⟨i, hi⟩ := h.active fd hfd
    exact ⟨i, hheld.backs (.httpWorker i) fd (WorkerPhase.owned_of_registered hi)⟩
  · exact hheld.interrupted hphase (h.inProgress i fd hphase)
  · obtain ⟨fd, hfd, rfl⟩ := List.mem_map.mp hx
    obtain ⟨i, hi⟩ := h.active fd ((Finset.mem_sort _).mp hfd)
    exact ⟨i, hheld.closeAll_registered hi⟩

/-- A worker goes to its next phase, and the set changes. -/
theorem registered_update {phase : WorkerPhase} {active : Finset ℕ}
    (hphase : ∀ fd, phase = .handling fd → fd ∈ active)
    (hothers : ∀ j fd, j ≠ i → s.workers j = .handling fd → fd ∈ active)
    (hactive : ∀ fd ∈ active, phase.registered = some fd ∨
      ∃ j, j ≠ i ∧ (s.workers j).registered = some fd) :
    Registered { s.setWorker i phase with activeFds := active } := by
  have hself : (s.setWorker i phase).workers i = phase := Function.update_self ..
  have hother : ∀ j, j ≠ i → (s.setWorker i phase).workers j = s.workers j :=
    fun j hj => Function.update_of_ne hj ..
  constructor
  · intro j fd hj
    by_cases hji : j = i
    · subst hji
      exact hphase fd (hself.symm.trans hj)
    · exact hothers j fd hji ((hother j hji).symm.trans hj)
  · intro fd hfd
    rcases hactive fd hfd with hfd | ⟨j, hji, hfd⟩
    · exact ⟨i, (congrArg WorkerPhase.registered hself).trans hfd⟩
    · exact ⟨j, (congrArg WorkerPhase.registered (hother j hji)).trans hfd⟩

/-- The set does not change. -/
theorem Registered.keep (h : Registered s) {phase : WorkerPhase}
    (hphase : phase.registered = (s.workers i).registered)
    (hhandling : ∀ fd, phase ≠ .handling fd) : Registered (s.setWorker i phase) := by
  refine registered_update (fun fd hfd => absurd hfd (hhandling fd)) (fun j fd _ hj => h.inProgress j fd hj)
    fun fd hfd => ?_
  obtain ⟨j, hj⟩ := h.active fd hfd
  by_cases hji : j = i
  · subst hji
    exact Or.inl (hphase.trans hj)
  · exact Or.inr ⟨j, hji, hj⟩

/-- A number is erased that no connection in progress has. -/
theorem Registered.erase (h : Registered s) {phase : WorkerPhase}
    (hfd : ∀ x, (s.workers i).registered = some x → x = fd) (hphase : ∀ x, phase ≠ .handling x)
    (hothers : ∀ j, j ≠ i → s.workers j ≠ .handling fd) :
    Registered ((s.eraseFd fd).setWorker i phase) := by
  refine registered_update (fun x hx => absurd hx (hphase x)) (fun j x hji hj => ?_) fun x hx => ?_
  · refine Finset.mem_erase.mpr ⟨?_, h.inProgress j x hj⟩
    rintro rfl
    exact hothers j hji hj
  · obtain ⟨hne, hmem⟩ := Finset.mem_erase.mp hx
    obtain ⟨j, hj⟩ := h.active x hmem
    refine Or.inr ⟨j, ?_, hj⟩
    rintro rfl
    exact hne (hfd x hj)

omit [DecidableEq ι] in
/-- It is about the workers and the set. -/
theorem Registered.of_eq (h : Registered s) (hworkers : s'.workers = s.workers)
    (hactive : s'.activeFds = s.activeFds) : Registered s' := by
  constructor
  · rw [hworkers, hactive]
    exact h.inProgress
  · rw [hworkers, hactive]
    exact h.active

/-- **A careful step of a worker.** -/
theorem Registered.moved (h : Registered s) (hheld : Held s) {action : WorkerAction}
    (hs : Moved s i action s') (hcareful : Careful s (.worker i action)) : Registered s' := by
  cases hs with
  | @took fd rest hphase hqueue =>
    have hkept : Registered (s.setWorker i (.prepared fd)) :=
      h.keep (by rw [hphase]; rfl) (by simp)
    exact hkept.of_eq rfl rfl
  | @registered fd hphase =>
    refine registered_update (fun x hx => ?_) (fun j x _ hj => ?_) fun x hx => ?_
    · obtain rfl := WorkerPhase.handling.inj hx
      exact Finset.mem_insert_self ..
    · exact Finset.mem_insert_of_mem (h.inProgress j x hj)
    · rcases Finset.mem_insert.mp hx with rfl | hx
      · exact Or.inl rfl
      · obtain ⟨j, hj⟩ := h.active x hx
        refine Or.inr ⟨j, ?_, hj⟩
        rintro rfl
        rw [hphase] at hj
        cases hj
  | continued howned hregistered hhandling => exact h.keep hregistered hhandling
  | @closed _ fd phase hfd hregistered hphase =>
    have hkept : Registered (s.setWorker i phase) := by
      rcases hphase with rfl | rfl
      · exact h.keep hregistered.symm (by simp)
      · exact h.keep hregistered.symm (by simp)
    exact hkept.of_eq rfl rfl
  | @handedOver fd phase wakeupFails hphase hforwarding hnext =>
    -- the number is not in the set, so the worker has not got it there
    have hnotMem : fd ∉ s.activeFds := hcareful hforwarding fd hphase
    have hgiven : Registered { s.setWorker i phase with activeFds := s.activeFds } := by
      refine registered_update (fun x hx => ?_) (fun j x _ hj => h.inProgress j x hj) fun x hx => ?_
      · rcases hnext with rfl | rfl <;> cases hx
      · obtain ⟨j, hj⟩ := h.active x hx
        refine Or.inr ⟨j, ?_, hj⟩
        rintro rfl
        rw [hphase] at hj
        exact hnotMem (Option.some.inj hj ▸ hx)
    exact hgiven.of_eq rfl rfl
  | @unregistered fd hphase =>
    refine h.erase (fun x hx => ?_) (by simp) fun j hji hj => hji ?_
    · rw [hphase] at hx
      exact (Option.some.inj hx).symm
    · -- the number is the worker's own, so it is nobody else's
      have hi : s.holds (.httpWorker i) fd := by rw [holds, hphase]; rfl
      have hj : s.holds (.httpWorker j) fd := by rw [holds, hj]; rfl
      exact Owner.httpWorker.inj (hheld.backs.unique hj hi)
  | @unregisteredFirst fd accepted hphase =>
    refine h.erase (fun x hx => ?_) (by simp) fun j _ => hcareful fd accepted hphase j
    rw [hphase] at hx
    cases accepted with
    | true => cases hx
    | false => exact (Option.some.inj hx).symm
  | @unregisteredAgain fd hphase =>
    refine h.erase (fun x hx => ?_) (by simp) fun j _ => hcareful fd hphase j
    rw [hphase] at hx
    cases hx

/-- **A careful step.** -/
theorem Registered.step (h : Registered s) (hheld : Held s) {action : PoolAction ι}
    (hs : s.step action = some s') (hcareful : Careful s action) : Registered s' := by
  cases action <;> simp only [ThreadPool.step] at hs
  case worker i action => exact h.moved hheld (moved_of_stepWorker hs) hcareful
  case push =>
    obtain ⟨fd, hfd, rfl⟩ := Option.map_eq_some_iff.mp hs
    rw [ThreadPool.push]
    split_ifs
    · exact h.of_eq rfl rfl
    · exact h.of_eq rfl rfl
  case requestStop =>
    obtain rfl := Option.some.inj hs
    exact h.of_eq rfl rfl
  case setForwarding forwarding =>
    obtain rfl := Option.some.inj hs
    exact h.of_eq rfl rfl
  all_goals
    split_ifs at hs
    obtain rfl := Option.some.inj hs
    exact h.of_eq rfl rfl

/-! ### Steps that are not careful -/

/-- The number of a connection in progress has been erased. -/
theorem not_exact_of_erased {phase : WorkerPhase} (hi : ∀ x, s.workers i ≠ .handling x)
    (hj : s.workers j = .handling fd) : ¬ Exact ((s.eraseFd fd).setWorker i phase) := by
  intro hexact
  have hne : j ≠ i := by
    rintro rfl
    exact hi fd hj
  have hphase : ((s.eraseFd fd).setWorker i phase).workers j = .handling fd :=
    (Function.update_of_ne hne ..).trans hj
  exact Finset.notMem_erase fd s.activeFds (hexact.inProgress j fd hphase)

/-- **A step that is not careful** leads to a state in which `requestStop` would interrupt too much or
too little. -/
theorem careful_of_exact {action : PoolAction ι} (hs : s.step action = some s') (h : Exact s') :
    Careful s action := by
  cases action with
  | worker i action =>
    simp only [ThreadPool.step, stepWorker] at hs
    cases action with
    | forward wakeupFails =>
      intro hforwarding fd hphase hmem
      simp only [hphase, hforwarding, if_true] at hs
      obtain rfl := Option.some.inj hs
      obtain ⟨j, hj⟩ := h.noOther fd hmem
      change update s.owner fd (some .webSocketPool) fd = _ at hj
      rw [Function.update_self] at hj
      cases hj
    | unregister =>
      intro fd accepted hphase j hj
      simp only [hphase] at hs
      obtain rfl := Option.some.inj hs
      exact not_exact_of_erased (by simp [hphase]) hj h
    | unregisterAgain =>
      intro fd hphase j hj
      simp only [hphase] at hs
      obtain rfl := Option.some.inj hs
      exact not_exact_of_erased (by simp [hphase]) hj h
    | _ => trivial
  | _ => trivial

/-! ### Runs -/

theorem run_append (s : ThreadPool ι) (before after : List (PoolAction ι)) :
    s.run (before ++ after) = (s.run before).bind fun s' => s'.run after := by
  induction before generalizing s with
  | nil => rfl
  | cons action before ih =>
    rw [List.cons_append, run, run, Option.bind_assoc]
    exact congrArg _ (funext fun s' => ih s')

theorem held_of_run {maxCapacity : ℕ} {actions : List (PoolAction ι)}
    (h : ({ maxCapacity } : ThreadPool ι).run actions = some s) : Held s := by
  induction actions using List.reverseRecOn generalizing s with
  | nil =>
    obtain rfl := Option.some.inj h
    exact held_start maxCapacity
  | append_singleton actions action ih =>
    rw [run_append] at h
    obtain ⟨x, hx, hs⟩ := Option.bind_eq_some_iff.mp h
    obtain ⟨s', hs', heq⟩ := Option.bind_eq_some_iff.mp hs
    obtain rfl := Option.some.inj heq
    exact (ih hx).step hs'

/-- The run from the start has this state after `before`, which the rest `after` leads on from. -/
def Passes (maxCapacity : ℕ) (actions before after : List (PoolAction ι)) (s : ThreadPool ι) : Prop :=
  actions = before ++ after ∧ ({ maxCapacity } : ThreadPool ι).run before = some s

theorem registered_of_run {maxCapacity : ℕ} {actions : List (PoolAction ι)}
    (hcareful : ∀ before action after x, Passes maxCapacity actions before (action :: after) x →
      Careful x action)
    (h : ({ maxCapacity } : ThreadPool ι).run actions = some s) : Registered s := by
  induction actions using List.reverseRecOn generalizing s with
  | nil =>
    obtain rfl := Option.some.inj h
    exact registered_start maxCapacity
  | append_singleton actions action ih =>
    rw [run_append] at h
    obtain ⟨x, hx, hs⟩ := Option.bind_eq_some_iff.mp h
    obtain ⟨s', hs', heq⟩ := Option.bind_eq_some_iff.mp hs
    obtain rfl := Option.some.inj heq
    refine (ih (fun before action' after y hy => ?_) hx).step (held_of_run hx) hs'
      (hcareful actions action [] x ⟨rfl, hx⟩)
    refine hcareful before action' (after ++ [action]) y ⟨?_, hy.2⟩
    rw [hy.1, List.append_assoc, List.cons_append]

/-- **When shutdown interrupts exactly the connections in progress.** In every run, it would do so in
every state if and only if every step is careful. -/
theorem interrupts_exactly_iff {maxCapacity : ℕ} {actions : List (PoolAction ι)}
    (h : ({ maxCapacity } : ThreadPool ι).run actions = some s) :
    (∀ before after x, Passes maxCapacity actions before after x → Exact x) ↔
      ∀ before action after x, Passes maxCapacity actions before (action :: after) x →
        Careful x action := by
  constructor
  · rintro hexact before action after x ⟨rfl, hx⟩
    rw [run_append, hx, Option.bind_some, run] at h
    obtain ⟨x', hx', -⟩ := Option.bind_eq_some_iff.mp h
    refine careful_of_exact hx' (hexact (before ++ [action]) after x' ⟨by simp, ?_⟩)
    rw [run_append, hx, Option.bind_some, run, hx']
    rfl
  · rintro hcareful before after x ⟨rfl, hx⟩
    refine (registered_of_run (fun before' action after' y hy => ?_) hx).exact (held_of_run hx)
    refine hcareful before' action (after' ++ after) y ⟨?_, hy.2⟩
    rw [hy.1, List.append_assoc, List.cons_append]

end ThreadPool

namespace Sample

/-- A worker handles a connection when the pool is stopped. -/
def stopped : List (PoolAction (Fin 2)) :=
  [.accept 3, .push, .worker 0 .take, .worker 0 .register, .requestStop, .worker 0 .finish]

/-- An upgrade is accepted. -/
def handedOver : List (PoolAction (Fin 2)) :=
  [.accept 3, .push, .worker 0 .take, .worker 0 .register, .worker 0 .upgrade,
    .worker 0 (.forward false)]

/-- An upgrade is refused; the number goes to the next connection before it is erased again. -/
def erasedAgain : List (PoolAction (Fin 2)) :=
  [.setForwarding false, .accept 3, .push, .worker 0 .take, .worker 0 .register,
    .worker 0 .upgrade, .worker 0 (.forward false), .worker 0 .unregister,
    .worker 0 .destroyResult, .accept 3, .push, .worker 1 .take, .worker 1 .register,
    .worker 0 .unregisterAgain]

end Sample

/-- A connection in progress at shutdown. -/
theorem interrupts_exactly_iff_stopped :
    ∃ s, ({ maxCapacity := 8 } : ThreadPool (Fin 2)).run Sample.stopped = some s ∧
      ∀ before after x, ThreadPool.Passes 8 Sample.stopped before after x → x.Exact := by
  obtain ⟨s, hs⟩ := Option.isSome_iff_exists.mp (show (({ maxCapacity := 8 } :
    ThreadPool (Fin 2)).run Sample.stopped).isSome = true by decide)
  refine ⟨s, hs, (ThreadPool.interrupts_exactly_iff hs).mpr ?_⟩
  rintro before action after x ⟨heq, -⟩
  have hmem : action ∈ Sample.stopped := by
    rw [heq]
    exact List.mem_append_right _ (List.mem_cons_self ..)
  simp only [Sample.stopped, List.mem_cons, List.not_mem_nil, or_false] at hmem
  rcases hmem with rfl | rfl | rfl | rfl | rfl | rfl <;> trivial

/-- **What shutdown would interrupt is not exact**: a connection that the WebSocket pool has is still
registered; and a connection in progress is not. -/
theorem interrupts_exactly_fails :
    (∃ s, ({ maxCapacity := 8 } : ThreadPool (Fin 2)).run Sample.handedOver = some s ∧
      (3, some .webSocketPool) ∈ s.requestStop.2 ∧ ¬ s.Exact) ∧
    ∃ s, ({ maxCapacity := 8 } : ThreadPool (Fin 2)).run Sample.erasedAgain = some s ∧
      s.workers 1 = .handling 3 ∧ s.requestStop.2 = [] ∧ ¬ s.Exact := by
  constructor
  · obtain ⟨s, hs, htest⟩ : ∃ s, ({ maxCapacity := 8 } : ThreadPool (Fin 2)).run Sample.handedOver =
        some s ∧ decide ((3, some .webSocketPool) ∈ s.requestStop.2) :=
      Option.any_eq_true _ _ |>.mp (by decide +kernel)
    have hmem := of_decide_eq_true htest
    refine ⟨s, hs, hmem, fun hexact => ?_⟩
    obtain ⟨i, hi⟩ := hexact.notInterrupted _ hmem
    cases hi
  · obtain ⟨s, hs, htest⟩ : ∃ s, ({ maxCapacity := 8 } : ThreadPool (Fin 2)).run Sample.erasedAgain =
        some s ∧ decide (s.workers 1 = .handling 3 ∧ s.requestStop.2 = []) :=
      Option.any_eq_true _ _ |>.mp (by decide +kernel)
    obtain ⟨hphase, hnone⟩ := of_decide_eq_true htest
    refine ⟨s, hs, hphase, hnone, fun hexact => ?_⟩
    have hmem := hexact.interrupted 1 3 hphase
    rw [hnone] at hmem
    cases hmem

end ChatBackend
