import Mathlib.Data.List.Basic
import Mathlib.Logic.Function.Basic
import Mathlib.Tactic.SplitIfs

/-!
# The task queue of a worker

`WebsocketWorker::transferTask` pushes a task under the mutex and then writes to the eventfd
`business_fd_`; `handleTask` reads the eventfd, swaps the queue out under the mutex and runs what it has
taken. Threads interleave between these steps, and the worker itself calls `transferTask` too, in a
task or outside `handleTask`.

## Main definitions

* `HandleTaskPhase` — where the worker is in `handleTask`
* `TaskQueue`, `TaskQueue.step`, `TaskQueue.run`
* `TaskQueue.Sound` — the invariant

## Main results

* `TaskQueue.Sound.step` — every step keeps the invariant
* `tasks_run_once_in_order`
* `TaskQueue.handleTask_drains` — one call of `handleTask` runs all that had been pushed before
-/

namespace ChatBackend

open Function (update)

/-! ### The state -/

/-- Where the worker is in `handleTask`. -/
inductive HandleTaskPhase (τ : Type) where
  /-- Not in `handleTask`. -/
  | outside
  /-- In the loop that reads the eventfd. -/
  | reading
  /-- The eventfd has been read. -/
  | woken
  /-- The queue has been swapped out. -/
  | draining (localTasks : List τ)
  /-- A task is running, and these are left. -/
  | running (localTasks : List τ)
  deriving DecidableEq

/-- What has been swapped out and not yet run. -/
def HandleTaskPhase.localTasks {τ : Type} : HandleTaskPhase τ → List τ
  | outside | reading | woken => []
  | draining localTasks | running localTasks => localTasks

/-- The worker runs code other than that of `handleTask`. -/
def HandleTaskPhase.mayTransfer {τ : Type} : HandleTaskPhase τ → Bool
  | outside | running _ => true
  | reading | woken | draining _ => false

/-- What a read of the eventfd answers. -/
inductive EventfdAnswer where
  /-- All eight bytes. -/
  | done
  /-- `EINTR`. -/
  | interrupted
  /-- `EAGAIN`. -/
  | again
  deriving DecidableEq

/-- A task queue with its eventfd. The threads are those of `ι`, and `none` for the worker. -/
structure TaskQueue (ι τ : Type) where
  /-- `task_queue_`. -/
  taskQueue : List τ := []
  /-- The counter of `business_fd_`. -/
  wakeups : ℕ := 0
  /-- The threads that have pushed and not yet written. -/
  waking : Option ι → Bool := fun _ => false
  phase : HandleTaskPhase τ := .outside
  /-- History variable: the tasks pushed so far. -/
  pushed : List τ := []
  /-- History variable: the tasks that have been called so far. -/
  executed : List τ := []

/-- What happens next. -/
inductive TaskQueueAction (ι τ : Type) where
  /-- The critical section of `transferTask`. -/
  | push (thread : Option ι) (task : τ)
  /-- `taskWakeup`, which ignores `EAGAIN`. -/
  | wake (thread : Option ι) (again : Bool)
  /-- `handleTask` begins. -/
  | enter
  | read (answer : EventfdAnswer)
  | swap
  /-- The next of the local tasks is called. -/
  | start
  /-- It returns, or throws a `std::exception`. -/
  | finish (threw : Bool)
  /-- `handleTask` returns. -/
  | leave

namespace TaskQueue

variable {ι τ : Type} [DecidableEq ι] {s s' : TaskQueue ι τ}

/-! ### The steps -/

/-- A thread can call `transferTask`: it is not inside another call of it, and if it is the worker, it
is in a task or outside `handleTask`. -/
def canTransfer (s : TaskQueue ι τ) (thread : Option ι) : Bool :=
  !s.waking thread && (thread.isSome || s.phase.mayTransfer)

/-- **A step.** A write to the eventfd answers `EAGAIN` only if its counter is not zero, and a read
only if it is. -/
def step (s : TaskQueue ι τ) : TaskQueueAction ι τ → Option (TaskQueue ι τ)
  | .push thread task =>
    if s.canTransfer thread then
      some { s with
        taskQueue := s.taskQueue ++ [task]
        waking := update s.waking thread true
        pushed := s.pushed ++ [task] }
    else none
  | .wake thread again => match s.waking thread, again with
    | true, false => some { s with wakeups := s.wakeups + 1, waking := update s.waking thread false }
    | true, true =>
      if s.wakeups = 0 then none else some { s with waking := update s.waking thread false }
    | false, _ => none
  | .enter => match s.phase, s.waking none with
    | .outside, false => some { s with phase := .reading }
    | _, _ => none
  | .read answer => match s.phase, answer with
    | .reading, .done => if s.wakeups = 0 then none else some { s with wakeups := 0, phase := .woken }
    | .reading, .interrupted => some s
    | .reading, .again => if s.wakeups = 0 then some { s with phase := .woken } else none
    | _, _ => none
  | .swap => match s.phase with
    | .woken => some { s with taskQueue := [], phase := .draining s.taskQueue }
    | _ => none
  | .start => match s.phase with
    | .draining (task :: rest) =>
      some { s with phase := .running rest, executed := s.executed ++ [task] }
    | _ => none
  | .finish _ => match s.phase, s.waking none with
    -- what the task throws is caught and printed
    | .running rest, false => some { s with phase := .draining rest }
    | _, _ => none
  | .leave => match s.phase with
    | .draining [] => some { s with phase := .outside }
    | _ => none

/-- A run. -/
def run (s : TaskQueue ι τ) : List (TaskQueueAction ι τ) → Option (TaskQueue ι τ)
  | [] => some s
  | action :: actions => (s.step action).bind fun s' => s'.run actions

/-! ### The invariant -/

/-- The tasks are in their places, and no task is left in the queue without a wake-up. -/
structure Sound (s : TaskQueue ι τ) : Prop where
  /-- What has been pushed has run, or waits to be run, in this order. -/
  order : s.pushed = s.executed ++ s.phase.localTasks ++ s.taskQueue
  /-- A wake-up is pending or about to be written, or the worker is about to take the queue. -/
  woken : s.taskQueue = [] ∨ s.wakeups ≠ 0 ∨ (∃ thread, s.waking thread = true) ∨ s.phase = .woken

omit [DecidableEq ι] in
theorem sound_initial : (({} : TaskQueue ι τ)).Sound := ⟨rfl, .inl rfl⟩

omit [DecidableEq ι] in
/-- A phase in which the worker does not look at the queue. -/
theorem Sound.setPhase {phase : HandleTaskPhase τ} (h : s.Sound) (hwoken : s.phase ≠ .woken)
    (hlocal : phase.localTasks = s.phase.localTasks) : ({ s with phase := phase }).Sound := by
  refine ⟨by rw [h.order, ← hlocal], ?_⟩
  rcases h.woken with hempty | hcount | hwaking | hphase
  · exact .inl hempty
  · exact .inr (.inl hcount)
  · exact .inr (.inr (.inl hwaking))
  · exact absurd hphase hwoken

/-- **Every step keeps the invariant.** -/
theorem Sound.step {action : TaskQueueAction ι τ} (h : s.Sound) (hs : s.step action = some s') :
    s'.Sound := by
  cases action with
  | push thread task =>
    simp only [TaskQueue.step] at hs
    split_ifs at hs
    obtain rfl := Option.some.inj hs
    refine ⟨?_, .inr (.inr (.inl ⟨thread, Function.update_self ..⟩))⟩
    simp only [h.order, List.append_assoc]
  | wake thread again =>
    simp only [TaskQueue.step] at hs
    split at hs
    · obtain rfl := Option.some.inj hs
      exact ⟨h.order, .inr (.inl (Nat.succ_ne_zero _))⟩
    · -- the counter is full, so that a wake-up is pending
      split_ifs at hs with hcount
      obtain rfl := Option.some.inj hs
      exact ⟨h.order, .inr (.inl hcount)⟩
    · cases hs
  | enter =>
    simp only [TaskQueue.step] at hs
    split at hs
    · next hphase _ =>
      obtain rfl := Option.some.inj hs
      exact h.setPhase (by simp [hphase]) (by rw [hphase]; rfl)
    · cases hs
  | read answer =>
    simp only [TaskQueue.step] at hs
    split at hs
    · next hphase =>
      split_ifs at hs
      obtain rfl := Option.some.inj hs
      exact ⟨by rw [h.order, hphase]; rfl, .inr (.inr (.inr rfl))⟩
    · obtain rfl := Option.some.inj hs
      exact h
    · next hphase =>
      split_ifs at hs
      obtain rfl := Option.some.inj hs
      exact ⟨by rw [h.order, hphase]; rfl, .inr (.inr (.inr rfl))⟩
    · cases hs
  | swap =>
    simp only [TaskQueue.step] at hs
    split at hs
    · next hphase =>
      obtain rfl := Option.some.inj hs
      refine ⟨?_, .inl rfl⟩
      rw [h.order, hphase]
      simp [HandleTaskPhase.localTasks]
    · cases hs
  | start =>
    simp only [TaskQueue.step] at hs
    split at hs
    · next task rest hphase =>
      obtain rfl := Option.some.inj hs
      have hmoved : s.pushed = (s.executed ++ [task]) ++ rest ++ s.taskQueue := by
        rw [h.order, hphase]
        simp [HandleTaskPhase.localTasks]
      refine ⟨hmoved, ?_⟩
      rcases h.woken with hempty | hcount | hwaking | hwoken
      · exact .inl hempty
      · exact .inr (.inl hcount)
      · exact .inr (.inr (.inl hwaking))
      · rw [hphase] at hwoken
        cases hwoken
    · cases hs
  | finish threw =>
    simp only [TaskQueue.step] at hs
    split at hs
    · next hphase _ =>
      obtain rfl := Option.some.inj hs
      exact h.setPhase (by simp [hphase]) (by rw [hphase]; rfl)
    · cases hs
  | leave =>
    simp only [TaskQueue.step] at hs
    split at hs
    · next hphase =>
      obtain rfl := Option.some.inj hs
      exact h.setPhase (by simp [hphase]) (by rw [hphase]; rfl)
    · cases hs

/-- The invariant holds along every run. -/
theorem Sound.run {actions : List (TaskQueueAction ι τ)} (h : s.Sound)
    (hr : s.run actions = some s') : s'.Sound := by
  induction actions generalizing s with
  | nil =>
    obtain rfl := Option.some.inj hr
    exact h
  | cons action actions ih =>
    obtain ⟨s₁, hs, hr⟩ := Option.bind_eq_some_iff.mp hr
    exact ih (h.step hs) hr

/-! ### One call of `handleTask` -/

/-- The worker is in a call of `handleTask`, and these tasks have been called or are local tasks, unless
the queue has yet to be swapped out. -/
def Takes (s : TaskQueue ι τ) (tasks : List τ) : Prop :=
  match s.phase with
  | .outside => False
  | .reading | .woken => True
  | .draining localTasks | .running localTasks => tasks <+: s.executed ++ localTasks

/-- What has been pushed stays on record. -/
theorem pushed_step {action : TaskQueueAction ι τ} (hs : s.step action = some s') :
    s.pushed <+: s'.pushed := by
  cases action with
  | push thread task =>
    simp only [TaskQueue.step] at hs
    split_ifs at hs
    obtain rfl := Option.some.inj hs
    exact List.prefix_append _ _
  | wake | enter | read | swap | start | finish | leave =>
    simp only [TaskQueue.step] at hs
    split at hs <;> try split_ifs at hs
    all_goals
      first
      | obtain rfl := Option.some.inj hs
        exact List.prefix_rfl
      | cases hs

/-- **The step**: until it returns, a call takes what had been pushed when it began, whatever is pushed
meanwhile; and when it returns, all that has been called. -/
theorem Takes.step {tasks : List τ} {action : TaskQueueAction ι τ} (h : s.Takes tasks) (hsound : s.Sound)
    (hpushed : tasks <+: s.pushed) (hs : s.step action = some s') :
    s'.Takes tasks ∨ action = .leave ∧ tasks <+: s'.executed := by
  cases action with
  | push thread task =>
    simp only [TaskQueue.step] at hs
    split_ifs at hs
    obtain rfl := Option.some.inj hs
    exact .inl h
  | wake thread again =>
    simp only [TaskQueue.step] at hs
    split at hs
    · obtain rfl := Option.some.inj hs
      exact .inl h
    · split_ifs at hs
      obtain rfl := Option.some.inj hs
      exact .inl h
    · cases hs
  | enter =>
    simp only [TaskQueue.step] at hs
    split at hs
    · next hphase _ =>
      rw [Takes, hphase] at h
      exact h.elim
    · cases hs
  | read answer =>
    simp only [TaskQueue.step] at hs
    split at hs
    · split_ifs at hs
      obtain rfl := Option.some.inj hs
      exact .inl trivial
    · obtain rfl := Option.some.inj hs
      exact .inl h
    · split_ifs at hs
      obtain rfl := Option.some.inj hs
      exact .inl trivial
    · cases hs
  | swap =>
    simp only [TaskQueue.step] at hs
    split at hs
    · next hphase =>
      obtain rfl := Option.some.inj hs
      -- all that is not in the queue has been called
      rw [hsound.order, hphase] at hpushed
      left
      simpa [Takes, HandleTaskPhase.localTasks] using hpushed
    · cases hs
  | start =>
    simp only [TaskQueue.step] at hs
    split at hs
    · next task rest hphase =>
      obtain rfl := Option.some.inj hs
      rw [Takes, hphase] at h
      left
      simpa [Takes] using h
    · cases hs
  | finish threw =>
    simp only [TaskQueue.step] at hs
    split at hs
    · next hphase _ =>
      obtain rfl := Option.some.inj hs
      rw [Takes, hphase] at h
      exact .inl h
    · cases hs
  | leave =>
    simp only [TaskQueue.step] at hs
    split at hs
    · next hphase =>
      obtain rfl := Option.some.inj hs
      rw [Takes, hphase] at h
      exact .inr ⟨rfl, by simpa using h⟩
    · cases hs

/-- **A call of `handleTask` runs everything that had been pushed when it began**, whatever is pushed
meanwhile and whatever the tasks do. -/
theorem handleTask_drains {call : List (TaskQueueAction ι τ)} (hsound : s.Sound)
    (hr : s.run (.enter :: call ++ [.leave]) = some s') (hcall : .leave ∉ call) :
    s.pushed <+: s'.executed := by
  have rest : ∀ {s₁ : TaskQueue ι τ} {tasks : List τ}, s₁.Takes tasks → s₁.Sound → tasks <+: s₁.pushed →
      s₁.run (call ++ [.leave]) = some s' → tasks <+: s'.executed := by
    clear hr
    induction call with
    | nil =>
      intro s₁ tasks htakes hsound₁ hpushed hr
      obtain ⟨s₂, hs, hr⟩ := Option.bind_eq_some_iff.mp hr
      obtain rfl := Option.some.inj hr
      rcases htakes.step hsound₁ hpushed hs with hstill | ⟨-, hexecuted⟩
      · -- the worker is outside now
        simp only [TaskQueue.step] at hs
        split at hs
        · obtain rfl := Option.some.inj hs
          exact hstill.elim
        · cases hs
      · exact hexecuted
    | cons action call ih =>
      intro s₁ tasks htakes hsound₁ hpushed hr
      obtain ⟨hne, hcall⟩ := not_or.mp (List.mem_cons.not.mp hcall)
      obtain ⟨s₂, hs, hr⟩ := Option.bind_eq_some_iff.mp hr
      rcases htakes.step hsound₁ hpushed hs with hstill | ⟨hleave, -⟩
      · exact ih hcall hstill (hsound₁.step hs) (hpushed.trans (pushed_step hs)) hr
      · exact absurd hleave.symm hne
  obtain ⟨s₁, hs, hr⟩ := Option.bind_eq_some_iff.mp hr
  have hsound₁ := hsound.step hs
  have hpushed := pushed_step hs
  simp only [TaskQueue.step] at hs
  split at hs
  · obtain rfl := Option.some.inj hs
    refine rest ?_ hsound₁ hpushed hr
    trivial
  · cases hs

end TaskQueue

/-- **The task queue loses and repeats nothing.** After any run of producers and worker, the tasks that
have been called are the first of those that have been pushed, each as often as it was pushed at most,
and the others are still there; if the worker is outside `handleTask` and no wake-up is pending, the
queue is empty or some thread is between its push and its write; and a call of `handleTask` runs all that
had been pushed when it began. -/
theorem tasks_run_once_in_order {ι τ : Type} [DecidableEq ι] [DecidableEq τ] {s : TaskQueue ι τ}
    {actions : List (TaskQueueAction ι τ)} (h : ({} : TaskQueue ι τ).run actions = some s) :
    s.executed <+: s.pushed ∧
      s.pushed = s.executed ++ s.phase.localTasks ++ s.taskQueue ∧
      (∀ task, s.executed.count task ≤ s.pushed.count task) ∧
      (s.phase = .outside → s.wakeups = 0 → s.taskQueue = [] ∨ ∃ thread, s.waking thread = true) ∧
      ∀ call s', s.run (.enter :: call ++ [.leave]) = some s' → .leave ∉ call →
        s.pushed <+: s'.executed := by
  have hsound := TaskQueue.sound_initial.run h
  have hfirst : s.executed <+: s.pushed := by
    rw [hsound.order, List.append_assoc]
    exact List.prefix_append ..
  refine ⟨hfirst, hsound.order, fun task => hfirst.sublist.count_le task, fun hphase hzero => ?_,
    fun call s' => TaskQueue.handleTask_drains hsound⟩
  rcases hsound.woken with hempty | hcount | hwaking | hwoken
  · exact .inl hempty
  · exact absurd hzero hcount
  · exact .inr hwaking
  · rw [hphase] at hwoken
    cases hwoken

/-- A task pushes another one and throws, while a third one is pushed whose producer has not written
yet. -/
def threeTasks : List (TaskQueueAction Bool ℕ) :=
  [.push (some true) 1, .wake (some true) false, .enter, .read .done, .swap, .start, .push none 2,
    .push (some false) 3, .wake none false, .finish true, .leave, .enter, .read .interrupted,
    .read .done, .swap, .start, .finish false, .start, .finish false, .leave]

theorem tasks_run_once_in_order_three :
    ∃ s : TaskQueue Bool ℕ, ({} : TaskQueue Bool ℕ).run threeTasks = some s ∧
      s.executed = [1, 2, 3] ∧ s.wakeups = 0 ∧
      (s.taskQueue = [] ∨ ∃ thread, s.waking thread = true) :=
  ⟨_, rfl, rfl, rfl, (@tasks_run_once_in_order Bool ℕ _ _ _ threeTasks rfl).2.2.2.1 rfl rfl⟩

end ChatBackend
