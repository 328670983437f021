import Mathlib.Algebra.BigOperators.Fin
import Mathlib.Algebra.GroupWithZero.Nat
import Mathlib.Algebra.Order.BigOperators.Group.Finset
import Mathlib.Data.Fintype.Basic
import Mathlib.Tactic.SplitIfs

/-!
# The service thread pool

`src/service/ServiceThreadPool.cpp`: `receiveTask` queues a task or throws because of `stop_`, each
thread waits until there is a task or `stop_` is set, and `close` sets `stop_` and joins the threads. The
condition variable is part of the model: a thread whose predicate is false blocks until it is
notified, or wakes up for no reason.

A step is one critical section, or what happens between two of them. A task is known by the number of the
call of `receiveTask` that brought it.

## Main definitions

* `ServiceThread`, `CloseStage` — where a thread and the caller of `close` are
* `ServiceThreadPool`, `ServiceThreadPool.step`, `ServiceThreadPool.run`
* `ServiceThreadPool.Sound` — the invariant
* `ServiceThreadPool.work` — what is left to do before `close` returns

## Main results

* `ServiceThreadPool.Sound.step` — every step keeps the invariant
* `ServiceThreadPool.exists_step`, `ServiceThreadPool.work_run` — `close` returns
* `accepted_tasks_run_once`
-/

namespace ChatBackend

open Function (update)

/-! ### The state -/

/-- Where a thread is in its loop. -/
inductive ServiceThread where
  /-- It is about to lock the mutex and to look at `stop_` and `tasks_`. -/
  | checking
  /-- It waits on the condition variable. -/
  | blocked
  | running (task : ℕ)
  /-- It has returned. -/
  | exited
  deriving DecidableEq

/-- How a task ends. -/
inductive TaskOutcome where
  | returned
  /-- It throws a `std::exception`. -/
  | exception
  /-- It throws something else. -/
  | unknown

/-- Where the caller of `close` is. -/
inductive CloseStage where
  | notCalled
  /-- `stop_` has been set. -/
  | stopped
  /-- All threads have been notified, and the first `joined` of them joined. -/
  | joining (joined : ℕ)
  | returned
  deriving DecidableEq

/-- `ServiceThreadPool` with `n + 1` threads, after `init`. -/
structure ServiceThreadPool (n : ℕ) where
  /-- `tasks_`. -/
  tasks : List ℕ := []
  /-- `stop_`. -/
  stop : Bool := false
  /-- `threads_`. -/
  threads : Fin (n + 1) → ServiceThread := fun _ => .checking
  close : CloseStage := .notCalled
  /-- The calls of `receiveTask` that have pushed and not yet notified. -/
  notifying : ℕ := 0
  /-- History variable: the calls of `receiveTask` so far. -/
  calls : ℕ := 0
  /-- History variable: the tasks for which `receiveTask` has returned, or is about to. -/
  accepted : List ℕ := []
  /-- History variable: the tasks for which it has thrown. -/
  rejected : List ℕ := []
  /-- History variable: the tasks that have been dequeued and called. -/
  started : List ℕ := []
  /-- History variable: the tasks that have returned or thrown. -/
  finished : List ℕ := []

/-- What happens next. -/
inductive ServiceAction (n : ℕ) where
  /-- The critical section of `receiveTask`. -/
  | receiveTask
  /-- Its `notify_one`, which wakes up one of the threads that wait, if there are any. -/
  | notifyOne (woken : Option (Fin (n + 1)))
  /-- A thread wakes up for no reason. -/
  | wakeUp (i : Fin (n + 1))
  /-- A thread looks at `stop_` and `tasks_`. -/
  | check (i : Fin (n + 1))
  /-- The task of a thread ends. -/
  | finish (i : Fin (n + 1)) (outcome : TaskOutcome)
  /-- `close` sets `stop_`. -/
  | close
  | notifyAll
  /-- `close` joins the next thread, or is done. -/
  | join

namespace ServiceThreadPool

variable {n : ℕ} {s s' : ServiceThreadPool n} {i j : Fin (n + 1)}

/-! ### The steps -/

/-- A thread goes on. -/
def setThread (s : ServiceThreadPool n) (i : Fin (n + 1)) (thread : ServiceThread) :
    ServiceThreadPool n :=
  { s with threads := update s.threads i thread }

/-- A waiting thread looks again. -/
def notified : ServiceThread → ServiceThread
  | .blocked => .checking
  | thread => thread

/-- What a thread does when it has the lock. -/
def check (s : ServiceThreadPool n) (i : Fin (n + 1)) : ServiceThreadPool n :=
  match s.tasks with
  | task :: rest => { s.setThread i (.running task) with tasks := rest, started := s.started ++ [task] }
  | [] => s.setThread i (if s.stop then .exited else .blocked)

/-- **A step.** -/
def step (s : ServiceThreadPool n) : ServiceAction n → Option (ServiceThreadPool n)
  | .receiveTask =>
    if s.stop then some { s with calls := s.calls + 1, rejected := s.rejected ++ [s.calls] }
    else some { s with
      tasks := s.tasks ++ [s.calls]
      calls := s.calls + 1
      notifying := s.notifying + 1
      accepted := s.accepted ++ [s.calls] }
  | .notifyOne woken =>
    if s.notifying = 0 then none
    else match woken with
      | some i =>
        if s.threads i = .blocked then
          some { s.setThread i .checking with notifying := s.notifying - 1 }
        else none
      | none =>
        if ∀ i, s.threads i ≠ .blocked then some { s with notifying := s.notifying - 1 } else none
  | .wakeUp i => if s.threads i = .blocked then some (s.setThread i .checking) else none
  | .check i => if s.threads i = .checking then some (s.check i) else none
  | .finish i _ => match s.threads i with
    -- what the task throws is caught and logged
    | .running task => some { s.setThread i .checking with finished := s.finished ++ [task] }
    | _ => none
  | .close =>
    if s.close = .notCalled then some { s with stop := true, close := .stopped } else none
  | .notifyAll =>
    if s.close = .stopped then
      some { s with threads := fun i => notified (s.threads i), close := .joining 0 }
    else none
  | .join => match s.close with
    | .joining joined =>
      if h : joined < n + 1 then
        if s.threads ⟨joined, h⟩ = .exited then some { s with close := .joining (joined + 1) } else none
      else some { s with close := .returned }
    | _ => none

/-- A run. -/
def run (s : ServiceThreadPool n) : List (ServiceAction n) → Option (ServiceThreadPool n)
  | [] => some s
  | action :: actions => (s.step action).bind fun s' => s'.run actions

/-! ### The invariant -/

/-- What `close` has seen of the threads. -/
def Joined (threads : Fin (n + 1) → ServiceThread) : CloseStage → Prop
  | .notCalled | .stopped => True
  | .joining joined => ∀ i : Fin (n + 1), i.val < joined → threads i = .exited
  | .returned => ∀ i, threads i = .exited

/-- The invariant. -/
structure Sound (s : ServiceThreadPool n) : Prop where
  /-- The tasks that have been accepted have been dequeued, in this order, or are still queued. -/
  order : s.accepted = s.started ++ s.tasks
  /-- No two calls have the same number. -/
  distinct : (s.accepted ++ s.rejected).Nodup
  numbered : ∀ task ∈ s.accepted ++ s.rejected, task < s.calls
  /-- A task that has been dequeued has ended, or is running. -/
  ran : ∀ task, task ∈ s.started ↔ task ∈ s.finished ∨ ∃ i, s.threads i = .running task
  unfinished : ∀ i task, s.threads i = .running task → task ∉ s.finished
  once : ∀ i j task, s.threads i = .running task → s.threads j = .running task → i = j
  finishedOnce : s.finished.Nodup
  /-- A thread returns only if it is stopped and there is nothing left to do. -/
  exited : ∀ i, s.threads i = .exited → s.stop = true ∧ s.tasks = []
  stopped : s.stop = true ↔ s.close ≠ .notCalled
  joined : Joined s.threads s.close
  /-- No thread waits once all have been notified. -/
  awake : ∀ joined, s.close = .joining joined → ∀ i, s.threads i ≠ .blocked

theorem sound_initial : (({} : ServiceThreadPool n)).Sound where
  order := rfl
  distinct := List.nodup_nil
  numbered := by simp
  ran := by simp
  unfinished := by simp
  once := by simp
  finishedOnce := List.nodup_nil
  exited := by simp
  stopped := by simp
  joined := trivial
  awake := by simp

/-- While `close` joins the threads, `stop_` is set. -/
theorem Sound.stop_of_joining {joined : ℕ} (h : s.Sound) (hclose : s.close = .joining joined) :
    s.stop = true :=
  h.stopped.mpr (by simp [hclose])

/-- Threads that neither take nor finish a task. -/
theorem Sound.setThreads {threads : Fin (n + 1) → ServiceThread} (h : s.Sound)
    (hrunning : ∀ i task, threads i = .running task ↔ s.threads i = .running task)
    (hstay : ∀ i, s.threads i = .exited → threads i = .exited)
    (hexit : ∀ i, threads i = .exited → s.stop = true ∧ s.tasks = [])
    (hblocked : ∀ i, threads i = .blocked → s.stop = true → s.threads i = .blocked) :
    ({ s with threads := threads }).Sound where
  order := h.order
  distinct := h.distinct
  numbered := h.numbered
  ran task := by simp only [h.ran, hrunning]
  unfinished i task hi := h.unfinished i task ((hrunning i task).mp hi)
  once i j task hi hj := h.once i j task ((hrunning i task).mp hi) ((hrunning j task).mp hj)
  finishedOnce := h.finishedOnce
  exited := hexit
  stopped := h.stopped
  joined := by
    have hjoined := h.joined
    change Joined threads s.close
    cases hclose : s.close with
    | notCalled => trivial
    | stopped => trivial
    | joining joined =>
      rw [hclose] at hjoined
      exact fun i hi => hstay i (hjoined i hi)
    | returned =>
      rw [hclose] at hjoined
      exact fun i => hstay i (hjoined i)
  awake joined hclose i hi :=
    h.awake joined hclose i (hblocked i hi (h.stop_of_joining hclose))

/-- One thread that neither takes nor finishes a task. -/
theorem Sound.setThread {thread : ServiceThread} (h : s.Sound)
    (hold : (∀ task, s.threads i ≠ .running task) ∧ s.threads i ≠ .exited)
    (hnew : ∀ task, thread ≠ .running task)
    (hexit : thread = .exited → s.stop = true ∧ s.tasks = [])
    (hblocked : thread = .blocked → s.stop = false) : (s.setThread i thread).Sound := by
  refine h.setThreads (fun j task => ?_) (fun j hj => ?_) (fun j hj => ?_) fun j hj hstop => ?_
  · by_cases hji : j = i
    · subst hji
      rw [Function.update_self]
      exact ⟨fun he => absurd he (hnew task), fun he => absurd he (hold.1 task)⟩
    · rw [Function.update_of_ne hji]
  · have hji : j ≠ i := by
      rintro rfl
      exact hold.2 hj
    rw [Function.update_of_ne hji, hj]
  · by_cases hji : j = i
    · subst hji
      rw [Function.update_self] at hj
      exact hexit hj
    · rw [Function.update_of_ne hji] at hj
      exact h.exited j hj
  · by_cases hji : j = i
    · subst hji
      rw [Function.update_self] at hj
      rw [hblocked hj] at hstop
      cases hstop
    · rwa [Function.update_of_ne hji] at hj

/-- A waiting thread is woken up. -/
theorem Sound.setChecking (h : s.Sound) (hi : s.threads i = .blocked) :
    (s.setThread i .checking).Sound :=
  h.setThread (by simp [hi]) (by simp) (by simp) (by simp)

/-- The number of notifications that are due plays no part. -/
theorem Sound.setNotifying (h : s.Sound) (notifying : ℕ) :
    ({ s with notifying := notifying }).Sound :=
  ⟨h.order, h.distinct, h.numbered, h.ran, h.unfinished, h.once, h.finishedOnce, h.exited, h.stopped,
    h.joined, h.awake⟩

/-- The next call has a number of its own. -/
theorem Sound.calls_notMem (h : s.Sound) : s.calls ∉ s.accepted ++ s.rejected :=
  fun hmem => lt_irrefl _ (h.numbered _ hmem)

theorem Sound.receiveTask (h : s.Sound) (hs : s.step .receiveTask = some s') : s'.Sound := by
  simp only [ServiceThreadPool.step] at hs
  split_ifs at hs with hstop
  · obtain rfl := Option.some.inj hs
    refine { h with distinct := ?_, numbered := fun task hmem => ?_ }
    · rw [← List.append_assoc]
      exact List.nodup_append.mpr ⟨h.distinct, List.nodup_singleton _, by
        rintro task hmem _ hlast rfl
        obtain rfl := List.mem_singleton.mp hlast
        exact h.calls_notMem hmem⟩
    · rw [← List.append_assoc, List.mem_append, List.mem_singleton] at hmem
      rcases hmem with hmem | rfl
      · exact Nat.lt_succ_of_lt (h.numbered task hmem)
      · exact Nat.lt_succ_self _
  · obtain rfl := Option.some.inj hs
    have hperm : (s.accepted ++ [s.calls] ++ s.rejected).Perm (s.calls :: (s.accepted ++ s.rejected)) := by
      rw [List.append_assoc]
      exact List.perm_middle
    refine { h with order := ?_, distinct := ?_, numbered := fun task hmem => ?_, exited := ?_ }
    · change s.accepted ++ [s.calls] = s.started ++ (s.tasks ++ [s.calls])
      rw [h.order, List.append_assoc]
    · exact hperm.nodup_iff.mpr (List.nodup_cons.mpr ⟨h.calls_notMem, h.distinct⟩)
    · rcases List.mem_cons.mp (hperm.mem_iff.mp hmem) with rfl | hmem
      · exact Nat.lt_succ_self _
      · exact Nat.lt_succ_of_lt (h.numbered task hmem)
    · intro i hi
      exact absurd (h.exited i hi).1 hstop

/-- A thread takes a task, or finds that there is none. -/
theorem Sound.check (h : s.Sound) (hi : s.threads i = .checking) : (s.check i).Sound := by
  unfold ServiceThreadPool.check
  split
  · next task rest htasks =>
    have horder : s.accepted = (s.started ++ [task]) ++ rest := by
      rw [h.order, htasks, List.append_assoc, List.singleton_append]
    have hnew : task ∉ s.started := by
      have hnodup := (List.nodup_append.mp h.distinct).1
      rw [h.order, htasks] at hnodup
      intro hmem
      exact (List.nodup_append.mp hnodup).2.2 task hmem task (List.mem_cons_self ..) rfl
    have hnone : ∀ j t, s.threads j = .running t → j ≠ i := by
      rintro j t hj rfl
      rw [hi] at hj
      cases hj
    have hrunning : ∀ j t, (s.setThread i (.running task)).threads j = .running t ↔
        (j = i ∧ t = task) ∨ s.threads j = .running t := by
      intro j t
      by_cases hji : j = i
      · subst hji
        simp [ServiceThreadPool.setThread, hi, eq_comm]
      · simp [ServiceThreadPool.setThread, hji]
    have hunstarted : ∀ j t, s.threads j = .running t → t ≠ task := by
      rintro j t hj rfl
      exact hnew ((h.ran t).mpr (.inr ⟨j, hj⟩))
    refine ⟨horder, h.distinct, h.numbered, fun t => ?_, fun j t hj => ?_, fun j k t hj hk => ?_,
      h.finishedOnce, fun j hj => ?_, h.stopped, ?_, fun joined hclose j hj => ?_⟩
    · change t ∈ s.started ++ [task] ↔ t ∈ s.finished ∨
        ∃ j, (s.setThread i (.running task)).threads j = .running t
      simp only [hrunning, List.mem_append, List.mem_singleton, h.ran]
      grind
    · rcases (hrunning j t).mp hj with ⟨-, rfl⟩ | hold
      · exact fun hmem => hnew ((h.ran t).mpr (.inl hmem))
      · exact h.unfinished j t hold
    · rcases (hrunning j t).mp hj with ⟨hji, hjt⟩ | hold
      · rcases (hrunning k t).mp hk with ⟨hki, -⟩ | hold
        · rw [hji, hki]
        · exact absurd hjt (hunstarted k t hold)
      · rcases (hrunning k t).mp hk with ⟨-, hkt⟩ | hold'
        · exact absurd hkt (hunstarted j t hold)
        · exact h.once j k t hold hold'
    · -- no thread has returned, as there was a task
      have hji : j ≠ i := by
        rintro rfl
        simp [ServiceThreadPool.setThread] at hj
      have hexited := h.exited j (by simpa [ServiceThreadPool.setThread, Function.update_of_ne hji] using hj)
      rw [htasks] at hexited
      cases hexited.2
    · have hnot : ∀ j, s.threads j ≠ .exited := fun j hj => by
        have hexited := h.exited j hj
        rw [htasks] at hexited
        cases hexited.2
      have hjoined := h.joined
      change Joined (update s.threads i (.running task)) s.close
      cases hclose : s.close with
      | notCalled => trivial
      | stopped => trivial
      | joining joined =>
        rw [hclose] at hjoined
        exact fun j hj => absurd (hjoined j hj) (hnot j)
      | returned =>
        rw [hclose] at hjoined
        exact absurd (hjoined i) (hnot i)
    · have hji : j ≠ i := by
        rintro rfl
        simp [ServiceThreadPool.setThread] at hj
      exact h.awake joined hclose j
        (by simpa [ServiceThreadPool.setThread, Function.update_of_ne hji] using hj)
  · next htasks =>
    refine h.setThread (by simp [hi]) (fun task => ?_) (fun hexit => ⟨?_, htasks⟩) fun hblocked => ?_
    · split_ifs <;> simp
    · by_contra hstop
      rw [if_neg hstop] at hexit
      cases hexit
    · by_contra hstop
      rw [if_pos (by simpa using hstop)] at hblocked
      cases hblocked

/-- A task ends. -/
theorem Sound.finish {task : ℕ} (h : s.Sound) (hi : s.threads i = .running task) :
    ({ s.setThread i .checking with finished := s.finished ++ [task] }).Sound := by
  have hrunning : ∀ j t, (s.setThread i .checking).threads j = .running t ↔
      j ≠ i ∧ s.threads j = .running t := by
    intro j t
    by_cases hji : j = i
    · subst hji
      simp [ServiceThreadPool.setThread]
    · simp [ServiceThreadPool.setThread, hji]
  have hexited : ∀ j, (s.setThread i .checking).threads j = .exited ↔ s.threads j = .exited := by
    intro j
    by_cases hji : j = i
    · subst hji
      simp [ServiceThreadPool.setThread, hi]
    · simp [ServiceThreadPool.setThread, Function.update_of_ne hji]
  refine ⟨h.order, h.distinct, h.numbered, fun t => ?_, fun j t hj => ?_, fun j k t hj hk => ?_, ?_,
    fun j hj => h.exited j ((hexited j).mp hj), h.stopped, ?_, fun joined hclose j hj => ?_⟩
  · change t ∈ s.started ↔ t ∈ s.finished ++ [task] ∨
      ∃ j, (s.setThread i .checking).threads j = .running t
    simp only [hrunning, List.mem_append, List.mem_singleton, h.ran]
    constructor
    · rintro (hmem | ⟨j, hj⟩)
      · exact .inl (.inl hmem)
      · by_cases hji : j = i
        · subst hji
          rw [hi] at hj
          exact .inl (.inr (ServiceThread.running.inj hj).symm)
        · exact .inr ⟨j, hji, hj⟩
    · rintro ((hmem | rfl) | ⟨j, -, hj⟩)
      · exact .inl hmem
      · exact .inr ⟨i, hi⟩
      · exact .inr ⟨j, hj⟩
  · obtain ⟨hji, hold⟩ := (hrunning j t).mp hj
    change t ∉ s.finished ++ [task]
    rw [List.mem_append, List.mem_singleton, not_or]
    refine ⟨h.unfinished j t hold, ?_⟩
    rintro rfl
    exact hji (h.once j i t hold hi)
  · exact h.once j k t ((hrunning j t).mp hj).2 ((hrunning k t).mp hk).2
  · refine List.nodup_append.mpr ⟨h.finishedOnce, List.nodup_singleton _, ?_⟩
    rintro t hmem _ hlast rfl
    obtain rfl := List.mem_singleton.mp hlast
    exact h.unfinished i t hi hmem
  · have hjoined := h.joined
    change Joined (s.setThread i .checking).threads s.close
    cases hclose : s.close with
    | notCalled => trivial
    | stopped => trivial
    | joining joined =>
      rw [hclose] at hjoined
      exact fun j hj => (hexited j).mpr (hjoined j hj)
    | returned =>
      rw [hclose] at hjoined
      exact fun j => (hexited j).mpr (hjoined j)
  · have hji : j ≠ i := by
      rintro rfl
      simp [ServiceThreadPool.setThread] at hj
    exact h.awake joined hclose j
      (by simpa [ServiceThreadPool.setThread, Function.update_of_ne hji] using hj)

/-- `close` notifies all, or joins. -/
theorem Sound.join (h : s.Sound) (hs : s.step .join = some s') : s'.Sound := by
  simp only [ServiceThreadPool.step] at hs
  split at hs
  · next joined hclose =>
    have hjoined := h.joined
    have hstopped := h.stopped
    rw [hclose] at hjoined hstopped
    split_ifs at hs with hlt hexited
    · obtain rfl := Option.some.inj hs
      refine { h with
        stopped := by simpa using hstopped
        joined := fun i hi => ?_
        awake := fun _ _ => h.awake joined hclose }
      rcases Nat.lt_succ_iff_lt_or_eq.mp hi with hi | hi
      · exact hjoined i hi
      · obtain rfl : i = ⟨joined, hlt⟩ := Fin.ext hi
        exact hexited
    · obtain rfl := Option.some.inj hs
      exact { h with
        stopped := by simpa using hstopped
        joined := fun i => hjoined i (by omega)
        awake := by simp }
  · cases hs

/-- **Every step keeps the invariant.** -/
theorem Sound.step {action : ServiceAction n} (h : s.Sound) (hs : s.step action = some s') :
    s'.Sound := by
  cases action with
  | receiveTask => exact h.receiveTask hs
  | notifyOne woken =>
    cases woken with
    | some i =>
      simp only [ServiceThreadPool.step] at hs
      split_ifs at hs with hzero hi
      obtain rfl := Option.some.inj hs
      exact (h.setChecking hi).setNotifying _
    | none =>
      simp only [ServiceThreadPool.step] at hs
      split_ifs at hs
      obtain rfl := Option.some.inj hs
      exact h.setNotifying _
  | wakeUp i =>
    simp only [ServiceThreadPool.step] at hs
    split_ifs at hs with hi
    obtain rfl := Option.some.inj hs
    exact h.setChecking hi
  | check i =>
    simp only [ServiceThreadPool.step] at hs
    split_ifs at hs with hi
    obtain rfl := Option.some.inj hs
    exact h.check hi
  | finish i outcome =>
    simp only [ServiceThreadPool.step] at hs
    split at hs
    · next task hi =>
      obtain rfl := Option.some.inj hs
      exact h.finish hi
    · cases hs
  | close =>
    simp only [ServiceThreadPool.step] at hs
    split_ifs at hs
    obtain rfl := Option.some.inj hs
    exact { h with
      exited := fun i hi => ⟨rfl, (h.exited i hi).2⟩
      stopped := by simp
      joined := trivial
      awake := by simp }
  | notifyAll =>
    simp only [ServiceThreadPool.step] at hs
    split_ifs at hs with hclose
    obtain rfl := Option.some.inj hs
    have hnotified : ∀ thread, (∀ task, notified thread = .running task ↔ thread = .running task) ∧
        (notified thread = .exited ↔ thread = .exited) ∧ notified thread ≠ .blocked := by
      intro thread
      cases thread <;> simp [notified]
    have hthreads := h.setThreads (fun i task => (hnotified (s.threads i)).1 task)
      (fun i hi => (hnotified _).2.1.mpr hi) (fun i hi => h.exited i ((hnotified _).2.1.mp hi))
      fun i hi => absurd hi (hnotified _).2.2
    have hstopped := h.stopped
    rw [hclose] at hstopped
    exact { hthreads with
      stopped := by simpa using hstopped
      joined := fun i hi => absurd hi (Nat.not_lt_zero _)
      awake := fun _ _ i => (hnotified _).2.2 }
  | join => exact h.join hs

/-- The invariant holds along every run. -/
theorem Sound.run {actions : List (ServiceAction n)} (h : s.Sound) (hr : s.run actions = some s') :
    s'.Sound := by
  induction actions generalizing s with
  | nil =>
    obtain rfl := Option.some.inj hr
    exact h
  | cons action actions ih =>
    obtain ⟨s₁, hs, hr⟩ := Option.bind_eq_some_iff.mp hr
    exact ih (h.step hs) hr

/-! ### `close` returns -/

/-- What a thread has to do at most before it returns or takes another task. -/
def threadWork : ServiceThread → ℕ
  | .checking => 1
  | .blocked | .running _ => 2
  | .exited => 0

/-- What the caller of `close` has to do. -/
def closeWork (n : ℕ) : CloseStage → ℕ
  | .notCalled => n + 5
  | .stopped => n + 4
  | .joining joined => (n + 1 - joined) + 1
  | .returned => 0

/-- **What is left to do.** A queued task has to be taken and to end. -/
def work (s : ServiceThreadPool n) : ℕ :=
  3 * s.tasks.length + ∑ i, threadWork (s.threads i) + closeWork n s.close

/-- The steps of the threads and of `close`, apart from threads that wake up for no reason. -/
def proceeds : ServiceAction n → Bool
  | .check _ | .finish _ _ | .notifyAll | .join => true
  | .receiveTask | .notifyOne _ | .wakeUp _ | .close => false

theorem sum_setThread (s : ServiceThreadPool n) (i : Fin (n + 1)) (thread : ServiceThread) :
    ∑ j, threadWork ((s.setThread i thread).threads j) + threadWork (s.threads i) =
      ∑ j, threadWork (s.threads j) + threadWork thread := by
  have hupdate : (fun j => threadWork ((s.setThread i thread).threads j)) =
      update (fun j => threadWork (s.threads j)) i (threadWork thread) := by
    funext j
    by_cases hji : j = i
    · subst hji
      simp [ServiceThreadPool.setThread]
    · simp [ServiceThreadPool.setThread, hji]
  rw [hupdate, Finset.sum_update_of_mem (Finset.mem_univ i), ← Finset.sum_sdiff
    (Finset.subset_univ {i})]
  simp only [Finset.sum_singleton]
  omega

/-- **Work is never added once `stop_` is set**, and every step of the threads and of `close` does
some. -/
theorem work_step {action : ServiceAction n} (h : s.Sound) (hstop : s.stop = true)
    (hs : s.step action = some s') :
    s'.stop = true ∧ s'.work + (proceeds action).toNat ≤ s.work := by
  cases action with
  | receiveTask =>
    simp only [ServiceThreadPool.step, if_pos hstop] at hs
    obtain rfl := Option.some.inj hs
    exact ⟨hstop, by simp [work, proceeds]⟩
  | notifyOne woken =>
    cases woken with
    | some i =>
      simp only [ServiceThreadPool.step] at hs
      split_ifs at hs with hzero hi
      obtain rfl := Option.some.inj hs
      have hsum := sum_setThread s i .checking
      rw [hi] at hsum
      refine ⟨hstop, ?_⟩
      simp only [work, proceeds, Bool.toNat_false, threadWork] at hsum ⊢
      change 3 * s.tasks.length + _ + closeWork n s.close + 0 ≤ _
      omega
    | none =>
      simp only [ServiceThreadPool.step] at hs
      split_ifs at hs
      obtain rfl := Option.some.inj hs
      exact ⟨hstop, by simp [work, proceeds]⟩
  | wakeUp i =>
    simp only [ServiceThreadPool.step] at hs
    split_ifs at hs with hi
    obtain rfl := Option.some.inj hs
    have hsum := sum_setThread s i .checking
    rw [hi] at hsum
    refine ⟨hstop, ?_⟩
    simp only [work, proceeds, Bool.toNat_false, threadWork] at hsum ⊢
    change 3 * s.tasks.length + _ + closeWork n s.close + 0 ≤ _
    omega
  | check i =>
    simp only [ServiceThreadPool.step] at hs
    split_ifs at hs with hi
    obtain rfl := Option.some.inj hs
    unfold ServiceThreadPool.check
    split
    · next task rest htasks =>
      have hsum := sum_setThread s i (.running task)
      rw [hi] at hsum
      refine ⟨hstop, ?_⟩
      simp only [work, proceeds, Bool.toNat_true, threadWork, htasks, List.length_cons] at hsum ⊢
      change 3 * rest.length + _ + closeWork n s.close + 1 ≤ _
      omega
    · next htasks =>
      have hsum := sum_setThread s i .exited
      rw [hi] at hsum
      rw [if_pos hstop]
      refine ⟨hstop, ?_⟩
      simp only [work, proceeds, Bool.toNat_true, threadWork] at hsum ⊢
      change 3 * s.tasks.length + _ + closeWork n s.close + 1 ≤ _
      omega
  | finish i outcome =>
    simp only [ServiceThreadPool.step] at hs
    split at hs
    · next task hi =>
      obtain rfl := Option.some.inj hs
      have hsum := sum_setThread s i .checking
      rw [hi] at hsum
      refine ⟨hstop, ?_⟩
      simp only [work, proceeds, Bool.toNat_true, threadWork] at hsum ⊢
      change 3 * s.tasks.length + _ + closeWork n s.close + 1 ≤ _
      omega
    · cases hs
  | close =>
    simp only [ServiceThreadPool.step] at hs
    split_ifs at hs with hclose
    exact absurd hclose (h.stopped.mp hstop)
  | notifyAll =>
    simp only [ServiceThreadPool.step] at hs
    split_ifs at hs with hclose
    obtain rfl := Option.some.inj hs
    have hsum : ∑ i, threadWork (notified (s.threads i)) ≤ ∑ i, threadWork (s.threads i) := by
      refine Finset.sum_le_sum fun i _ => ?_
      cases s.threads i <;> simp [notified, threadWork]
    refine ⟨hstop, ?_⟩
    simp only [work, proceeds, Bool.toNat_true, closeWork, hclose]
    omega
  | join =>
    simp only [ServiceThreadPool.step] at hs
    split at hs
    · next joined hclose =>
      split_ifs at hs with hlt hexited
      · obtain rfl := Option.some.inj hs
        refine ⟨hstop, ?_⟩
        simp only [work, proceeds, Bool.toNat_true, closeWork, hclose]
        omega
      · obtain rfl := Option.some.inj hs
        refine ⟨hstop, ?_⟩
        simp only [work, proceeds, Bool.toNat_true, closeWork, hclose]
        omega
    · cases hs

/-- **From `stop_` on there are only so many steps.** -/
theorem work_run {actions : List (ServiceAction n)} (h : s.Sound) (hstop : s.stop = true)
    (hr : s.run actions = some s') : s'.work + actions.countP proceeds ≤ s.work := by
  induction actions generalizing s with
  | nil =>
    obtain rfl := Option.some.inj hr
    simp
  | cons action actions ih =>
    obtain ⟨s₁, hs, hr⟩ := Option.bind_eq_some_iff.mp hr
    obtain ⟨hstop₁, hwork⟩ := work_step h hstop hs
    have htail := ih (h.step hs) hstop₁ hr
    rw [List.countP_cons]
    cases hproceeds : proceeds action with
    | true =>
      rw [hproceeds, Bool.toNat_true] at hwork
      simp only [if_true]
      omega
    | false =>
      rw [hproceeds, Bool.toNat_false] at hwork
      simp only [Bool.false_eq_true, if_false]
      omega

/-- **Nothing is stuck**: until `close` has returned, a thread or `close` can go on. -/
theorem exists_step (h : s.Sound) (hstop : s.stop = true) (hclose : s.close ≠ .returned) :
    ∃ action, proceeds action = true ∧ (s.step action).isSome = true := by
  have hthread : ∀ i, s.threads i ≠ .exited → s.threads i ≠ .blocked →
      ∃ action, proceeds action = true ∧ (s.step action).isSome = true := by
    intro i hexited hblocked
    cases hi : s.threads i with
    | checking => exact ⟨.check i, rfl, by simp [ServiceThreadPool.step, hi]⟩
    | blocked => exact absurd hi hblocked
    | running task => exact ⟨.finish i .returned, rfl, by simp [ServiceThreadPool.step, hi]⟩
    | exited => exact absurd hi hexited
  cases hphase : s.close with
  | notCalled => exact absurd hphase (h.stopped.mp hstop)
  | stopped => exact ⟨.notifyAll, rfl, by simp [ServiceThreadPool.step, hphase]⟩
  | joining joined =>
    by_cases hlt : joined < n + 1
    · by_cases hexited : s.threads ⟨joined, hlt⟩ = .exited
      · exact ⟨.join, rfl, by simp [ServiceThreadPool.step, hphase, hlt, hexited]⟩
      · exact hthread _ hexited (h.awake joined hphase _)
    · exact ⟨.join, rfl, by simp [ServiceThreadPool.step, hphase, hlt]⟩
  | returned => exact absurd hphase hclose

end ServiceThreadPool

/-- **Accepted service tasks run exactly once.** After any run of the threads, of any number of calls of
`receiveTask` and of one `close`: the tasks have been started in the order in which they were accepted,
none of them twice, and no task that was rejected; however a task ends, its thread goes on in the same
way; a thread returns only when everything is done; and when `close` has returned, every accepted task
has run to its end exactly once. From `stop_` on, the threads and `close` are never stuck before that,
and have only so many steps left. -/
theorem accepted_tasks_run_once {n : ℕ} {s : ServiceThreadPool n} {actions : List (ServiceAction n)}
    (h : ({} : ServiceThreadPool n).run actions = some s) :
    s.started <+: s.accepted ∧ s.started.Nodup ∧ (∀ task ∈ s.rejected, task ∉ s.started) ∧
      (∀ i outcome outcome', s.step (.finish i outcome) = s.step (.finish i outcome')) ∧
      (∀ i task outcome, s.threads i = .running task → s.step (.finish i outcome) =
        some { s.setThread i .checking with finished := s.finished ++ [task] }) ∧
      (∀ i, s.threads i = .exited → s.stop = true ∧ s.tasks = []) ∧
      (s.close = .returned → s.started = s.accepted ∧ ∀ task, s.finished.count task =
        s.accepted.count task ∧ (task ∈ s.accepted → s.finished.count task = 1)) ∧
      (s.stop = true → s.close ≠ .returned →
        ∃ action, ServiceThreadPool.proceeds action = true ∧ (s.step action).isSome = true) ∧
      (s.stop = true → ∀ more s', s.run more = some s' →
        more.countP ServiceThreadPool.proceeds ≤ s.work) := by
  have hsound := ServiceThreadPool.sound_initial.run h
  have hfirst : s.started <+: s.accepted := hsound.order ▸ List.prefix_append ..
  have hnodup := List.nodup_append.mp hsound.distinct
  refine ⟨hfirst, hnodup.1.sublist hfirst.sublist, fun task hrejected hstarted => ?_,
    fun i outcome outcome' => rfl, fun i task outcome hi => by simp [ServiceThreadPool.step, hi],
    hsound.exited, fun hclose => ?_, ServiceThreadPool.exists_step hsound, fun hstop more s' hr => ?_⟩
  · exact hnodup.2.2 task (hfirst.subset hstarted) task hrejected rfl
  · have hexited := hsound.joined
    rw [hclose] at hexited
    have hempty : s.tasks = [] := (hsound.exited 0 (hexited 0)).2
    have hstarted : s.started = s.accepted := by rw [hsound.order, hempty, List.append_nil]
    have hmem : ∀ task, task ∈ s.finished ↔ task ∈ s.accepted := by
      intro task
      rw [← hstarted, hsound.ran]
      refine ⟨.inl, ?_⟩
      rintro (hfinished | ⟨i, hi⟩)
      · exact hfinished
      · rw [hexited i] at hi
        cases hi
    refine ⟨hstarted, fun task => ⟨?_, fun haccepted => ?_⟩⟩
    · rw [hsound.finishedOnce.count, hnodup.1.count, if_congr (hmem task) rfl rfl]
    · exact List.count_eq_one_of_mem hsound.finishedOnce ((hmem task).mpr haccepted)
  · have hwork := ServiceThreadPool.work_run hsound hstop hr
    omega

/-- Two threads and three calls; the second one is queued when `stop_` is set, and the third comes too
late. -/
def closingRun : List (ServiceAction 1) :=
  let first : Fin (1 + 1) := ⟨0, Nat.succ_pos 1⟩
  let second : Fin (1 + 1) := ⟨1, Nat.lt_succ_self 1⟩
  [.check first, .receiveTask, .notifyOne (some first), .check first, .receiveTask, .close,
    .receiveTask, .finish first .unknown, .notifyOne none, .check first, .notifyAll, .check second,
    .finish first .exception, .check first, .join, .join, .join]

theorem accepted_tasks_run_once_two :
    ∃ s : ServiceThreadPool 1, ({} : ServiceThreadPool 1).run closingRun = some s ∧
      s.close = .returned ∧ s.accepted = [0, 1] ∧ s.rejected = [2] ∧ s.started = s.accepted :=
  ⟨_, rfl, rfl, rfl, rfl,
    ((@accepted_tasks_run_once 1 _ closingRun rfl).2.2.2.2.2.2.1 rfl).1⟩

end ChatBackend
