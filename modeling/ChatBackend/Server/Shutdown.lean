import ChatBackend.Server.ThreadPool

/-!
# What becomes of the connections

`src/server/ThreadPool.cpp`: every descriptor that the pool has is either in the local variable of the
accept loop, in the queue, or with a worker, and each of them closes it or hands it on. Nothing else is
open in the pool's name, and no number stays in `active_fds_` that no worker is going to erase. After
`requestStop` the workers go on with what they have; this ends.

## Main definitions

* `WorkerPhase.turns`, `WorkerPhase.erases` — what a worker has before it
* `ThreadPool.Accounted` — the invariant
* `ThreadPool.history`, `ThreadPool.queued`, `ThreadPool.taken`
* `ThreadPool.SparesOthers` — the steps that erase no number of a connection in progress

## Main results

* `connections_accounted`
* `shutdown_drains`
-/

namespace ChatBackend

open Function (update)

/-! ### What a worker has before it -/

/-- The number that a worker will still erase from `active_fds_`. -/
def WorkerPhase.erases : WorkerPhase → Option ℕ
  | handling fd | returned fd | upgraded fd => some fd
  | forwarded fd _ | unregistered fd _ | handedOff fd => some fd
  | waiting | prepared _ | closing _ => none

/-- How many turns a worker has at most before it waits again. -/
def WorkerPhase.turns : WorkerPhase → ℕ
  | waiting => 0
  | closing _ | handedOff _ => 1
  | returned _ | unregistered _ _ => 2
  | forwarded _ _ => 3
  | upgraded _ => 4
  | handling _ => 5
  | prepared _ => 6

/-- The parties of the pool. -/
def Owner.InPool {ι : Type} : Owner ι → Prop
  | acceptLoop | taskQueue | httpWorker _ => True
  | webSocketPool | other => False

/-- It is the turn of a worker. -/
def PoolAction.isTurnOf {ι : Type} [DecidableEq ι] (i : ι) : PoolAction ι → Bool
  | worker j _ => i = j
  | _ => false

namespace ThreadPool

variable {ι : Type} [DecidableEq ι] {s s' : ThreadPool ι} {i j : ι} {fd : ℕ}

/-- **A turn of a worker, by what is left to do.** A turn that takes a connection begins seven. -/
structure Turned (s : ThreadPool ι) (i : ι) (s' : ThreadPool ι) (phase : WorkerPhase) : Prop where
  workers : s'.workers = update s.workers i phase
  turns : phase.turns + 7 * s'.taskQueue.length < (s.workers i).turns + 7 * s.taskQueue.length
  erases : ∀ x ∈ s'.activeFds,
    phase.erases = some x ∨ x ∈ s.activeFds ∧ (s.workers i).erases ≠ some x
  maxCapacity : s'.maxCapacity = s.maxCapacity
  stopping : s'.stopping = s.stopping
  accepted : s'.accepted = s.accepted

/-- The set does not change. -/
theorem turned_setWorker {old phase : WorkerPhase} (hphase : s.workers i = old)
    (hturns : phase.turns < old.turns)
    (herases : ∀ x, old.erases = some x → phase.erases = some x) :
    Turned s i (s.setWorker i phase) phase := by
  subst hphase
  refine ⟨rfl, ?_, fun x hx => ?_, rfl, rfl, rfl⟩
  · show phase.turns + 7 * s.taskQueue.length < _
    omega
  · by_cases hold : (s.workers i).erases = some x
    · exact Or.inl (herases x hold)
    · exact Or.inr ⟨hx, hold⟩

/-- A descriptor is closed, or handed over, on the way. -/
theorem turned_setOwner {old phase : WorkerPhase} (hphase : s.workers i = old)
    (new : Option (Owner ι)) (hturns : phase.turns < old.turns)
    (herases : ∀ x, old.erases = some x → phase.erases = some x) :
    Turned s i ((s.setOwner fd new).setWorker i phase) phase := by
  obtain ⟨-, hshorter, hkept, -, -, -⟩ := turned_setWorker hphase hturns herases
  exact ⟨rfl, hshorter, hkept, rfl, rfl, rfl⟩

/-- The number is erased. -/
theorem turned_eraseFd {old phase : WorkerPhase} (hphase : s.workers i = old)
    (hturns : phase.turns < old.turns) (hfd : old.erases = some fd) :
    Turned s i ((s.eraseFd fd).setWorker i phase) phase := by
  subst hphase
  refine ⟨rfl, ?_, fun x hx => Or.inr ?_, rfl, rfl, rfl⟩
  · show phase.turns + 7 * s.taskQueue.length < _
    omega
  · obtain ⟨hne, hmem⟩ := Finset.mem_erase.mp hx
    refine ⟨hmem, fun hx => hne ?_⟩
    rw [hfd] at hx
    exact (Option.some.inj hx).symm

/-- It takes a connection. -/
theorem turned_take {rest : List ℕ} (hphase : s.workers i = .waiting)
    (hqueue : s.taskQueue = fd :: rest) (new : Option (Owner ι)) :
    Turned s i ((s.popQueue.setOwner fd new).setWorker i (.prepared fd)) (.prepared fd) := by
  refine ⟨rfl, ?_, fun x hx => Or.inr ⟨hx, ?_⟩, rfl, rfl, rfl⟩
  · show 6 + 7 * s.taskQueue.tail.length < _
    rw [hqueue, hphase, List.tail_cons, List.length_cons, WorkerPhase.turns]
    omega
  · rw [hphase]
    intro hx
    cases hx

/-- It registers the number. -/
theorem turned_register (hphase : s.workers i = .prepared fd) :
    Turned s i ((s.insertFd fd).setWorker i (.handling fd)) (.handling fd) := by
  refine ⟨rfl, ?_, fun x hx => ?_, rfl, rfl, rfl⟩
  · show 5 + 7 * s.taskQueue.length < _
    rw [hphase, WorkerPhase.turns]
    omega
  · rcases Finset.mem_insert.mp hx with rfl | hx
    · exact Or.inl rfl
    · exact Or.inr ⟨hx, by rw [hphase]; intro hx; cases hx⟩

theorem turned_of_stepWorker {action : WorkerAction} (hs : s.stepWorker i action = some s') :
    ∃ phase, Turned s i s' phase := by
  unfold stepWorker at hs
  split at hs
  · next hphase =>
    split at hs
    · next hqueue =>
      split_ifs at hs
      obtain rfl := Option.some.inj hs
      exact ⟨_, turned_take hphase hqueue _⟩
    · cases hs
  · next hphase =>
    obtain rfl := Option.some.inj hs
    exact ⟨_, turned_setOwner hphase _ (by simp [WorkerPhase.turns]) fun _ hx => by cases hx⟩
  · next hphase =>
    split_ifs at hs
    · obtain rfl := Option.some.inj hs
      exact ⟨_, turned_setOwner hphase _ (by simp [WorkerPhase.turns]) fun _ hx => by cases hx⟩
    · obtain rfl := Option.some.inj hs
      exact ⟨_, turned_register hphase⟩
  · next hphase =>
    obtain rfl := Option.some.inj hs
    exact ⟨_, turned_setWorker hphase (by simp [WorkerPhase.turns]) fun _ => id⟩
  · next hphase =>
    obtain rfl := Option.some.inj hs
    exact ⟨_, turned_setWorker hphase (by simp [WorkerPhase.turns]) fun _ => id⟩
  · next hphase =>
    split_ifs at hs
    · obtain rfl := Option.some.inj hs
      exact ⟨_, turned_setOwner hphase _ (by simp [WorkerPhase.turns]) fun _ => id⟩
    · obtain rfl := Option.some.inj hs
      exact ⟨_, turned_setOwner hphase _ (by simp [WorkerPhase.turns]) fun _ => id⟩
    · obtain rfl := Option.some.inj hs
      exact ⟨_, turned_setWorker hphase (by simp [WorkerPhase.turns]) fun _ => id⟩
  · next hphase =>
    obtain rfl := Option.some.inj hs
    exact ⟨_, turned_eraseFd hphase (by simp [WorkerPhase.turns]) rfl⟩
  · next hphase =>
    obtain rfl := Option.some.inj hs
    exact ⟨_, turned_setWorker hphase (by simp [WorkerPhase.turns]) fun _ => id⟩
  · next hphase =>
    obtain rfl := Option.some.inj hs
    exact ⟨_, turned_setOwner hphase _ (by simp [WorkerPhase.turns]) fun _ => id⟩
  · next hphase =>
    obtain rfl := Option.some.inj hs
    exact ⟨_, turned_eraseFd hphase (by simp [WorkerPhase.turns]) rfl⟩
  · next hphase =>
    obtain rfl := Option.some.inj hs
    exact ⟨_, turned_eraseFd hphase (by simp [WorkerPhase.turns]) rfl⟩
  · next hphase =>
    obtain rfl := Option.some.inj hs
    exact ⟨_, turned_setOwner hphase _ (by simp [WorkerPhase.turns]) fun _ hx => by cases hx⟩
  · cases hs

/-! ### Nothing stays open -/

/-- **What the pool keeps**: the queue is bounded, and empty after `requestStop`; whatever is open in the
name of the accept loop, the queue or a worker is in its variables; and every number in `active_fds_`
will be erased. -/
structure Accounted (s : ThreadPool ι) : Prop where
  bounded : s.taskQueue.length ≤ s.maxCapacity
  stopped : s.stopping = true → s.taskQueue = []
  accounts : Descriptors.Accounts s.owner s.holds Owner.InPool
  erased : ∀ fd ∈ s.activeFds, ∃ i, (s.workers i).erases = some fd

omit [DecidableEq ι] in
theorem accounted_start (maxCapacity : ℕ) : Accounted ({ maxCapacity } : ThreadPool ι) :=
  ⟨Nat.zero_le _, fun _ => rfl, fun _ _ _ h => (by cases h),
    fun _ h => absurd h (Finset.notMem_empty _)⟩

omit [DecidableEq ι] in
/-- What the parties hold is in their variables. -/
theorem holds_mono {o : Owner ι} {x : ℕ} (h : s.holds o x)
    (haccepted : s.accepted = some x → s'.accepted = some x)
    (hqueue : x ∈ s.taskQueue → x ∈ s'.taskQueue)
    (hworkers : ∀ i, (s.workers i).owned = some x → (s'.workers i).owned = some x) :
    s'.holds o x := by
  cases o with
  | acceptLoop => exact haccepted h
  | taskQueue => exact hqueue h
  | httpWorker i => exact hworkers i h
  | webSocketPool => exact h
  | other => exact h

/-- What the others hold stays, and so does what the worker still has in its new phase. -/
theorem holds_of_setWorker {old phase : WorkerPhase} {o : Owner ι} {x : ℕ}
    (hphase : s.workers i = old) (h : s.holds o x)
    (howned : old.owned = some x → phase.owned = some x) : (s.setWorker i phase).holds o x := by
  refine holds_mono h id id fun j hold => ?_
  show (update s.workers i phase j).owned = some x
  by_cases hj : j = i
  · subst hj
    rw [Function.update_self]
    exact howned (hphase ▸ hold)
  · rw [Function.update_of_ne hj]
    exact hold

omit [DecidableEq ι] in
/-- The others keep what they have when the front of the queue is taken. -/
theorem holds_popQueue {rest : List ℕ} {o : Owner ι} {x : ℕ} (hqueue : s.taskQueue = fd :: rest)
    (hx : x ≠ fd) (h : s.holds o x) : s.popQueue.holds o x := by
  refine holds_mono h id (fun hmem => ?_) fun _ => id
  show x ∈ s.taskQueue.tail
  rw [hqueue] at hmem ⊢
  exact (List.mem_cons.mp hmem).resolve_left hx

/-- **A turn of a worker.** -/
theorem accounts_of_moved {action : WorkerAction}
    (h : Descriptors.Accounts s.owner s.holds Owner.InPool) (hs : Moved s i action s') :
    Descriptors.Accounts s'.owner s'.holds Owner.InPool := by
  cases hs with
  | @took fd rest hphase hqueue =>
    refine h.assign (fun o _ hnew => ?_) fun o x hx hold => ?_
    · obtain rfl := Option.some.inj hnew
      show (update s.workers i (.prepared fd) i).owned = some fd
      rw [Function.update_self, WorkerPhase.owned]
    · exact holds_of_setWorker hphase (holds_popQueue hqueue hx hold) fun howned => by cases howned
  | registered hphase =>
    exact h.mono fun o x hold => holds_of_setWorker hphase hold id
  | continued howned =>
    exact h.mono fun o x hold => holds_of_setWorker rfl hold howned.trans
  | closed hfd =>
    refine h.close fun o x hx hold => holds_of_setWorker rfl hold fun howned => ?_
    exact absurd (Option.some.inj (howned.symm.trans hfd)) hx
  | @handedOver fd phase wakeupFails hphase =>
    refine h.assign (fun o ho hnew => ?_) fun o x hx hold => ?_
    · obtain rfl := Option.some.inj hnew
      exact ho.elim
    · exact holds_of_setWorker hphase hold fun howned => absurd (Option.some.inj howned).symm hx
  | unregistered hphase =>
    exact h.mono fun o x hold => holds_of_setWorker hphase hold id
  | unregisteredFirst hphase =>
    exact h.mono fun o x hold => holds_of_setWorker hphase hold id
  | unregisteredAgain hphase =>
    exact h.mono fun o x hold => holds_of_setWorker hphase hold fun howned => by cases howned

/-- Every number is still erased after a turn. -/
theorem erased_of_turned {phase : WorkerPhase} (hs : Turned s i s' phase)
    (h : ∀ fd ∈ s.activeFds, ∃ i, (s.workers i).erases = some fd) :
    ∀ fd ∈ s'.activeFds, ∃ i, (s'.workers i).erases = some fd := by
  intro fd hfd
  rw [hs.workers]
  rcases hs.erases fd hfd with hphase | ⟨hold, hne⟩
  · exact ⟨i, by rw [Function.update_self]; exact hphase⟩
  · obtain ⟨j, hj⟩ := h fd hold
    have hji : j ≠ i := by
      rintro rfl
      exact hne hj
    exact ⟨j, by rw [Function.update_of_ne hji]; exact hj⟩

/-- The connection that a turn takes, if it takes one. -/
def taken (s : ThreadPool ι) : PoolAction ι → List ℕ
  | .worker _ .take => s.taskQueue.take 1
  | _ => []

/-- The connection that the accept loop queues, if it does. -/
def queued (s : ThreadPool ι) : PoolAction ι → List ℕ
  | .push =>
    if s.stopping ∨ s.maxCapacity ≤ s.taskQueue.length then [] else s.accepted.toList
  | _ => []

theorem taken_append_of_stepWorker {action : WorkerAction} (hs : s.stepWorker i action = some s') :
    s.taken (.worker i action) ++ s'.taskQueue = s.taskQueue := by
  unfold stepWorker at hs
  split at hs
  · split at hs
    · next hqueue =>
      split_ifs at hs
      obtain rfl := Option.some.inj hs
      show s.taskQueue.take 1 ++ s.taskQueue.tail = s.taskQueue
      rw [hqueue]
      rfl
    · cases hs
  all_goals
    try split_ifs at hs
    all_goals
      first
        | (obtain rfl := Option.some.inj hs; rfl)
        | cases hs

omit [DecidableEq ι] in
/-- The accept loop keeps account of its connection, and of the queue. -/
theorem accounts_push (h : Descriptors.Accounts s.owner s.holds Owner.InPool)
    (hfd : s.accepted = some fd) :
    Descriptors.Accounts (s.push fd).owner (s.push fd).holds Owner.InPool := by
  have hother : ∀ {x}, x ≠ fd → ¬ s.accepted = some x := by
    intro x hx hsome
    exact hx (Option.some.inj (hsome.symm.trans hfd))
  rw [push]
  split_ifs
  · refine h.close fun o x hx hold => ?_
    exact holds_mono hold (fun hsome => absurd hsome (hother hx)) id fun _ => id
  · refine h.assign (fun o _ hnew => ?_) fun o x hx hold => ?_
    · obtain rfl := Option.some.inj hnew
      exact List.mem_append_right _ (List.mem_singleton_self fd)
    · exact holds_mono hold (fun hsome => absurd hsome (hother hx)) (List.mem_append_left _)
        fun _ => id

omit [DecidableEq ι] in
/-- A descriptor of nobody in the pool changes hands. -/
theorem accounts_elsewhere (h : Descriptors.Accounts s.owner s.holds Owner.InPool)
    {new : Option (Owner ι)} (hnew : ∀ o, o.InPool → new ≠ some o) :
    Descriptors.Accounts (s.setOwner fd new).owner (s.setOwner fd new).holds Owner.InPool :=
  h.assign (fun o ho heq => absurd heq (hnew o ho)) fun _ _ _ hold => hold

theorem accounts_step {action : PoolAction ι}
    (h : Descriptors.Accounts s.owner s.holds Owner.InPool) (hs : s.step action = some s') :
    Descriptors.Accounts s'.owner s'.holds Owner.InPool := by
  cases action <;> simp only [step] at hs
  case accept fd =>
    split_ifs at hs with hfree
    obtain rfl := Option.some.inj hs
    refine h.assign (fun o _ hnew => ?_) fun o x _ hold => ?_
    · obtain rfl := Option.some.inj hnew
      rfl
    · refine holds_mono hold (fun hsome => ?_) id fun _ => id
      cases hfree.2.symm.trans hsome
  case push =>
    obtain ⟨fd, hfd, rfl⟩ := Option.map_eq_some_iff.mp hs
    exact accounts_push h hfd
  case requestStop =>
    obtain rfl := Option.some.inj hs
    refine h.closeAll fun o x hx hold => ?_
    exact holds_mono hold id (fun hmem => absurd hmem hx) fun _ => id
  case worker i action => exact accounts_of_moved h (moved_of_stepWorker hs)
  case setForwarding forwarding =>
    obtain rfl := Option.some.inj hs
    exact h
  case openOther fd =>
    split_ifs at hs
    obtain rfl := Option.some.inj hs
    refine accounts_elsewhere h fun o ho heq => ?_
    obtain rfl := Option.some.inj heq
    exact ho
  all_goals
    split_ifs at hs
    obtain rfl := Option.some.inj hs
    exact accounts_elsewhere h fun _ _ heq => by cases heq

/-! ### One after the other -/

/-- **What the accept loop queues is what the workers take**, and what is still queued; unless the pool
stops. -/
theorem order_step {action : PoolAction ι} (hs : s.step action = some s') :
    s'.stopping = true ∧ s'.taskQueue = [] ∧ s.taken action = [] ∨
      s'.stopping = s.stopping ∧ s.taken action ++ s'.taskQueue = s.taskQueue ++ s.queued action := by
  cases action <;> simp only [step] at hs
  case push =>
    obtain ⟨fd, hfd, rfl⟩ := Option.map_eq_some_iff.mp hs
    refine Or.inr ?_
    rw [push, queued, hfd]
    split_ifs
    · exact ⟨rfl, (List.append_nil _).symm⟩
    · exact ⟨rfl, rfl⟩
  case requestStop =>
    obtain rfl := Option.some.inj hs
    exact Or.inl ⟨rfl, rfl, rfl⟩
  case worker i action =>
    obtain ⟨phase, hturn⟩ := turned_of_stepWorker hs
    refine Or.inr ⟨hturn.stopping, ?_⟩
    rw [taken_append_of_stepWorker hs]
    exact (List.append_nil _).symm
  case setForwarding forwarding =>
    obtain rfl := Option.some.inj hs
    exact Or.inr ⟨rfl, (List.append_nil _).symm⟩
  all_goals
    split_ifs at hs
    obtain rfl := Option.some.inj hs
    exact Or.inr ⟨rfl, (List.append_nil _).symm⟩

theorem stopping_step {action : PoolAction ι} (hs : s.step action = some s')
    (hstop : s.stopping = true) : s'.stopping = true := by
  rcases order_step hs with ⟨hs', -, -⟩ | ⟨hsame, -⟩
  · exact hs'
  · exact hsame.trans hstop

/-- Only a turn changes what a worker does and what is registered. -/
theorem frame_step {action : PoolAction ι} (hs : s.step action = some s')
    (hother : ∀ i turn, action ≠ .worker i turn) :
    s'.workers = s.workers ∧ s'.activeFds = s.activeFds ∧ s'.maxCapacity = s.maxCapacity := by
  cases action <;> simp only [step] at hs
  case worker i turn => exact absurd rfl (hother i turn)
  case push =>
    obtain ⟨fd, -, rfl⟩ := Option.map_eq_some_iff.mp hs
    rw [push]
    split_ifs
    · exact ⟨rfl, rfl, rfl⟩
    · exact ⟨rfl, rfl, rfl⟩
  case requestStop =>
    obtain rfl := Option.some.inj hs
    exact ⟨rfl, rfl, rfl⟩
  case setForwarding forwarding =>
    obtain rfl := Option.some.inj hs
    exact ⟨rfl, rfl, rfl⟩
  all_goals
    split_ifs at hs
    obtain rfl := Option.some.inj hs
    exact ⟨rfl, rfl, rfl⟩

theorem maxCapacity_step {action : PoolAction ι} (hs : s.step action = some s') :
    s'.maxCapacity = s.maxCapacity := by
  cases action with
  | worker i turn =>
    obtain ⟨phase, hturn⟩ := turned_of_stepWorker hs
    exact hturn.maxCapacity
  | _ => exact (frame_step hs fun _ _ heq => by cases heq).2.2

omit [DecidableEq ι] in
/-- The accept loop queues one connection at most, when there is room and the pool is not stopping. -/
theorem queued_cases (s : ThreadPool ι) (action : PoolAction ι) :
    s.queued action = [] ∨ s.stopping = false ∧ s.taskQueue.length < s.maxCapacity ∧
      (s.queued action).length ≤ 1 := by
  cases action with
  | push =>
    rw [queued]
    split_ifs with hfull
    · exact Or.inl rfl
    · obtain ⟨hgoing, hroom⟩ := not_or.mp hfull
      refine Or.inr ⟨Bool.eq_false_iff.mpr hgoing, Nat.lt_of_not_le hroom, ?_⟩
      cases s.accepted with
      | none => exact Nat.zero_le _
      | some fd => exact Nat.le_refl _
  | _ => exact Or.inl rfl

/-- **A step.** -/
theorem Accounted.step (h : Accounted s) {action : PoolAction ι} (hs : s.step action = some s') :
    Accounted s' := by
  refine ⟨?_, fun hstop => ?_, accounts_step h.accounts hs, ?_⟩
  · rw [maxCapacity_step hs]
    rcases order_step hs with ⟨-, hnil, -⟩ | ⟨-, horder⟩
    · rw [hnil]
      exact Nat.zero_le _
    · have hlength := congrArg List.length horder
      rw [List.length_append, List.length_append] at hlength
      have hbounded := h.bounded
      rcases queued_cases s action with hnone | ⟨-, hroom, hone⟩
      · rw [hnone, List.length_nil] at hlength
        omega
      · omega
  · rcases order_step hs with ⟨-, hnil, -⟩ | ⟨hsame, horder⟩
    · exact hnil
    · have hgoing := hsame.symm.trans hstop
      rcases queued_cases s action with hnone | ⟨hfalse, -, -⟩
      · rw [hnone, h.stopped hgoing, List.append_nil] at horder
        exact (List.append_eq_nil_iff.mp horder).2
      · rw [hfalse] at hgoing
        cases hgoing
  · cases action with
    | worker i turn =>
      obtain ⟨phase, hturn⟩ := turned_of_stepWorker hs
      exact erased_of_turned hturn h.erased
    | _ =>
      obtain ⟨hworkers, hactive, -⟩ := frame_step hs fun _ _ heq => by cases heq
      rw [hworkers, hactive]
      exact h.erased

/-! ### Runs -/

/-- What every step keeps, a run keeps. -/
theorem run_keeps {P : ThreadPool ι → Prop} {actions : List (PoolAction ι)}
    (hstep : ∀ {s s' : ThreadPool ι} {action}, s.step action = some s' → P s → P s')
    (hs : s.run actions = some s') (h : P s) : P s' := by
  induction actions generalizing s with
  | nil =>
    obtain rfl := Option.some.inj hs
    exact h
  | cons action actions ih =>
    obtain ⟨x, hx, hrest⟩ := Option.bind_eq_some_iff.mp hs
    exact ih hrest (hstep hx h)

theorem Accounted.run (h : Accounted s) {actions : List (PoolAction ι)}
    (hs : s.run actions = some s') : Accounted s' :=
  run_keeps (fun hx hacc => hacc.step hx) hs h

theorem stopping_run {actions : List (PoolAction ι)} (hs : s.run actions = some s')
    (hstop : s.stopping = true) : s'.stopping = true :=
  run_keeps stopping_step hs hstop

theorem maxCapacity_run {actions : List (PoolAction ι)} (hs : s.run actions = some s') :
    s'.maxCapacity = s.maxCapacity :=
  run_keeps (P := fun x => x.maxCapacity = s.maxCapacity)
    (fun hx hsame => (maxCapacity_step hx).trans hsame) hs rfl

/-- What is noted in the states of a run. -/
def history (note : ThreadPool ι → PoolAction ι → List ℕ) :
    ThreadPool ι → List (PoolAction ι) → List ℕ
  | _, [] => []
  | s, action :: actions =>
    note s action ++ match s.step action with
      | some s' => history note s' actions
      | none => []

theorem history_cons {note : ThreadPool ι → PoolAction ι → List ℕ} {action : PoolAction ι}
    {actions : List (PoolAction ι)} (hs : s.step action = some s') :
    history note s (action :: actions) = note s action ++ history note s' actions := by
  rw [history, hs]

/-- Nothing is queued any more. -/
theorem history_queued_of_stopping {actions : List (PoolAction ι)}
    (hs : s.run actions = some s') (hstop : s.stopping = true) : history queued s actions = [] := by
  induction actions generalizing s with
  | nil => rfl
  | cons action actions ih =>
    obtain ⟨x, hx, hrest⟩ := Option.bind_eq_some_iff.mp hs
    rw [history_cons hx, ih hrest (stopping_step hx hstop), List.append_nil]
    rcases queued_cases s action with hnone | ⟨hfalse, -, -⟩
    · exact hnone
    · rw [hfalse] at hstop
      cases hstop

/-- **What the accept loop queues is what the workers take, in this order.** -/
theorem order_run {actions : List (PoolAction ι)} (hs : s.run actions = some s') :
    history taken s actions <+: s.taskQueue ++ history queued s actions ∧
      (s'.stopping = false →
        s.taskQueue ++ history queued s actions = history taken s actions ++ s'.taskQueue) := by
  induction actions generalizing s with
  | nil =>
    obtain rfl := Option.some.inj hs
    exact ⟨List.nil_prefix, fun _ => List.append_nil _⟩
  | cons action actions ih =>
    obtain ⟨x, hx, hrest⟩ := Option.bind_eq_some_iff.mp hs
    obtain ⟨hinitial, hgoing⟩ := ih hrest
    rw [history_cons hx, history_cons hx]
    rcases order_step hx with ⟨hstop, hnil, hnone⟩ | ⟨-, horder⟩
    · -- the queue has been dropped, and stays empty
      rw [hnil, history_queued_of_stopping hrest hstop] at hinitial
      rw [hnone, List.prefix_nil.mp hinitial]
      refine ⟨List.nil_prefix, fun hfalse => ?_⟩
      rw [stopping_run hrest hstop] at hfalse
      cases hfalse
    · rw [← List.append_assoc, ← horder, List.append_assoc, List.append_assoc]
      exact ⟨(List.prefix_append_right_inj _).mpr hinitial, fun hfalse => by rw [hgoing hfalse]⟩

/-- **Every connection is accounted for.** In every run, the queue is bounded by the capacity; what is
open in the name of the accept loop, the queue or a worker is exactly what that party has; every number
in `active_fds_` is one that a worker will erase; and the workers take the connections that the accept
loop has queued, each once and in order: those not yet taken are the queue, unless the pool stops. -/
theorem connections_accounted {maxCapacity : ℕ} {actions : List (PoolAction ι)}
    (h : ({ maxCapacity } : ThreadPool ι).run actions = some s) :
    s.taskQueue.length ≤ maxCapacity ∧
      (∀ o fd, o.InPool → (s.owner fd = some o ↔ s.holds o fd)) ∧
      (∀ fd ∈ s.activeFds, ∃ i, (s.workers i).erases = some fd) ∧
      history taken { maxCapacity } actions <+: history queued { maxCapacity } actions ∧
      (s.stopping = false → history queued { maxCapacity } actions =
        history taken { maxCapacity } actions ++ s.taskQueue) := by
  have hheld : Held s := held_of_run h
  have haccounted : Accounted s := (accounted_start maxCapacity).run h
  have hcapacity : s.maxCapacity = maxCapacity := maxCapacity_run h
  obtain ⟨hinitial, hgoing⟩ := order_run h
  refine ⟨hcapacity ▸ haccounted.bounded, fun o fd ho => ⟨?_, ?_⟩, haccounted.erased, hinitial, hgoing⟩
  · exact haccounted.accounts o fd ho
  · exact hheld.backs o fd

/-! ### Shutdown -/

/-- After `requestStop` a turn of a worker leaves it with fewer turns, and the others with theirs. -/
theorem turns_step (h : Accounted s) (hstop : s.stopping = true) {action : PoolAction ι}
    (hs : s.step action = some s') (i : ι) :
    (s'.workers i).turns + (if action.isTurnOf i then 1 else 0) ≤ (s.workers i).turns := by
  cases action with
  | worker j turn =>
    obtain ⟨phase, hturn⟩ := turned_of_stepWorker hs
    have hfewer := hturn.turns
    rw [h.stopped hstop, (h.step hs).stopped (stopping_step hs hstop)] at hfewer
    rw [hturn.workers]
    by_cases hij : i = j
    · subst hij
      rw [Function.update_self, PoolAction.isTurnOf, decide_eq_true rfl, if_pos rfl]
      exact hfewer
    · rw [Function.update_of_ne hij, PoolAction.isTurnOf, decide_eq_false hij]
      exact Nat.le_refl _
  | _ =>
    rw [(frame_step hs fun _ _ heq => by cases heq).1]
    exact Nat.le_refl _

theorem turns_run (h : Accounted s) (hstop : s.stopping = true) {actions : List (PoolAction ι)}
    (hs : s.run actions = some s') (i : ι) :
    (s'.workers i).turns + actions.countP (PoolAction.isTurnOf i) ≤ (s.workers i).turns := by
  induction actions generalizing s with
  | nil =>
    obtain rfl := Option.some.inj hs
    exact Nat.le_refl _
  | cons action actions ih =>
    obtain ⟨x, hx, hrest⟩ := Option.bind_eq_some_iff.mp hs
    have hlater := ih (h.step hx) (stopping_step hx hstop) hrest
    have hnow := turns_step h hstop hx i
    rw [List.countP_cons]
    omega

/-- **No number of a connection in progress is erased** after the hand-off of another one. -/
def SparesOthers (s : ThreadPool ι) : PoolAction ι → Prop
  | .worker i .unregister =>
    ∀ fd accepted, s.workers i = .forwarded fd accepted → ∀ j, s.workers j ≠ .handling fd
  | .worker i .unregisterAgain =>
    ∀ fd, s.workers i = .handedOff fd → ∀ j, s.workers j ≠ .handling fd
  | _ => True

/-- Every connection in progress is registered. -/
def InProgress (s : ThreadPool ι) : Prop := ∀ i fd, s.workers i = .handling fd → fd ∈ s.activeFds

/-- The others go on as they were, and the worker does not handle a connection, or has registered it. -/
theorem inProgress_update {phase : WorkerPhase} {active : Finset ℕ}
    (hphase : ∀ fd, phase = .handling fd → fd ∈ active)
    (hothers : ∀ j fd, j ≠ i → s.workers j = .handling fd → fd ∈ active) :
    InProgress { s.setWorker i phase with activeFds := active } := by
  intro j fd hj
  by_cases hji : j = i
  · subst hji
    exact hphase fd ((Function.update_self ..).symm.trans hj)
  · exact hothers j fd hji ((Function.update_of_ne hji ..).symm.trans hj)

theorem InProgress.moved (h : InProgress s) (hheld : Held s) {action : WorkerAction}
    (hs : Moved s i action s') (hspares : SparesOthers s (.worker i action)) : InProgress s' := by
  have kept : ∀ phase : WorkerPhase, (∀ fd, phase ≠ .handling fd) →
      InProgress { s.setWorker i phase with activeFds := s.activeFds } :=
    fun phase hphase => inProgress_update (fun fd hfd => absurd hfd (hphase fd)) fun j fd _ => h j fd
  have erased : ∀ (fd : ℕ) (phase : WorkerPhase), (∀ fd, phase ≠ .handling fd) →
      (∀ j, j ≠ i → s.workers j ≠ .handling fd) → InProgress ((s.eraseFd fd).setWorker i phase) := by
    refine fun fd phase hphase hothers => inProgress_update (fun x hx => absurd hx (hphase x)) ?_
    intro j x hji hj
    refine Finset.mem_erase.mpr ⟨?_, h j x hj⟩
    rintro rfl
    exact hothers j hji hj
  cases hs with
  | @took fd => exact kept (.prepared fd) (by simp)
  | @registered fd =>
    refine inProgress_update (fun x hx => ?_) fun j x _ hj => Finset.mem_insert_of_mem (h j x hj)
    obtain rfl := WorkerPhase.handling.inj hx
    exact Finset.mem_insert_self ..
  | continued _ _ hhandling => exact kept _ hhandling
  | @closed _ fd phase _ _ hphase =>
    refine kept phase ?_
    rcases hphase with rfl | rfl <;> simp
  | @handedOver fd phase _ _ _ hphase =>
    refine kept phase ?_
    rcases hphase with rfl | rfl <;> simp
  | @unregistered fd hphase =>
    refine erased fd _ (by simp) fun j hji hj => hji ?_
    -- the number is the worker's own, so it is nobody else's
    have hi : s.holds (.httpWorker i) fd := by rw [holds, hphase]; rfl
    have hj : s.holds (.httpWorker j) fd := by rw [holds, hj]; rfl
    exact Owner.httpWorker.inj (hheld.backs.unique hj hi)
  | @unregisteredFirst fd accepted hphase =>
    exact erased fd _ (by simp) fun j _ => hspares fd accepted hphase j
  | @unregisteredAgain fd hphase =>
    exact erased fd _ (by simp) fun j _ => hspares fd hphase j

theorem InProgress.step (h : InProgress s) (hheld : Held s) {action : PoolAction ι}
    (hs : s.step action = some s') (hspares : SparesOthers s action) : InProgress s' := by
  cases action with
  | worker i turn => exact h.moved hheld (moved_of_stepWorker hs) hspares
  | _ =>
    obtain ⟨hworkers, hactive, -⟩ := frame_step hs fun _ _ heq => by cases heq
    rw [InProgress, hworkers, hactive]
    exact h

theorem inProgress_of_run {maxCapacity : ℕ} {actions : List (PoolAction ι)}
    (hspares : ∀ before action after x, Passes maxCapacity actions before (action :: after) x →
      SparesOthers x action)
    (h : ({ maxCapacity } : ThreadPool ι).run actions = some s) : InProgress s := by
  induction actions using List.reverseRecOn generalizing s with
  | nil =>
    obtain rfl := Option.some.inj h
    exact fun i fd hi => by cases hi
  | append_singleton actions action ih =>
    rw [run_append] at h
    obtain ⟨x, hx, hs⟩ := Option.bind_eq_some_iff.mp h
    obtain ⟨s', hs', heq⟩ := Option.bind_eq_some_iff.mp hs
    obtain rfl := Option.some.inj heq
    refine (ih (fun before action' after y hy => ?_) hx).step (held_of_run hx) hs'
      (hspares actions action [] x ⟨rfl, hx⟩)
    refine hspares before action' (after ++ [action]) y ⟨?_, hy.2⟩
    rw [hy.1, List.append_assoc, List.cons_append]

/-- No worker begins to handle a connection after `requestStop`. -/
theorem handling_of_step (hstop : s.stopping = true) {action : PoolAction ι}
    (hs : s.step action = some s') (hi : s'.workers i = .handling fd) :
    s.workers i = .handling fd := by
  cases action with
  | worker j turn =>
    have hothers : ∀ phase : WorkerPhase, phase ≠ .handling fd →
        update s.workers j phase i = .handling fd → s.workers i = .handling fd := by
      intro phase hphase hnow
      by_cases hij : i = j
      · subst hij
        rw [Function.update_self] at hnow
        exact absurd hnow hphase
      · rwa [Function.update_of_ne hij] at hnow
    cases moved_of_stepWorker hs with
    | took => exact hothers _ (by simp) hi
    | registered _ hgoing =>
      rw [hstop] at hgoing
      cases hgoing
    | continued _ _ hphase => exact hothers _ (hphase fd) hi
    | closed _ _ hphase => exact hothers _ (by rcases hphase with rfl | rfl <;> simp) hi
    | handedOver _ _ _ hphase => exact hothers _ (by rcases hphase with rfl | rfl <;> simp) hi
    | unregistered => exact hothers _ (by simp) hi
    | unregisteredFirst => exact hothers _ (by simp) hi
    | unregisteredAgain => exact hothers _ (by simp) hi
  | _ =>
    rw [← (frame_step hs fun _ _ heq => by cases heq).1]
    exact hi

theorem handling_of_run (hstop : s.stopping = true) {actions : List (PoolAction ι)}
    (hs : s.run actions = some s') (hi : s'.workers i = .handling fd) :
    s.workers i = .handling fd := by
  induction actions generalizing s with
  | nil =>
    obtain rfl := Option.some.inj hs
    exact hi
  | cons action actions ih =>
    obtain ⟨x, hx, hrest⟩ := Option.bind_eq_some_iff.mp hs
    exact handling_of_step hstop hx (ih (stopping_step hx hstop) hrest)

/-- A worker that does not wait can go on. When `HandleHttpSession` returns is up to its peer, unless
the connection has been shut down. -/
theorem exists_turn (hphase : s.workers i ≠ .waiting) :
    ∃ action s', s.stepWorker i action = some s' := by
  have next : ∀ action, (s.stepWorker i action).isSome = true →
      ∃ action s', s.stepWorker i action = some s' :=
    fun action h => ⟨action, Option.isSome_iff_exists.mp h⟩
  cases hi : s.workers i with
  | waiting => exact absurd hi hphase
  | prepared fd =>
    refine next .register ?_
    simp only [stepWorker, hi]
    split_ifs
    · rfl
    · rfl
  | handling fd => exact next .finish (by simp [stepWorker, hi])
  | returned fd => exact next .unregisterAgain (by simp [stepWorker, hi])
  | upgraded fd =>
    refine next (.forward false) ?_
    simp only [stepWorker, hi, Bool.false_eq_true, if_false]
    split_ifs
    · rfl
    · rfl
  | forwarded fd accepted => exact next .unregister (by simp [stepWorker, hi])
  | unregistered fd accepted =>
    refine next .destroyResult ?_
    cases accepted with
    | true => simp [stepWorker, hi]
    | false => simp [stepWorker, hi]
  | handedOff fd => exact next .unregisterAgain (by simp [stepWorker, hi])
  | closing fd => exact next .destroySession (by simp [stepWorker, hi])

/-- **Shutdown drains the pool.** From every state of a run after `requestStop`, whatever else happens:
each worker has at most the turns of its phase before it; the queue stays empty; a worker that still has
something to do can go on; and when all workers wait, `active_fds_` is empty, and nothing is open in the
name of the pool but the connection that the accept loop is about to drop. No worker has to wait for its
peer: what it handles is shut down by every `requestStop`, if no number of a connection in progress has
been erased before. -/
theorem shutdown_drains {maxCapacity : ℕ} {before after : List (PoolAction ι)}
    (hbefore : ({ maxCapacity } : ThreadPool ι).run before = some s) (hstop : s.stopping = true)
    (hafter : s.run after = some s') :
    (∀ i, after.countP (PoolAction.isTurnOf i) ≤ (s.workers i).turns) ∧ s'.taskQueue = [] ∧
      (∀ i, s'.workers i ≠ .waiting → ∃ action x, s'.step (.worker i action) = some x) ∧
      ((∀ i, s'.workers i = .waiting) → s'.activeFds = ∅ ∧
        ∀ fd o, s'.owner fd = some o → o.InPool → o = .acceptLoop ∧ s'.accepted = some fd) ∧
      ∀ initial rest x, Passes maxCapacity before initial (.requestStop :: rest) x →
        (∀ first action later y, Passes maxCapacity initial first (action :: later) y →
          SparesOthers y action) →
        ∀ i fd, s'.workers i = .handling fd → (fd, some (.httpWorker i)) ∈ x.requestStop.2 := by
  have hs : Accounted s := (accounted_start maxCapacity).run hbefore
  have hs' : Accounted s' := hs.run hafter
  have hnil : s'.taskQueue = [] := hs'.stopped (stopping_run hafter hstop)
  refine ⟨fun i => ?_, hnil, fun i => exists_turn, fun hwaiting => ⟨?_, fun fd o howner ho => ?_⟩,
    fun initial rest x hpasses hspares i fd hi => ?_⟩
  · have hturns := turns_run hs hstop hafter i
    omega
  · refine Finset.eq_empty_of_forall_notMem fun fd hfd => ?_
    obtain ⟨i, hi⟩ := hs'.erased fd hfd
    rw [hwaiting i] at hi
    cases hi
  · have hholds := hs'.accounts o fd ho howner
    cases o with
    | acceptLoop => exact ⟨rfl, hholds⟩
    | taskQueue =>
      have hmem : fd ∈ s'.taskQueue := hholds
      rw [hnil] at hmem
      cases hmem
    | httpWorker i =>
      have howned : (s'.workers i).owned = some fd := hholds
      rw [hwaiting i] at howned
      cases howned
    | webSocketPool => exact ho.elim
    | other => exact ho.elim
  · obtain ⟨rfl, hx⟩ := hpasses
    rw [run_append, hx, Option.bind_some] at hbefore
    obtain ⟨y, hy, hrest⟩ := Option.bind_eq_some_iff.mp hbefore
    obtain rfl := Option.some.inj hy
    have hstopped : x.requestStop.1.stopping = true := rfl
    have hthen : x.requestStop.1.workers i = .handling fd :=
      handling_of_run hstopped hrest (handling_of_run hstop hafter hi)
    exact (held_of_run hx).interrupted hthen (inProgress_of_run hspares hx i fd hthen)

end ThreadPool

namespace Sample

/-- Two connections are queued, one is taken, and another one comes. -/
def accepting : List (PoolAction Bool) :=
  [.accept 3, .push, .accept 4, .push, .worker true .take, .worker true .register, .accept 5]

/-- The connection in progress ends, and the new one is dropped. -/
def draining : List (PoolAction Bool) :=
  [.push, .worker true .finish, .worker true .unregisterAgain, .worker true .destroySession]

end Sample

/-- One connection is with a worker and the other one in the queue. -/
theorem connections_accounted_accepting :
    ∃ s, ({ maxCapacity := 8 } : ThreadPool Bool).run Sample.accepting = some s ∧
      s.taskQueue = [4] ∧ s.owner 3 = some (.httpWorker true) ∧ (s.workers true).owned = some 3 ∧
      ThreadPool.history ThreadPool.queued { maxCapacity := 8 } Sample.accepting =
        ThreadPool.history ThreadPool.taken { maxCapacity := 8 } Sample.accepting ++ s.taskQueue := by
  obtain ⟨s, hs, htest⟩ : ∃ s, ({ maxCapacity := 8 } : ThreadPool Bool).run Sample.accepting =
      some s ∧ decide (s.taskQueue = [4] ∧ s.owner 3 = some (.httpWorker true) ∧ s.stopping = false) :=
    Option.any_eq_true _ _ |>.mp (by decide +kernel)
  obtain ⟨hqueue, howner, hgoing⟩ := of_decide_eq_true htest
  obtain ⟨-, howned, -, -, horder⟩ := ThreadPool.connections_accounted hs
  exact ⟨s, hs, hqueue, howner, (howned (.httpWorker true) 3 trivial).mp howner, horder hgoing⟩

/-- It is stopped then; the connection in progress is shut down, and ends. -/
theorem shutdown_drains_accepting :
    ∃ x s s', ({ maxCapacity := 8 } : ThreadPool Bool).run Sample.accepting = some x ∧
      ({ maxCapacity := 8 } : ThreadPool Bool).run (Sample.accepting ++ [.requestStop]) = some s ∧
      (3, some (.httpWorker true)) ∈ x.requestStop.2 ∧ s.run Sample.draining = some s' ∧
      s'.activeFds = ∅ ∧
      ∀ fd o, s'.owner fd = some o → o.InPool → o = .acceptLoop ∧ s'.accepted = some fd := by
  obtain ⟨x, hx⟩ := Option.isSome_iff_exists.mp (show (({ maxCapacity := 8 } :
    ThreadPool Bool).run Sample.accepting).isSome = true by decide +kernel)
  obtain ⟨s, hs, htest⟩ : ∃ s, ({ maxCapacity := 8 } : ThreadPool Bool).run
      (Sample.accepting ++ [.requestStop]) = some s ∧
        (s.stopping && (decide (s.workers true = .handling 3) &&
          (s.run Sample.draining).any fun s' => decide (∀ i, s'.workers i = .waiting))) :=
    Option.any_eq_true _ _ |>.mp (by decide +kernel)
  obtain ⟨hstop, htest⟩ := Bool.and_eq_true_iff.mp htest
  obtain ⟨hphase, hrest⟩ := Bool.and_eq_true_iff.mp htest
  obtain ⟨s', hs', hwaiting⟩ := Option.any_eq_true _ _ |>.mp hrest
  obtain ⟨-, -, -, hend, -⟩ := ThreadPool.shutdown_drains hs hstop hs'
  obtain ⟨-, -, -, -, hshut⟩ := ThreadPool.shutdown_drains hs hstop (show s.run [] = some s from rfl)
  refine ⟨x, s, s', hx, hs, ?_, hs', hend (of_decide_eq_true hwaiting)⟩
  refine hshut Sample.accepting [] x ⟨rfl, hx⟩ ?_ true 3 (of_decide_eq_true hphase)
  rintro first action later y ⟨heq, -⟩
  have hmem : action ∈ Sample.accepting := by
    rw [heq]
    exact List.mem_append_right _ (List.mem_cons_self ..)
  simp only [Sample.accepting, List.mem_cons, List.not_mem_nil, or_false] at hmem
  rcases hmem with rfl | rfl | rfl | rfl | rfl | rfl | rfl <;> trivial

end ChatBackend
