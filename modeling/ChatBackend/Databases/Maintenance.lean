import ChatBackend.Databases.DatabasePool

/-!
# Maintenance during an outage

The thread that `startMaintenanceThread` starts, when the constructor of `DatabaseConnection` may throw.
The thread catches nothing: where the constructor throws, the exception leaves the thread and the process
ends. A connection that was to be replaced has been popped by then, and is counted still.

`DatabasePool.maintain` is a turn of the thread in which every connection can be made.

## Main definitions

* `DatabasePool.maintenanceTurn` — a turn of the thread
* `DatabasePool.Reconnects` — the attempts of a turn succeed
* `PoolProcess` — the pool and its callers, until an exception leaves the thread

## Main results

* `DatabasePool.survives_iff` — a turn
* `maintenance_survives` — any number of turns
-/

namespace ChatBackend

open PoolState (Accounts)

variable {σ ρ : Type}

/-! ### A turn of the thread -/

/-- How a turn ends: another one follows, the thread ends, or an exception leaves it. -/
inductive TurnEnd where
  | next | ended | escaped
  deriving DecidableEq

/-- What a turn leaves: the pool, how many connections there have been, and how many attempts to connect
the turn has made. -/
structure Turn (σ ρ : Type) where
  pool : DatabasePool σ ρ
  made : ℕ
  attempt : ℕ
  ending : TurnEnd

namespace DatabasePool

/-- The loop that replaces connections that are dead; the constructor throws in the attempts that do not
connect. -/
def replaceOrThrow (answers : ℕ → ℕ → Answer ρ) (connects : ℕ → Bool) (pool : DatabasePool σ ρ)
    (made attempt : ℕ) : ℕ → Turn σ ρ
  | 0 => ⟨pool, made, attempt, .next⟩
  | count + 1 =>
    match pool.idleQueue with
    | [] => ⟨pool, made, attempt, .next⟩
    | temp :: rest =>
      if !temp.connection.isAlive then
        -- `temp` is gone, and counted
        if !connects attempt then ⟨{ pool with idleQueue := rest }, made, attempt + 1, .escaped⟩
        else
          let newConn : PooledConnection σ ρ := .make answers made
          if !newConn.connection.isAlive then
            replaceOrThrow answers connects { pool with
              idleQueue := rest, totalConnections := pool.totalConnections - 1 } (made + 1)
              (attempt + 1) count
          else replaceOrThrow answers connects { pool with idleQueue := rest ++ [newConn] } (made + 1)
            (attempt + 1) count
      else replaceOrThrow answers connects { pool with idleQueue := rest ++ [temp] } made attempt count

/-- One connection more if there are too few. -/
def refillOrThrow (answers : ℕ → ℕ → Answer ρ) (connects : ℕ → Bool) (pool : DatabasePool σ ρ)
    (made attempt : ℕ) : Turn σ ρ :=
  if pool.totalConnections < pool.config.minConnections then
    if !connects attempt then ⟨pool, made, attempt + 1, .escaped⟩
    else
      let newConn : PooledConnection σ ρ := .make answers made
      if newConn.connection.isAlive then
        ⟨{ pool with
          idleQueue := pool.idleQueue ++ [newConn]
          totalConnections := pool.totalConnections + 1 }, made + 1, attempt + 1, .next⟩
      else ⟨pool, made + 1, attempt + 1, .ended⟩
  else ⟨pool, made, attempt, .next⟩

/-- **One turn of the thread** started by `startMaintenanceThread`. -/
def maintenanceTurn (answers : ℕ → ℕ → Answer ρ) (connects : ℕ → Bool)
    (expired : PooledConnection σ ρ → Bool) (pool : DatabasePool σ ρ) (made : ℕ) : Turn σ ρ :=
  if !pool.isRunning then ⟨pool, made, 0, .ended⟩
  else
    let pool := pool.trim expired
    let turn := replaceOrThrow answers connects pool made 0 pool.idleQueue.length
    if turn.ending = .escaped then turn
    else refillOrThrow answers connects turn.pool turn.made turn.attempt

/-- How many idle connections are dead. -/
def dead (pool : DatabasePool σ ρ) : ℕ := pool.idleQueue.countP fun c => !c.connection.isAlive

/-- **The attempts of a turn succeed**: one for each idle connection that is dead once what is idle for
too long has been closed, and one more if there are too few connections then. -/
def Reconnects (pool : DatabasePool σ ρ) (expired : PooledConnection σ ρ → Bool)
    (connects : ℕ → Bool) : Prop :=
  (∀ k < (pool.trim expired).dead, connects k) ∧
    ((pool.trim expired).totalConnections < pool.config.minConnections →
      connects (pool.trim expired).dead)

/-- **A turn survives**: no exception leaves it and another turn follows, what is not idle is counted as
before, the count stays between zero and the maximum, and no idle connection is dead. -/
structure Survives (pool : DatabasePool σ ρ) (turn : Turn σ ρ) : Prop where
  next : turn.ending = .next
  outstanding : turn.pool.outstanding = pool.outstanding
  nonneg : 0 ≤ turn.pool.totalConnections
  max : turn.pool.totalConnections ≤ pool.config.maxConnections
  alive : ∀ c ∈ turn.pool.idleQueue, c.connection.isAlive

variable {answers : ℕ → ℕ → Answer ρ} {connects : ℕ → Bool} {pool : DatabasePool σ ρ}
  {expired : PooledConnection σ ρ → Bool}

/-- What is made is alive. -/
@[simp] theorem isAlive_make (answers : ℕ → ℕ → Answer ρ) (n : ℕ) :
    (PooledConnection.make (σ := σ) answers n).connection.isAlive = true := rfl

/-- **The loop**, over the first connections of the queue: it goes through if there is a connection for
each of them that is dead, and the exception of the first attempt that fails leaves it. -/
theorem replaceOrThrow_cases (answers : ℕ → ℕ → Answer ρ) (connects : ℕ → Bool)
    (pool : DatabasePool σ ρ) (made attempt count : ℕ) (hcount : count ≤ pool.idleQueue.length) :
    ((∀ k < (pool.idleQueue.take count).countP fun c => !c.connection.isAlive, connects (attempt + k)) ∧
      replaceOrThrow answers connects pool made attempt count =
        ⟨(replaceDead answers pool made count).1, (replaceDead answers pool made count).2,
          attempt + (pool.idleQueue.take count).countP fun c => !c.connection.isAlive, .next⟩) ∨
    (¬ ∀ k < (pool.idleQueue.take count).countP fun c => !c.connection.isAlive, connects (attempt + k)) ∧
      (replaceOrThrow answers connects pool made attempt count).ending = .escaped := by
  induction count generalizing pool made attempt with
  | zero => exact .inl ⟨by simp, rfl⟩
  | succ count ih =>
    rcases hqueue : pool.idleQueue with _ | ⟨temp, rest⟩
    · rw [hqueue] at hcount
      simp at hcount
    · have hrest : count ≤ rest.length := by
        rw [hqueue, List.length_cons] at hcount
        omega
      have htake (c : PooledConnection σ ρ) : (rest ++ [c]).take count = rest.take count :=
        List.take_append_of_le_length hrest
      have hlength (c : PooledConnection σ ρ) : count ≤ (rest ++ [c]).length := by
        rw [List.length_append]
        omega
      rw [replaceOrThrow, replaceDead]
      simp only [hqueue, List.take_succ_cons, isAlive_make, Bool.not_true, Bool.false_eq_true, if_false]
      by_cases halive : temp.connection.isAlive
      · have hnext := ih { pool with idleQueue := rest ++ [temp] } made attempt (hlength temp)
        simp only [htake] at hnext
        simpa [halive] using hnext
      · rw [Bool.not_eq_true] at halive
        have hsucc : ((temp :: rest.take count).countP fun c => !c.connection.isAlive) =
            ((rest.take count).countP fun c => !c.connection.isAlive) + 1 :=
          List.countP_cons_of_pos (by simp [halive])
        simp only [halive, Bool.not_false, if_true, hsucc]
        rcases hconnects : connects attempt with _ | _
        · refine .inr ⟨fun hall => ?_, by simp⟩
          have hfirst := hall 0 (Nat.succ_pos _)
          rw [Nat.add_zero, hconnects] at hfirst
          cases hfirst
        · have hnext := ih { pool with idleQueue := rest ++ [.make answers made] } (made + 1) (attempt + 1)
            (hlength _)
          simp only [htake] at hnext
          have hshift : (∀ k < ((rest.take count).countP fun c => !c.connection.isAlive) + 1,
              connects (attempt + k)) ↔
                ∀ k < (rest.take count).countP fun c => !c.connection.isAlive,
                  connects (attempt + 1 + k) := by
            constructor
            · intro hall k hk
              rw [Nat.add_assoc, Nat.add_comm 1]
              exact hall (k + 1) (by omega)
            · intro hall k hk
              rcases k with _ | k
              · exact hconnects
              · rw [Nat.add_comm k, ← Nat.add_assoc]
                exact hall k (by omega)
          rw [hshift]
          simp only [Bool.not_true, Bool.false_eq_true, if_false]
          rcases hnext with ⟨hall, heq⟩ | hnot
          · refine .inl ⟨hall, ?_⟩
            rw [heq, Turn.mk.injEq]
            exact ⟨rfl, rfl, by omega, rfl⟩
          · exact .inr hnot

/-- What has been replaced is alive, and the count is the same. -/
theorem replaceDead_spec (answers : ℕ → ℕ → Answer ρ) (pool : DatabasePool σ ρ) (made count : ℕ)
    (hcount : count ≤ pool.idleQueue.length) :
    (replaceDead answers pool made count).1.totalConnections = pool.totalConnections ∧
      ∀ c ∈ (replaceDead answers pool made count).1.idleQueue,
        c ∈ pool.idleQueue.drop count ∨ c.connection.isAlive := by
  induction count generalizing pool made with
  | zero => exact ⟨rfl, fun c hc => .inl hc⟩
  | succ count ih =>
    rcases hqueue : pool.idleQueue with _ | ⟨temp, rest⟩
    · rw [hqueue] at hcount
      simp at hcount
    · have hrest : count ≤ rest.length := by
        rw [hqueue, List.length_cons] at hcount
        omega
      have hpush (c : PooledConnection σ ρ) (made : ℕ) (hc : c.connection.isAlive) :
          (replaceDead answers { pool with idleQueue := rest ++ [c] } made count).1.totalConnections =
              pool.totalConnections ∧
            ∀ c' ∈ (replaceDead answers { pool with idleQueue := rest ++ [c] } made count).1.idleQueue,
              c' ∈ rest.drop count ∨ c'.connection.isAlive := by
        have hlength : count ≤ (rest ++ [c]).length := by
          rw [List.length_append]
          omega
        obtain ⟨htotal, hqueue'⟩ := ih { pool with idleQueue := rest ++ [c] } made hlength
        refine ⟨htotal, fun c' hc' => (hqueue' c' hc').elim (fun hdrop => ?_) .inr⟩
        simp only [List.drop_append_of_le_length hrest] at hdrop
        rcases List.mem_append.1 hdrop with hdrop | hlast
        · exact .inl hdrop
        · rw [List.mem_singleton.1 hlast]
          exact .inr hc
      rw [replaceDead]
      simp only [hqueue, List.drop_succ_cons, isAlive_make, Bool.not_true, Bool.false_eq_true, if_false]
      by_cases halive : temp.connection.isAlive
      · simp only [halive, Bool.not_true, Bool.false_eq_true, if_false]
        exact hpush temp made halive
      · simp only [halive, Bool.not_false, if_true]
        exact hpush (.make answers made) (made + 1) (isAlive_make answers made)

/-- A turn in which the attempts succeed. -/
theorem maintenanceTurn_of_reconnects (answers : ℕ → ℕ → Answer ρ) (made : ℕ)
    (hrunning : pool.isRunning) (h : pool.Reconnects expired connects) :
    (maintenanceTurn answers connects expired pool made).ending = .next ∧
      (maintenanceTurn answers connects expired pool made).pool =
        (maintain answers expired pool made).1 ∧
      (maintenanceTurn answers connects expired pool made).made =
        (maintain answers expired pool made).2.1 := by
  obtain ⟨hdead, hfew⟩ := h
  have hconfig : (pool.trim expired).config = pool.config := (keeps_trim pool expired made).config
  rw [maintenanceTurn, maintain, hrunning]
  simp only [Bool.not_true, Bool.false_eq_true, if_false]
  generalize pool.trim expired = trimmed at hdead hfew hconfig
  obtain ⟨htotal, -⟩ := replaceDead_spec answers trimmed made trimmed.idleQueue.length le_rfl
  have hkeeps := keeps_replaceDead answers trimmed made trimmed.idleQueue.length
  rcases replaceOrThrow_cases answers connects trimmed made 0 trimmed.idleQueue.length le_rfl
    with ⟨-, heq⟩ | ⟨hnot, -⟩
  · rw [heq, List.take_length, Nat.zero_add]
    generalize replaceDead answers trimmed made trimmed.idleQueue.length = replaced at htotal hkeeps
    simp only [reduceCtorEq, if_false]
    rw [refillOrThrow, refill, htotal, hkeeps.config]
    by_cases hmin : trimmed.totalConnections < trimmed.config.minConnections
    · have hconnects := hfew (hconfig ▸ hmin)
      rw [dead] at hconnects
      rw [if_pos hmin, if_pos hmin, hconnects]
      exact ⟨rfl, rfl, rfl⟩
    · rw [if_neg hmin, if_neg hmin]
      exact ⟨rfl, rfl, rfl⟩
  · rw [List.take_length] at hnot
    exact absurd (fun k hk => by rw [Nat.zero_add]; exact hdead k hk) hnot

/-- **An attempt that fails**: its exception leaves the thread. -/
theorem maintenanceTurn_of_not_reconnects (answers : ℕ → ℕ → Answer ρ) (made : ℕ)
    (hrunning : pool.isRunning) (h : ¬ pool.Reconnects expired connects) :
    (maintenanceTurn answers connects expired pool made).ending = .escaped := by
  have hconfig : (pool.trim expired).config = pool.config := (keeps_trim pool expired made).config
  rw [Reconnects] at h
  rw [maintenanceTurn, hrunning]
  simp only [Bool.not_true, Bool.false_eq_true, if_false]
  generalize pool.trim expired = trimmed at h hconfig
  obtain ⟨htotal, -⟩ := replaceDead_spec answers trimmed made trimmed.idleQueue.length le_rfl
  have hkeeps := keeps_replaceDead answers trimmed made trimmed.idleQueue.length
  rcases replaceOrThrow_cases answers connects trimmed made 0 trimmed.idleQueue.length le_rfl
    with ⟨hall, heq⟩ | ⟨-, hescaped⟩
  · rw [List.take_length] at hall
    have hfew : trimmed.totalConnections < pool.config.minConnections ∧ connects trimmed.dead = false := by
      by_contra hno
      refine h ⟨fun k hk => ?_, fun hmin => ?_⟩
      · simpa using hall k hk
      · by_contra hconnects
        exact hno ⟨hmin, by simpa using hconnects⟩
    rw [heq, List.take_length, Nat.zero_add]
    simp only [reduceCtorEq, if_false]
    rw [refillOrThrow, htotal, hkeeps.config, hconfig, if_pos hfew.1]
    rw [dead] at hfew
    rw [hfew.2]
    rfl
  · rw [hescaped, if_pos rfl]
    exact hescaped

/-- **A turn of the thread survives** exactly if the attempts that it makes to connect succeed. -/
theorem survives_iff (answers : ℕ → ℕ → Answer ρ) (made : ℕ) (hrunning : pool.isRunning)
    (hconfig : pool.config.minConnections ≤ pool.config.maxConnections)
    (houtstanding : 0 ≤ pool.outstanding)
    (hmax : pool.totalConnections ≤ pool.config.maxConnections) :
    pool.Survives (maintenanceTurn answers connects expired pool made) ↔
      pool.Reconnects expired connects := by
  constructor
  · intro hsurvives
    by_contra hnot
    have hescaped := maintenanceTurn_of_not_reconnects answers made hrunning hnot
    rw [hsurvives.next] at hescaped
    cases hescaped
  · intro hreconnects
    obtain ⟨hnext, hpool, -⟩ := maintenanceTurn_of_reconnects answers made hrunning hreconnects
    have hkeeps := keeps_maintain answers expired pool made
    refine ⟨hnext, ?_, ?_, ?_, ?_⟩
    · rw [hpool]
      exact hkeeps.outstanding
    · rw [hpool]
      have hsame := hkeeps.outstanding
      rw [outstanding] at hsame
      omega
    · rw [hpool]
      exact hkeeps.max hconfig hmax
    · rw [hpool, maintain, hrunning]
      simp only [Bool.not_true, Bool.false_eq_true, if_false]
      obtain ⟨-, halive⟩ := replaceDead_spec answers (pool.trim expired) made
        (pool.trim expired).idleQueue.length le_rfl
      rw [List.drop_length] at halive
      generalize replaceDead answers (pool.trim expired) made _ = replaced at halive
      have hreplaced : ∀ c ∈ replaced.1.idleQueue, c.connection.isAlive :=
        fun c hc => (halive c hc).resolve_left List.not_mem_nil
      rw [refill]
      split
      · exact List.forall_mem_append.2 ⟨hreplaced, List.forall_mem_singleton.2 (isAlive_make _ _)⟩
      · exact hreplaced

end DatabasePool

/-! ### Any number of turns -/

/-- The process: the pool with its callers, until an exception leaves the thread. -/
inductive PoolProcess (σ ρ ι : Type) where
  | running (s : PoolState σ ρ ι)
  | terminated

namespace PoolProcess

variable {ι : Type}

/-- Behind a turn of the thread. -/
def afterTurn (s : PoolState σ ρ ι) (turn : Turn σ ρ) : PoolProcess σ ρ ι :=
  match turn.ending with
  | .next => running ⟨turn.pool, s.callers, true, turn.made⟩
  | .ended => running ⟨turn.pool, s.callers, false, turn.made⟩
  | .escaped => terminated

variable [DecidableEq ι]

/-- **One step**, where turns of the thread are as `allowed` says. -/
inductive Step (answers : ℕ → ℕ → Answer ρ)
    (allowed : DatabasePool σ ρ → (PooledConnection σ ρ → Bool) → (ℕ → Bool) → Prop) :
    PoolProcess σ ρ ι → PoolProcess σ ρ ι → Prop where
  /-- A caller moves, or in a turn of the thread every connection can be made. -/
  | pool {s s'} (h : PoolState.Step answers s s') : Step answers allowed (running s) (running s')
  /-- Something happens to a connection that is idle, such as its death. -/
  | idle {s before c rest} (after : DatabaseConnection σ ρ)
      (h : s.pool.idleQueue = before ++ c :: rest) :
      Step answers allowed (running s) (running { s with pool :=
        { s.pool with idleQueue := before ++ ⟨c.id, after⟩ :: rest } })
  | turn {s} (connects : ℕ → Bool) (expired : PooledConnection σ ρ → Bool)
      (h : s.maintaining = true) (hallowed : allowed s.pool expired connects) :
      Step answers allowed (running s)
        (afterTurn s (s.pool.maintenanceTurn answers connects expired s.made))

/-- What can come after what, where the attempts of every turn succeed. -/
def Reconnected (answers : ℕ → ℕ → Answer ρ) : PoolProcess σ ρ ι → PoolProcess σ ρ ι → Prop :=
  Relation.ReflTransGen
    (Step answers fun pool expired connects => pool.isRunning → pool.Reconnects expired connects)

end PoolProcess

open PoolProcess (Reconnected afterTurn)

variable {ι : Type} [Fintype ι] {answers : ℕ → ℕ → Answer ρ} {s s' : PoolState σ ρ ι}

/-- The accounts do not depend on what idle connections are like. -/
theorem PoolState.Accounts.idle {before rest : List (PooledConnection σ ρ)}
    {c : PooledConnection σ ρ} (h : Accounts s) (after : DatabaseConnection σ ρ)
    (hqueue : s.pool.idleQueue = before ++ c :: rest) :
    Accounts { s with pool := { s.pool with idleQueue := before ++ ⟨c.id, after⟩ :: rest } } := by
  have hids : (before ++ ⟨c.id, after⟩ :: rest).map PooledConnection.id =
      s.pool.idleQueue.map PooledConnection.id := by
    rw [hqueue, List.map_append, List.map_append]
    rfl
  refine ⟨h.config, ?_, h.max, ?_, fun hclosed => ?_, h.closing, h.joining⟩
  · rw [← h.outstanding, DatabasePool.outstanding, DatabasePool.outstanding, hqueue]
    simp
  · have hdistinct := h.distinct
    rw [DatabasePool.ids, ← hids] at hdistinct
    exact hdistinct
  · rw [h.closed hclosed] at hqueue
    simp at hqueue

/-- Whether the thread runs is not in the accounts. -/
theorem PoolState.Accounts.withMaintaining (h : Accounts s) (maintaining : Bool) :
    Accounts { s with maintaining := maintaining } :=
  ⟨h.config, h.outstanding, h.max, h.distinct, h.closed, h.closing, h.joining⟩

variable [DecidableEq ι]

/-- A turn whose attempts succeed is one that keeps the accounts. -/
theorem PoolState.Accounts.turn {connects : ℕ → Bool} {expired : PooledConnection σ ρ → Bool}
    (h : Accounts s) (hmaintaining : s.maintaining = true)
    (hreconnects : s.pool.isRunning → s.pool.Reconnects expired connects) :
    ∃ s', afterTurn s (s.pool.maintenanceTurn answers connects expired s.made) = .running s' ∧
      Accounts s' := by
  have haccounts := h.step (@PoolState.Step.maintain _ _ _ _ answers _ expired hmaintaining)
  by_cases hrunning : s.pool.isRunning
  · obtain ⟨hnext, hpool, hmade⟩ := DatabasePool.maintenanceTurn_of_reconnects answers s.made hrunning
      (hreconnects hrunning)
    rw [← hpool, ← hmade] at haccounts
    rw [afterTurn, hnext]
    exact ⟨_, rfl, haccounts.withMaintaining true⟩
  · rw [DatabasePool.maintenanceTurn, if_pos (by simpa using hrunning)]
    exact ⟨_, rfl, h.withMaintaining false⟩

/-- **The maintenance of the pool survives** any number of turns in which the attempts to connect succeed,
whatever callers do and whatever happens to idle connections meanwhile: the process is there, the count is
that of the connections that are idle, borrowed or being created, and between zero and the maximum, and
the numbers of idle connections are distinct. And from any such state, the next turn survives exactly if
its attempts succeed; otherwise its exception ends the process. -/
theorem maintenance_survives {x : PoolProcess σ ρ ι} (haccounts : Accounts s)
    (h : Reconnected answers (.running s) x) :
    ∃ s', x = .running s' ∧
      s'.pool.totalConnections = s'.pool.idleQueue.length + s'.borrowed + s'.creating ∧
      0 ≤ s'.pool.totalConnections ∧ s'.pool.totalConnections ≤ s'.pool.config.maxConnections ∧
      (s'.pool.idleQueue.map PooledConnection.id).Nodup ∧
      ∀ expired connects, s'.pool.isRunning →
        (s'.pool.Survives (s'.pool.maintenanceTurn answers connects expired s'.made) ↔
          s'.pool.Reconnects expired connects) ∧
        (¬ s'.pool.Reconnects expired connects →
          afterTurn s' (s'.pool.maintenanceTurn answers connects expired s'.made) = .terminated) := by
  obtain ⟨s', rfl, haccounts'⟩ : ∃ s', x = .running s' ∧ Accounts s' := by
    induction h with
    | refl => exact ⟨s, rfl, haccounts⟩
    | tail _ hstep ih =>
      obtain ⟨s₁, rfl, haccounts₁⟩ := ih
      cases hstep with
      | pool hstep => exact ⟨_, rfl, haccounts₁.step hstep⟩
      | idle after hqueue => exact ⟨_, rfl, haccounts₁.idle after hqueue⟩
      | turn connects expired hmaintaining hallowed => exact haccounts₁.turn hmaintaining hallowed
  have htotal : Holdings.total Caller.units s'.callers = s'.borrowed + s'.creating :=
    Finset.sum_add_distrib
  have houtstanding := haccounts'.outstanding
  have hnonneg : 0 ≤ s'.pool.outstanding := by
    rw [houtstanding]
    exact Int.natCast_nonneg _
  rw [htotal, DatabasePool.outstanding] at houtstanding
  push_cast at houtstanding
  refine ⟨s', rfl, by omega, by omega, haccounts'.max, ?_, fun expired connects hrunning => ⟨?_, fun hnot => ?_⟩⟩
  · exact Multiset.coe_nodup.1 (Multiset.nodup_add.1 haccounts'.distinct.nodup).1
  · exact DatabasePool.survives_iff answers s'.made hrunning haccounts'.config hnonneg haccounts'.max
  · rw [afterTurn, DatabasePool.maintenanceTurn_of_not_reconnects answers s'.made hrunning hnot]

namespace Sample

/-- The connection, after the server has gone. -/
def broken : DatabaseConnection Unit Unit := ⟨some ⟨.bad, .unknown, []⟩, [], fun _ => .success (), [], []⟩

/-- The caller has returned the only connection, which is broken: one is missing. -/
def lacking : PoolState Unit Unit Unit := ⟨⟨poolConfig, [], 0, true⟩, fun _ => .outside, true, 1⟩

/-- One turn of the thread later. -/
def restored : PoolState Unit Unit Unit :=
  let turn := lacking.pool.maintenanceTurn succeeding (fun _ => true) (fun _ => false) lacking.made
  ⟨turn.pool, lacking.callers, true, turn.made⟩

theorem reachable_lacking : PoolState.Reachable succeeding poolConfig lacking := by
  obtain ⟨s₀, hinitial, hreaches⟩ := reachable_lent
  have huse : PoolState.Step succeeding lent (lent.move () lent.pool (.holding ⟨0, broken⟩)) :=
    @PoolState.Step.use _ _ _ _ _ lent () (.make succeeding 0) broken rfl
  have hreset := @PoolState.Step.reset _ _ _ _ succeeding
    (lent.move () lent.pool (.holding ⟨0, broken⟩)) () ⟨0, broken⟩ rfl
  have hrelease := @PoolState.Step.release _ _ _ _ succeeding
    ((lent.move () lent.pool (.holding ⟨0, broken⟩)).move () lent.pool
      (.returning ⟨0, broken.reset.2⟩ broken.reset.1)) () ⟨0, broken.reset.2⟩ false rfl
  refine ⟨s₀, hinitial, ((hreaches.tail huse).tail hreset).tail ?_⟩
  have hcallers : (fun _ => .outside : Unit → Caller Unit Unit) = Function.update (Function.update
      (Function.update lent.callers () (.holding ⟨0, broken⟩)) ()
        (.returning ⟨0, broken.reset.2⟩ broken.reset.1)) () .outside := by
    funext i
    rfl
  rw [lacking, hcallers]
  exact hrelease

end Sample

/-- When the server can be reached again, a turn makes the missing connection, and the thread goes on. -/
theorem maintenance_survives_lacking :
    Reconnected Sample.succeeding (.running Sample.lacking) (.running Sample.restored) ∧
      Sample.restored.pool.totalConnections =
        Sample.restored.pool.idleQueue.length + Sample.restored.borrowed + Sample.restored.creating ∧
      Sample.restored.pool.Survives (Sample.restored.pool.maintenanceTurn Sample.succeeding
        (fun _ => false) (fun _ => false) Sample.restored.made) := by
  have hturn : Reconnected Sample.succeeding (.running Sample.lacking) (.running Sample.restored) :=
    .single (.turn (fun _ => true) (fun _ => false) rfl fun _ => ⟨fun _ _ => rfl, fun _ => rfl⟩)
  obtain ⟨s', hs', haccount, -, -, -, hnext⟩ :=
    maintenance_survives Sample.reachable_lacking.accounts hturn
  obtain rfl := PoolProcess.running.inj hs'
  -- the new connection is alive, so that the turn after that has nothing to connect
  have hnothing : Sample.restored.pool.Reconnects (fun _ => false) fun _ => false := by
    have hdead : (Sample.restored.pool.trim fun _ => false).dead = 0 := rfl
    refine ⟨fun n hn => ?_, fun hlow => absurd hlow (by decide)⟩
    rw [hdead] at hn
    exact absurd hn (Nat.not_lt_zero n)
  exact ⟨hturn, haccount, (hnext (fun _ => false) (fun _ => false) rfl).1.2 hnothing⟩

/-- **The server stays away**: a caller has returned a connection that is broken, so that there are too
few, and the exception of the attempt to make another one ends the process. -/
theorem maintenance_survives_fails :
    PoolState.Reachable Sample.succeeding Sample.poolConfig Sample.lacking ∧
      Sample.lacking.pool.isRunning = true ∧ Sample.lacking.maintaining = true ∧
      (¬ ∀ connects expired, Sample.lacking.pool.Survives (Sample.lacking.pool.maintenanceTurn
        Sample.succeeding connects expired Sample.lacking.made)) ∧
      afterTurn Sample.lacking (Sample.lacking.pool.maintenanceTurn Sample.succeeding (fun _ => false)
        (fun _ => false) Sample.lacking.made) = .terminated := by
  have hnot : ¬ Sample.lacking.pool.Reconnects (fun _ => false) fun _ => false :=
    fun h => Bool.false_ne_true (h.2 (by decide))
  have hescaped := DatabasePool.maintenanceTurn_of_not_reconnects Sample.succeeding
    Sample.lacking.made rfl hnot
  refine ⟨Sample.reachable_lacking, rfl, rfl, fun hall => ?_, ?_⟩
  · have hnext := (hall (fun _ => false) fun _ => false).next
    rw [hescaped] at hnext
    cases hnext
  · rw [afterTurn, hescaped]

end ChatBackend
