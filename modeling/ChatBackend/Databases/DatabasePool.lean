import Mathlib.Data.Fintype.Basic
import Mathlib.Data.List.Perm.Subperm
import Mathlib.Logic.Relation
import ChatBackend.Holdings
import ChatBackend.Databases.DatabaseConnection

/-!
# DatabasePool

`src/databases/DatabasePool.cpp`: a number of connections that callers borrow and return, one mutex, a
count of the connections there are, and a thread that trims the idle ones. A step is what happens
between taking the mutex and giving it back, or what a caller does without it; so between two steps the
mutex is free.

Where the thread that maintains the pool cannot connect, the process ends, and so does the run.

## Main definitions

* `DatabasePool`, `getConnection`, `releaseReturnedConnections`, `close`, `maintain`
* `PoolState`, `PoolState.Step`, `PoolState.Reachable`

## Main results

* `pool_accounting` — the count is right, and no connection is in two places
* `transactions_commit_or_leave_nothing` — what is idle has no transaction open
-/

namespace ChatBackend

open Function (update update_self update_of_ne)
open Effects (Prog Runs)
open Holdings (Distinct)

variable {σ ρ : Type}

/-! ### The pool -/

/-- `DatabasePoolConfig`, without its times. -/
structure DatabasePoolConfig where
  minConnections : ℤ
  maxConnections : ℤ
  deriving DecidableEq

/-- A `DatabaseConnection` and its number, which is a history variable. -/
structure PooledConnection (σ ρ : Type) where
  id : ℕ
  connection : DatabaseConnection σ ρ

/-- `std::make_unique<DatabaseConnection>`, when it does not throw: the connection number `n`, on which
commands will end as `answers n` says. -/
def PooledConnection.make (answers : ℕ → ℕ → Answer ρ) (n : ℕ) : PooledConnection σ ρ :=
  ⟨n, some .connected, [], answers n, [], []⟩

/-- `DatabasePool`, once it is initialized. -/
structure DatabasePool (σ ρ : Type) where
  config : DatabasePoolConfig
  idleQueue : List (PooledConnection σ ρ)
  totalConnections : ℤ
  isRunning : Bool

/-- How the critical section of `getConnection` ends. -/
inductive Acquired (σ ρ : Type) where
  | waiting | closed | timeout
  | idle (connection : PooledConnection σ ρ)
  | create

namespace DatabasePool

/-- `init`, if all connections can be made; it throws if the configuration is not valid. -/
def init (answers : ℕ → ℕ → Answer ρ) (config : DatabasePoolConfig) : Option (DatabasePool σ ρ) :=
  if config.minConnections < 0 ∨ config.maxConnections ≤ 0 ∨
      config.maxConnections < config.minConnections then none
  else some ⟨config, (List.range config.minConnections.toNat).map (.make answers),
    config.minConnections, true⟩

/-- What `getConnection` waits for. -/
def ready (pool : DatabasePool σ ρ) : Bool :=
  !pool.isRunning || !pool.idleQueue.isEmpty ||
    pool.totalConnections < pool.config.maxConnections

/-- `getConnection`, from where `wait_for` has the mutex to where it gives it back. -/
def getConnection (pool : DatabasePool σ ρ) (timedOut : Bool) : Acquired σ ρ × DatabasePool σ ρ :=
  if !pool.ready && !timedOut then (.waiting, pool)
  else if !pool.isRunning then (.closed, pool)
  else if !pool.ready then (.timeout, pool)
  else match pool.idleQueue with
    | connection :: rest => (.idle connection, { pool with idleQueue := rest })
    | [] => (.create, { pool with totalConnections := pool.totalConnections + 1 })

/-- `getConnection`, with the mutex again after a connection has been made: it is returned, or closed
if the pool is. -/
def connectionMade (pool : DatabasePool σ ρ) (connection : PooledConnection σ ρ) :
    Option (PooledConnection σ ρ) × DatabasePool σ ρ :=
  if pool.isRunning then (some connection, pool)
  else (none, { pool with totalConnections := pool.totalConnections - 1 })

/-- `getConnection`, with the mutex again after no connection could be made. -/
def connectionFailed (pool : DatabasePool σ ρ) : DatabasePool σ ρ :=
  { pool with totalConnections := pool.totalConnections - 1 }

/-- `releaseReturnedConnections`, behind the reset. -/
def releaseReturnedConnections (pool : DatabasePool σ ρ) (connection : PooledConnection σ ρ)
    (result : Bool) : DatabasePool σ ρ :=
  if !pool.isRunning then { pool with totalConnections := pool.totalConnections - 1 }
  else if !result then { pool with totalConnections := pool.totalConnections - 1 }
  else { pool with idleQueue := pool.idleQueue ++ [connection] }

/-- The loop in `close` that closes what is idle. -/
def drain (pool : DatabasePool σ ρ) : List (PooledConnection σ ρ) → DatabasePool σ ρ
  | [] => { pool with idleQueue := [] }
  | _ :: rest => drain { pool with totalConnections := pool.totalConnections - 1 } rest

/-- `close`, up to where it waits. -/
def close (pool : DatabasePool σ ρ) : DatabasePool σ ρ :=
  drain { pool with isRunning := false } pool.idleQueue

/-! ### Maintenance -/

/-- The loop that trims: what is left of the count and of the queue. `expired` says which connections
have been idle for too long. -/
def trimFrom (expired : PooledConnection σ ρ → Bool) (i : ℕ) (exceed total : ℤ) :
    List (PooledConnection σ ρ) → ℤ × List (PooledConnection σ ρ)
  | [] => (total, [])
  | temp :: rest =>
    if i < (temp :: rest).length then
      if 0 < exceed && expired temp then trimFrom expired (i + 1) (exceed - 1) (total - 1) rest
      else trimFrom expired (i + 1) exceed total (rest ++ [temp])
    else (total, temp :: rest)
termination_by queue => queue.length - i
decreasing_by
  · rw [List.length_cons] at *
    omega
  · rw [List.length_append, List.length_singleton, List.length_cons] at *
    omega

/-- Idle trimming. -/
def trim (pool : DatabasePool σ ρ) (expired : PooledConnection σ ρ → Bool) : DatabasePool σ ρ :=
  let exceed := pool.totalConnections - pool.config.minConnections
  if 0 < exceed then
    let (total, queue) := trimFrom expired 0 exceed pool.totalConnections pool.idleQueue
    { pool with totalConnections := total, idleQueue := queue }
  else pool

/-- The loop that replaces connections that are dead; `made` counts the connections that there have
been. -/
def replaceDead (answers : ℕ → ℕ → Answer ρ) (pool : DatabasePool σ ρ) (made : ℕ) :
    ℕ → DatabasePool σ ρ × ℕ
  | 0 => (pool, made)
  | count + 1 =>
    match pool.idleQueue with
    | [] => (pool, made)
    | temp :: rest =>
      if !temp.connection.isAlive then
        let newConn : PooledConnection σ ρ := .make answers made
        if !newConn.connection.isAlive then
          replaceDead answers { pool with
            idleQueue := rest, totalConnections := pool.totalConnections - 1 } (made + 1) count
        else replaceDead answers { pool with idleQueue := rest ++ [newConn] } (made + 1) count
      else replaceDead answers { pool with idleQueue := rest ++ [temp] } made count

/-- One connection more if there are too few, and whether the thread goes on. -/
def refill (answers : ℕ → ℕ → Answer ρ) (pool : DatabasePool σ ρ) (made : ℕ) :
    DatabasePool σ ρ × ℕ × Bool :=
  if pool.totalConnections < pool.config.minConnections then
    let newConn : PooledConnection σ ρ := .make answers made
    if newConn.connection.isAlive then
      ({ pool with
        idleQueue := pool.idleQueue ++ [newConn]
        totalConnections := pool.totalConnections + 1 }, made + 1, true)
    else (pool, made + 1, false)
  else (pool, made, true)

/-- One turn of the thread started by `startMaintenanceThread`. -/
def maintain (answers : ℕ → ℕ → Answer ρ) (expired : PooledConnection σ ρ → Bool)
    (pool : DatabasePool σ ρ) (made : ℕ) : DatabasePool σ ρ × ℕ × Bool :=
  if !pool.isRunning then (pool, made, false)
  else
    let pool := pool.trim expired
    let (pool, made) := replaceDead answers pool made pool.idleQueue.length
    refill answers pool made

end DatabasePool

/-! ### Callers -/

/-- Where a caller is. A connection that it has made is still being created until the mutex has been
taken again; one that it returns is borrowed as long. -/
inductive Caller (σ ρ : Type) where
  | outside
  | asking
  | connecting
  | connected (connection : PooledConnection σ ρ)
  | failed
  | holding (connection : PooledConnection σ ρ)
  | returning (connection : PooledConnection σ ρ) (result : Bool)
  | closing
  | joining

namespace Caller

/-- The connections it has, by their numbers. -/
def held : Caller σ ρ → Multiset ℕ
  | .connected connection | .holding connection | .returning connection _ => {connection.id}
  | _ => 0

/-- How many it has borrowed. -/
def borrowed : Caller σ ρ → ℕ
  | .holding _ | .returning _ _ => 1
  | _ => 0

/-- How many it is creating. -/
def creating : Caller σ ρ → ℕ
  | .connecting | .connected _ | .failed => 1
  | _ => 0

/-- How many it counts for. -/
def units (caller : Caller σ ρ) : ℕ := caller.borrowed + caller.creating

/-- Behind the critical section of `getConnection`. -/
def ofAcquired : Acquired σ ρ → Caller σ ρ
  | .waiting => .asking
  | .closed | .timeout => .outside
  | .idle connection => .holding connection
  | .create => .connecting

/-- Behind the second one. -/
def ofMade : Option (PooledConnection σ ρ) → Caller σ ρ
  | none => .outside
  | some connection => .holding connection

end Caller

/-- The pool and its callers, whether its thread runs, and how many connections there have been. -/
structure PoolState (σ ρ ι : Type) where
  pool : DatabasePool σ ρ
  callers : ι → Caller σ ρ
  maintaining : Bool
  made : ℕ

namespace PoolState

variable {ι : Type}

/-- Behind `init`. -/
def initial (answers : ℕ → ℕ → Answer ρ) (config : DatabasePoolConfig) : Option (PoolState σ ρ ι) :=
  (DatabasePool.init answers config).map fun pool =>
    ⟨pool, fun _ => .outside, true, config.minConnections.toNat⟩

variable [DecidableEq ι]

/-- A caller moves, and perhaps the pool. -/
def move (s : PoolState σ ρ ι) (i : ι) (pool : DatabasePool σ ρ) (caller : Caller σ ρ) :
    PoolState σ ρ ι :=
  { s with pool := pool, callers := update s.callers i caller }

/-- **One step.** -/
inductive Step (answers : ℕ → ℕ → Answer ρ) : PoolState σ ρ ι → PoolState σ ρ ι → Prop where
  /-- `getConnection` is called. -/
  | call {s i} (h : s.callers i = .outside) : Step answers s (s.move i s.pool .asking)
  | getConnection {s i} (timedOut : Bool) (h : s.callers i = .asking) :
      Step answers s (s.move i (s.pool.getConnection timedOut).2
        (.ofAcquired (s.pool.getConnection timedOut).1))
  /-- The constructor of the connection returns, -/
  | connect {s i} (h : s.callers i = .connecting) :
      Step answers s { s.move i s.pool (.connected (.make answers s.made)) with made := s.made + 1 }
  /-- or throws. -/
  | fail {s i} (h : s.callers i = .connecting) : Step answers s (s.move i s.pool .failed)
  | connectionMade {s i connection} (h : s.callers i = .connected connection) :
      Step answers s (s.move i (s.pool.connectionMade connection).2
        (.ofMade (s.pool.connectionMade connection).1))
  | connectionFailed {s i} (h : s.callers i = .failed) :
      Step answers s (s.move i s.pool.connectionFailed .outside)
  /-- A borrower may do anything to its connection. -/
  | use {s i connection} (after : DatabaseConnection σ ρ) (h : s.callers i = .holding connection) :
      Step answers s (s.move i s.pool (.holding ⟨connection.id, after⟩))
  /-- `releaseReturnedConnections` is called, and resets the connection. -/
  | reset {s i connection} (h : s.callers i = .holding connection) :
      Step answers s (s.move i s.pool
        (.returning ⟨connection.id, connection.connection.reset.2⟩ connection.connection.reset.1))
  | release {s i connection result} (h : s.callers i = .returning connection result) :
      Step answers s (s.move i (s.pool.releaseReturnedConnections connection result) .outside)
  | close {s i} (h : s.callers i = .outside) : Step answers s (s.move i s.pool.close .closing)
  /-- `close` does not wait any longer. -/
  | closed {s i} (h : s.callers i = .closing) (hzero : s.pool.totalConnections = 0) :
      Step answers s (s.move i s.pool .joining)
  /-- `close` returns. -/
  | join {s i} (h : s.callers i = .joining) (hstopped : s.maintaining = false) :
      Step answers s (s.move i s.pool .outside)
  | maintain {s} (expired : PooledConnection σ ρ → Bool) (h : s.maintaining = true) :
      Step answers s ⟨(DatabasePool.maintain answers expired s.pool s.made).1, s.callers,
        (DatabasePool.maintain answers expired s.pool s.made).2.2,
        (DatabasePool.maintain answers expired s.pool s.made).2.1⟩

/-- What can come after what. -/
def Reaches (answers : ℕ → ℕ → Answer ρ) : PoolState σ ρ ι → PoolState σ ρ ι → Prop :=
  Relation.ReflTransGen (Step answers)

/-- **What can happen** to a pool that has been initialized. -/
def Reachable (answers : ℕ → ℕ → Answer ρ) (config : DatabasePoolConfig) (s : PoolState σ ρ ι) :
    Prop :=
  ∃ s₀, initial answers config = some s₀ ∧ Reaches answers s₀ s

end PoolState

namespace DatabasePool

/-! ### What the pool does to its count -/

/-- The connections in the queue, by their numbers. -/
def ids (pool : DatabasePool σ ρ) : Multiset ℕ := ↑(pool.idleQueue.map PooledConnection.id)

/-- How many connections are counted but not idle. -/
def outstanding (pool : DatabasePool σ ρ) : ℤ := pool.totalConnections - pool.idleQueue.length

/-- **What upkeep keeps**; what callers have is not in the queue. -/
structure Keeps (pool pool' : DatabasePool σ ρ) (made made' : ℕ) : Prop where
  config : pool'.config = pool.config
  isRunning : pool'.isRunning = pool.isRunning
  outstanding : pool'.outstanding = pool.outstanding
  max : pool.config.minConnections ≤ pool.config.maxConnections →
    pool.totalConnections ≤ pool.config.maxConnections →
    pool'.totalConnections ≤ pool.config.maxConnections
  distinct : ∀ numbers, Distinct made (pool.ids + numbers) → Distinct made' (pool'.ids + numbers)

theorem Keeps.refl (pool : DatabasePool σ ρ) (made : ℕ) : Keeps pool pool made made :=
  ⟨rfl, rfl, rfl, fun _ => id, fun _ => id⟩

theorem Keeps.trans {pool pool₁ pool₂ : DatabasePool σ ρ} {made made₁ made₂ : ℕ}
    (h₁ : Keeps pool pool₁ made made₁) (h₂ : Keeps pool₁ pool₂ made₁ made₂) :
    Keeps pool pool₂ made made₂ := by
  refine ⟨h₂.config.trans h₁.config, h₂.isRunning.trans h₁.isRunning,
    h₂.outstanding.trans h₁.outstanding, fun hvalid hmax => ?_, fun numbers h => ?_⟩
  · have hmax₂ := h₂.max
    rw [h₁.config] at hmax₂
    exact hmax₂ hvalid (h₁.max hvalid hmax)
  · exact h₂.distinct numbers (h₁.distinct numbers h)

variable {pool : DatabasePool σ ρ} {expired : PooledConnection σ ρ → Bool} {i : ℕ} {exceed total : ℤ}
  {queue : List (PooledConnection σ ρ)}

/-- **Trimming** closes what is idle, and counts it. -/
theorem trimFrom_spec (expired : PooledConnection σ ρ → Bool) (i : ℕ) (exceed total : ℤ)
    (queue : List (PooledConnection σ ρ)) (h : 0 ≤ exceed) :
    (trimFrom expired i exceed total queue).1 - (trimFrom expired i exceed total queue).2.length =
        total - queue.length ∧
      total - exceed ≤ (trimFrom expired i exceed total queue).1 ∧
      (trimFrom expired i exceed total queue).1 ≤ total ∧
      (trimFrom expired i exceed total queue).2.Subperm queue := by
  fun_induction trimFrom expired i exceed total queue with
  | case1 i exceed total => exact ⟨rfl, by omega, le_rfl, .refl _⟩
  | case2 i exceed total temp rest hi hclose ih =>
    rw [Bool.and_eq_true, decide_eq_true_eq] at hclose
    obtain ⟨hcount, hmin, hmax, hsub⟩ := ih (by omega)
    refine ⟨?_, by omega, by omega, hsub.trans (List.sublist_cons_self _ _).subperm⟩
    rw [hcount, List.length_cons]
    push_cast
    omega
  | case3 i exceed total temp rest hi hkeep ih =>
    obtain ⟨hcount, hmin, hmax, hsub⟩ := ih h
    have hperm : (rest ++ [temp]).Perm (temp :: rest) := List.perm_append_singleton temp rest
    refine ⟨?_, hmin, hmax, hsub.trans hperm.subperm⟩
    rw [hcount, hperm.length_eq]
  | case4 i exceed total temp rest hi => exact ⟨rfl, by omega, le_rfl, .refl _⟩

/-- The numbers in a queue with one connection more. -/
theorem map_id_concat (queue : List (PooledConnection σ ρ)) (connection : PooledConnection σ ρ) :
    ((queue ++ [connection]).map PooledConnection.id : Multiset ℕ) =
      connection.id ::ₘ (queue.map PooledConnection.id : Multiset ℕ) := by
  rw [List.map_append]
  exact Multiset.coe_eq_coe.2 (List.perm_append_singleton _ _)

theorem keeps_trim (pool : DatabasePool σ ρ) (expired : PooledConnection σ ρ → Bool) (made : ℕ) :
    Keeps pool (pool.trim expired) made made := by
  rw [trim]
  split
  · next hexceed =>
    obtain ⟨hcount, -, hmax, hsub⟩ := trimFrom_spec expired 0 _ pool.totalConnections pool.idleQueue
      hexceed.le
    refine ⟨rfl, rfl, hcount, fun _ h => hmax.trans h, fun numbers h => h.mono ?_⟩
    exact add_le_add_left (Multiset.map_le_map (f := PooledConnection.id) (Multiset.coe_le.2 hsub))
      numbers
  · exact .refl pool made

/-- **Trimming stops at the minimum.** -/
theorem min_le_trim (pool : DatabasePool σ ρ) (expired : PooledConnection σ ρ → Bool) :
    pool.config.minConnections ≤ (pool.trim expired).totalConnections ∨
      (pool.trim expired).totalConnections = pool.totalConnections := by
  rw [trim]
  split
  · next hexceed =>
    obtain ⟨-, hmin, -, -⟩ := trimFrom_spec expired 0 _ pool.totalConnections pool.idleQueue
      hexceed.le
    refine .inl (le_trans ?_ hmin)
    omega
  · exact .inr rfl

theorem keeps_replaceDead (answers : ℕ → ℕ → Answer ρ) (pool : DatabasePool σ ρ) (made count : ℕ) :
    Keeps pool (replaceDead answers pool made count).1 made
      (replaceDead answers pool made count).2 := by
  induction count generalizing pool made with
  | zero => exact .refl pool made
  | succ count ih =>
    rw [replaceDead]
    split
    · exact .refl pool made
    · next temp rest hqueue =>
      have hids : pool.ids = temp.id ::ₘ (rest.map PooledConnection.id : Multiset ℕ) := by
        rw [ids, hqueue]
        rfl
      have hoff : ((rest.map PooledConnection.id : List ℕ) : Multiset ℕ) ≤ pool.ids := by
        rw [hids]
        exact Multiset.le_cons_self _ _
      have houtstanding (connection : PooledConnection σ ρ) :
          pool.totalConnections - ((rest ++ [connection]).length : ℤ) = pool.outstanding := by
        rw [outstanding, hqueue, List.length_append]
        rfl
      split
      · refine Keeps.trans ?_ (ih _ _)
        refine ⟨rfl, rfl, houtstanding _, fun _ => id, fun numbers h => ?_⟩
        change Distinct (made + 1) (((rest ++ [_]).map PooledConnection.id : Multiset ℕ) + numbers)
        rw [map_id_concat, Multiset.cons_add]
        exact (h.mono (add_le_add_left hoff numbers)).give
      · refine Keeps.trans ?_ (ih _ _)
        refine ⟨rfl, rfl, houtstanding _, fun _ => id, fun numbers h => ?_⟩
        change Distinct made (((rest ++ [temp]).map PooledConnection.id : Multiset ℕ) + numbers)
        rw [map_id_concat, ← hids]
        exact h

theorem keeps_refill (answers : ℕ → ℕ → Answer ρ) (pool : DatabasePool σ ρ) (made : ℕ) :
    Keeps pool (refill answers pool made).1 made (refill answers pool made).2.1 := by
  rw [refill]
  split
  · next hfew =>
    refine ⟨rfl, rfl, ?_, fun hvalid _ => ?_, fun numbers h => ?_⟩
    · change pool.totalConnections + 1 - ((pool.idleQueue ++ [_]).length : ℤ) = _
      rw [List.length_append, List.length_singleton, outstanding]
      push_cast
      omega
    · change pool.totalConnections + 1 ≤ _
      omega
    · change Distinct (made + 1)
        (((pool.idleQueue ++ [_]).map PooledConnection.id : Multiset ℕ) + numbers)
      rw [map_id_concat, Multiset.cons_add]
      exact h.give
  · exact .refl pool made

theorem keeps_maintain (answers : ℕ → ℕ → Answer ρ) (expired : PooledConnection σ ρ → Bool)
    (pool : DatabasePool σ ρ) (made : ℕ) :
    Keeps pool (maintain answers expired pool made).1 made
      (maintain answers expired pool made).2.1 := by
  rw [maintain]
  split
  · exact .refl pool made
  · have htrim := keeps_trim pool expired made
    have hreplace := htrim.trans
      (keeps_replaceDead answers (pool.trim expired) made (pool.trim expired).idleQueue.length)
    exact hreplace.trans (keeps_refill answers _ _)

theorem drain_eq (pool : DatabasePool σ ρ) (queue : List (PooledConnection σ ρ)) :
    drain pool queue =
      { pool with
        idleQueue := []
        totalConnections := pool.totalConnections - queue.length } := by
  induction queue generalizing pool with
  | nil => simp [drain]
  | cons connection rest ih =>
    rw [drain, ih, List.length_cons]
    simp only [mk.injEq, true_and, and_true]
    push_cast
    omega

end DatabasePool

/-! ### The accounts -/

namespace PoolState

variable {ι : Type} [Fintype ι] {answers : ℕ → ℕ → Answer ρ} {config : DatabasePoolConfig}
  {s s' : PoolState σ ρ ι} {i j : ι}

/-- How many connections callers have borrowed. -/
def borrowed (s : PoolState σ ρ ι) : ℕ := Holdings.total Caller.borrowed s.callers

/-- How many connections are being created. -/
def creating (s : PoolState σ ρ ι) : ℕ := Holdings.total Caller.creating s.callers

/-- **The accounts are right.** -/
structure Accounts (s : PoolState σ ρ ι) : Prop where
  config : s.pool.config.minConnections ≤ s.pool.config.maxConnections
  outstanding : s.pool.outstanding = Holdings.total Caller.units s.callers
  max : s.pool.totalConnections ≤ s.pool.config.maxConnections
  distinct : Distinct s.made (s.pool.ids + Holdings.total Caller.held s.callers)
  closed : s.pool.isRunning = false → s.pool.idleQueue = []
  closing : ∀ i, s.callers i = .closing → s.pool.isRunning = false
  joining : ∀ i, s.callers i = .joining →
    s.pool.isRunning = false ∧ s.pool.totalConnections = 0

variable [DecidableEq ι]

/-- A caller that counts keeps `close` waiting. -/
theorem Accounts.units_le (h : Accounts s) (i : ι) :
    ((s.callers i).units : ℤ) ≤ s.pool.totalConnections := by
  have houtstanding := h.outstanding
  rw [DatabasePool.outstanding, Holdings.total_eq Caller.units s.callers i] at houtstanding
  push_cast at houtstanding
  omega

/-- **The rule for a caller that moves.** -/
theorem Accounts.move {pool : DatabasePool σ ρ} {caller : Caller σ ρ} {made : ℕ} (h : Accounts s)
    (hconfig : pool.config = s.pool.config)
    (houtstanding : pool.outstanding - caller.units = s.pool.outstanding - (s.callers i).units)
    (hmax : pool.totalConnections ≤ s.pool.config.maxConnections)
    (hdistinct : Distinct made (pool.ids + Holdings.total Caller.held (update s.callers i caller)))
    (hclosed : pool.isRunning = false → pool.idleQueue = [])
    (hstopped : s.pool.isRunning = false →
      pool.isRunning = false ∧ (s.pool.totalConnections = 0 → pool.totalConnections = 0))
    (hclosing : caller = .closing → pool.isRunning = false)
    (hjoining : caller = .joining → pool.isRunning = false ∧ pool.totalConnections = 0) :
    Accounts { s.move i pool caller with made := made } := by
  refine ⟨?_, ?_, ?_, hdistinct, hclosed, fun j hj => ?_, fun j hj => ?_⟩
  · exact hconfig ▸ h.config
  · have hbefore := h.outstanding
    rw [Holdings.total_eq Caller.units s.callers i] at hbefore
    change pool.outstanding = (Holdings.total Caller.units (update s.callers i caller) : ℕ)
    rw [Holdings.total_update]
    push_cast at hbefore ⊢
    omega
  · change pool.totalConnections ≤ pool.config.maxConnections
    rw [hconfig]
    exact hmax
  · change update s.callers i caller j = _ at hj
    by_cases hij : j = i
    · subst hij
      rw [update_self] at hj
      exact hclosing hj
    · rw [update_of_ne hij] at hj
      exact (hstopped (h.closing j hj)).1
  · change update s.callers i caller j = _ at hj
    by_cases hij : j = i
    · subst hij
      rw [update_self] at hj
      exact hjoining hj
    · rw [update_of_ne hij] at hj
      obtain ⟨hrunning, hzero⟩ := h.joining j hj
      exact ⟨(hstopped hrunning).1, (hstopped hrunning).2 hzero⟩

/-- A caller that moves without the pool. -/
theorem Accounts.stay {caller : Caller σ ρ} (h : Accounts s)
    (hunits : caller.units = (s.callers i).units) (hheld : caller.held ≤ (s.callers i).held)
    (hclosing : caller = .closing → s.pool.isRunning = false)
    (hjoining : caller = .joining → s.pool.isRunning = false ∧ s.pool.totalConnections = 0) :
    Accounts (s.move i s.pool caller) :=
  h.move rfl (by rw [hunits]) h.max (h.distinct.move (add_le_add_right hheld s.pool.ids)) h.closed
    (fun hrunning => ⟨hrunning, id⟩) hclosing hjoining

/-- A connection that is counted no longer. -/
theorem Accounts.forget {pool : DatabasePool σ ρ}
    (h : Accounts s) (hunits : (s.callers i).units = 1)
    (hpool : pool = { s.pool with totalConnections := s.pool.totalConnections - 1 }) :
    Accounts (s.move i pool .outside) := by
  have hle := h.units_le i
  have hmax := h.max
  subst hpool
  refine h.move rfl ?_ ?_ (h.distinct.move ?_) h.closed (fun hrunning => ⟨hrunning, fun hzero => ?_⟩)
    nofun nofun
  · rw [hunits, DatabasePool.outstanding, DatabasePool.outstanding]
    simp only [Caller.units, Caller.borrowed, Caller.creating]
    push_cast
    omega
  · change s.pool.totalConnections - 1 ≤ _
    omega
  · exact add_le_add_right (Multiset.zero_le _) s.pool.ids
  · rw [hunits] at hle
    omega

/-- The critical section of `getConnection`. -/
theorem Accounts.getConnection (h : Accounts s) (hi : s.callers i = .asking) (timedOut : Bool) :
    Accounts (s.move i (s.pool.getConnection timedOut).2
      (.ofAcquired (s.pool.getConnection timedOut).1)) := by
  rw [DatabasePool.getConnection]
  split
  · exact h.stay (by rw [hi]; rfl) (Multiset.zero_le _) nofun nofun
  · split
    · exact h.stay (by rw [hi]; rfl) (Multiset.zero_le _) nofun nofun
    · next hrunning =>
      split
      · exact h.stay (by rw [hi]; rfl) (Multiset.zero_le _) nofun nofun
      · next hready =>
        have hrun : s.pool.isRunning = true := by simpa using hrunning
        have hstopped {P : Prop} (hfalse : s.pool.isRunning = false) : P := by
          rw [hrun] at hfalse
          cases hfalse
        split
        · next connection rest hqueue =>
          refine h.move rfl ?_ h.max (h.distinct.move ?_) (fun hfalse => hstopped hfalse)
            (fun hfalse => hstopped hfalse) nofun nofun
          · rw [hi, DatabasePool.outstanding, DatabasePool.outstanding, hqueue, List.length_cons]
            simp only [Caller.units, Caller.borrowed, Caller.creating, Caller.ofAcquired]
            push_cast
            omega
          · have hids : s.pool.ids = (rest.map PooledConnection.id : Multiset ℕ) + {connection.id} := by
              rw [DatabasePool.ids, hqueue, Multiset.add_comm]
              rfl
            rw [hids]
            exact Multiset.le_add_right _ _
        · next hqueue =>
          refine h.move rfl ?_ ?_ (h.distinct.move ?_) (fun hfalse => hstopped hfalse)
            (fun hfalse => hstopped hfalse) nofun nofun
          · rw [hi, DatabasePool.outstanding, DatabasePool.outstanding]
            simp only [Caller.units, Caller.borrowed, Caller.creating, Caller.ofAcquired]
            push_cast
            omega
          · simp only [DatabasePool.ready, hrun, hqueue, List.isEmpty_nil, Bool.not_true,
              Bool.false_or, Bool.not_eq_true', decide_eq_false_iff_not, not_not] at hready
            change s.pool.totalConnections + 1 ≤ _
            omega
          · exact add_le_add_right (Multiset.zero_le _) s.pool.ids

/-- What is returned is idle, or counted no longer. -/
theorem Accounts.release {connection : PooledConnection σ ρ} {result : Bool} (h : Accounts s)
    (hi : s.callers i = .returning connection result) :
    Accounts (s.move i (s.pool.releaseReturnedConnections connection result) .outside) := by
  rw [DatabasePool.releaseReturnedConnections]
  split
  · exact h.forget (by rw [hi]; rfl) rfl
  · next hrunning =>
    split
    · exact h.forget (by rw [hi]; rfl) rfl
    · have hrun : s.pool.isRunning = true := by simpa using hrunning
      have hstopped {P : Prop} (hfalse : s.pool.isRunning = false) : P := by
        rw [hrun] at hfalse
        cases hfalse
      refine h.move rfl ?_ h.max (h.distinct.move ?_) (fun hfalse => hstopped hfalse)
        (fun hfalse => hstopped hfalse) nofun nofun
      · rw [hi, DatabasePool.outstanding, DatabasePool.outstanding, List.length_append]
        simp only [Caller.units, Caller.borrowed, Caller.creating, List.length_singleton]
        push_cast
        omega
      · rw [hi]
        change ((s.pool.idleQueue ++ [connection]).map PooledConnection.id : Multiset ℕ) + 0 ≤
          s.pool.ids + {connection.id}
        rw [DatabasePool.map_id_concat, Multiset.add_zero, Multiset.add_comm]
        rfl

/-- **A step keeps the accounts right.** -/
theorem Accounts.step (h : Accounts s) (hstep : Step answers s s') : Accounts s' := by
  cases hstep with
  | call hi => exact h.stay (by rw [hi]; rfl) (Multiset.zero_le _) nofun nofun
  | getConnection timedOut hi => exact h.getConnection hi timedOut
  | @connect i hi =>
    refine h.move rfl ?_ h.max ?_ h.closed (fun hrunning => ⟨hrunning, id⟩) nofun nofun
    · rw [hi]
      rfl
    · have hgive := h.distinct.give
      rw [← Multiset.cons_add] at hgive
      refine hgive.move ?_
      rw [hi]
      change s.pool.ids + {s.made} ≤ (s.made ::ₘ s.pool.ids) + 0
      rw [Multiset.add_zero, Multiset.add_comm]
      rfl
  | fail hi => exact h.stay (by rw [hi]; rfl) (Multiset.zero_le _) nofun nofun
  | @connectionMade i connection hi =>
    by_cases hrunning : s.pool.isRunning
    · rw [DatabasePool.connectionMade, if_pos hrunning]
      exact h.stay (by rw [hi]; rfl) (by rw [hi]; rfl) nofun nofun
    · rw [DatabasePool.connectionMade, if_neg hrunning]
      exact h.forget (by rw [hi]; rfl) rfl
  | connectionFailed hi => exact h.forget (by rw [hi]; rfl) rfl
  | use after hi => exact h.stay (by rw [hi]; rfl) (by rw [hi]; rfl) nofun nofun
  | reset hi => exact h.stay (by rw [hi]; rfl) (by rw [hi]; rfl) nofun nofun
  | release hi => exact h.release hi
  | @close i hi =>
    rw [DatabasePool.close, DatabasePool.drain_eq]
    refine h.move rfl ?_ ?_ (h.distinct.move ?_) (fun _ => rfl) (fun hrunning => ⟨rfl, fun hzero => ?_⟩)
      (fun _ => rfl) nofun
    · rw [hi, DatabasePool.outstanding, DatabasePool.outstanding]
      simp only [Caller.units, Caller.borrowed, Caller.creating, List.length_nil]
      push_cast
      omega
    · have hmax := h.max
      change s.pool.totalConnections - (s.pool.idleQueue.length : ℤ) ≤ _
      omega
    · change 0 + 0 ≤ _
      exact Multiset.zero_le _
    · change s.pool.totalConnections - (s.pool.idleQueue.length : ℤ) = 0
      rw [h.closed hrunning, hzero]
      rfl
  | closed hi hzero =>
    exact h.stay (by rw [hi]; rfl) (Multiset.zero_le _) nofun fun _ => ⟨h.closing _ hi, hzero⟩
  | join hi => exact h.stay (by rw [hi]; rfl) (Multiset.zero_le _) nofun nofun
  | maintain expired hmaintaining =>
    have hkeeps := DatabasePool.keeps_maintain answers expired s.pool s.made
    have hquiet (hfalse : s.pool.isRunning = false) :
        (DatabasePool.maintain answers expired s.pool s.made).1 = s.pool := by
      simp [DatabasePool.maintain, hfalse]
    refine ⟨?_, ?_, ?_, hkeeps.distinct _ h.distinct, fun hfalse => ?_, fun j hj => ?_, fun j hj => ?_⟩
    · rw [hkeeps.config]
      exact h.config
    · exact hkeeps.outstanding.trans h.outstanding
    · rw [hkeeps.config]
      exact hkeeps.max h.config h.max
    · rw [hkeeps.isRunning] at hfalse
      rw [hquiet hfalse]
      exact h.closed hfalse
    · exact hkeeps.isRunning.trans (h.closing j hj)
    · obtain ⟨hfalse, hzero⟩ := h.joining j hj
      exact ⟨hkeeps.isRunning.trans hfalse, by rw [hquiet hfalse]; exact hzero⟩

omit [DecidableEq ι] in
theorem Accounts.initial (h : PoolState.initial answers config = some s) : Accounts s := by
  rw [PoolState.initial, DatabasePool.init] at h
  split at h
  · cases h
  · next hvalid =>
    cases h
    have hmin : ((config.minConnections.toNat : ℕ) : ℤ) = config.minConnections :=
      Int.toNat_of_nonneg (by omega)
    have hnobody (amount : Caller σ ρ → ℕ) (hzero : amount .outside = 0) :
        Holdings.total amount (fun _ : ι => Caller.outside) = 0 :=
      Holdings.total_eq_zero fun _ => hzero
    have hheld : Holdings.total Caller.held (fun _ : ι => (Caller.outside : Caller σ ρ)) = 0 :=
      Holdings.total_eq_zero fun _ => rfl
    refine ⟨?_, ?_, ?_, ?_, nofun, nofun, nofun⟩
    · simp only
      omega
    · rw [hnobody Caller.units rfl, DatabasePool.outstanding, List.length_map, List.length_range, hmin]
      exact sub_self _
    · simp only
      omega
    · have hids : (((List.range config.minConnections.toNat).map
          (PooledConnection.make (σ := σ) answers)).map PooledConnection.id) =
            List.range config.minConnections.toNat := by
        rw [List.map_map]
        exact List.map_id _
      simp only [DatabasePool.ids, hids, hheld, Multiset.add_zero]
      exact ⟨Multiset.coe_nodup.2 List.nodup_range, fun x hx => List.mem_range.1 hx⟩

theorem Accounts.reaches (h : Accounts s) (hreaches : Reaches answers s s') : Accounts s' := by
  induction hreaches with
  | refl => exact h
  | tail _ hstep ih => exact ih.step hstep

theorem Reachable.accounts (h : Reachable answers config s) : Accounts s := by
  obtain ⟨s₀, hinitial, hreaches⟩ := h
  exact (Accounts.initial hinitial).reaches hreaches

/-! ### What else does not change -/

omit [Fintype ι] in
theorem config_of_step (hstep : Step answers s s') : s'.pool.config = s.pool.config := by
  cases hstep with
  | getConnection timedOut hi =>
    change (s.pool.getConnection timedOut).2.config = _
    rw [DatabasePool.getConnection]
    split_ifs
    · rfl
    · rfl
    · rfl
    · split <;> rfl
  | connectionMade hi =>
    change (s.pool.connectionMade _).2.config = _
    rw [DatabasePool.connectionMade]
    split_ifs <;> rfl
  | release hi =>
    change (s.pool.releaseReturnedConnections _ _).config = _
    rw [DatabasePool.releaseReturnedConnections]
    split_ifs <;> rfl
  | close hi =>
    change s.pool.close.config = _
    rw [DatabasePool.close, DatabasePool.drain_eq]
  | maintain expired hmaintaining =>
    exact (DatabasePool.keeps_maintain answers expired s.pool s.made).config
  | _ => rfl

omit [Fintype ι] in
theorem config_of_reaches (h : Reaches answers s s') : s'.pool.config = s.pool.config := by
  induction h with
  | refl => rfl
  | tail _ hstep ih => exact (config_of_step hstep).trans ih

/-- The caller has this connection, as the one that it has got from `getConnection`. -/
def Holds (s : PoolState σ ρ ι) (i : ι) (n : ℕ) : Prop :=
  ∃ connection, s.callers i = .holding connection ∧ connection.id = n

omit [Fintype ι] in
/-- **A pool that has been closed stays closed**, and hands out nothing. -/
theorem closed_of_step (hstep : Step answers s s') (hclosed : s.pool.isRunning = false) :
    s'.pool.isRunning = false ∧ ∀ j n, s'.Holds j n → s.Holds j n := by
  have hmove {i : ι} {pool : DatabasePool σ ρ} {caller : Caller σ ρ}
      (hpool : pool.isRunning = false)
      (hcaller : ∀ connection, caller = .holding connection → s.Holds i connection.id) :
      (s.move i pool caller).pool.isRunning = false ∧
        ∀ j n, (s.move i pool caller).Holds j n → s.Holds j n := by
    refine ⟨hpool, ?_⟩
    rintro j n ⟨connection, hj, rfl⟩
    change update s.callers i caller j = _ at hj
    by_cases hij : j = i
    · subst hij
      rw [update_self] at hj
      exact hcaller connection hj
    · rw [update_of_ne hij] at hj
      exact ⟨connection, hj, rfl⟩
  cases hstep with
  | call hi => exact hmove hclosed nofun
  | @getConnection i timedOut hi =>
    have hready : s.pool.ready = true := by simp [DatabasePool.ready, hclosed]
    have hget : s.pool.getConnection timedOut = (.closed, s.pool) := by
      simp [DatabasePool.getConnection, hready, hclosed]
    rw [hget]
    exact hmove hclosed nofun
  | connect hi => exact hmove hclosed nofun
  | fail hi => exact hmove hclosed nofun
  | @connectionMade i connection hi =>
    rw [DatabasePool.connectionMade, if_neg (by rw [hclosed]; exact Bool.false_ne_true)]
    exact hmove hclosed nofun
  | connectionFailed hi => exact hmove hclosed nofun
  | @use i connection after hi =>
    refine hmove hclosed fun connection' hconnection => ?_
    cases hconnection
    exact ⟨connection, hi, rfl⟩
  | reset hi => exact hmove hclosed nofun
  | @release i connection result hi =>
    rw [DatabasePool.releaseReturnedConnections, if_pos (by rw [hclosed]; rfl)]
    exact hmove hclosed nofun
  | close hi =>
    rw [DatabasePool.close, DatabasePool.drain_eq]
    exact hmove rfl nofun
  | closed hi hzero => exact hmove hclosed nofun
  | join hi => exact hmove hclosed nofun
  | maintain expired hmaintaining =>
    have hquiet : (DatabasePool.maintain answers expired s.pool s.made).1 = s.pool := by
      simp [DatabasePool.maintain, hclosed]
    exact ⟨by rw [hquiet]; exact hclosed, fun j n hj => hj⟩

omit [Fintype ι] in
theorem closed_of_reaches (h : Reaches answers s s') (hclosed : s.pool.isRunning = false) :
    s'.pool.isRunning = false ∧ ∀ j n, s'.Holds j n → s.Holds j n := by
  induction h with
  | refl => exact ⟨hclosed, fun j n => id⟩
  | tail _ hstep ih =>
    obtain ⟨hclosed', hholds⟩ := closed_of_step hstep ih.1
    exact ⟨hclosed', fun j n hj => ih.2 j n (hholds j n hj)⟩

end PoolState

open PoolState (Reachable Reaches)

variable {ι : Type} [Fintype ι] [DecidableEq ι] {answers : ℕ → ℕ → Answer ρ}
  {config : DatabasePoolConfig} {s : PoolState σ ρ ι}

/-- **The pool keeps its accounts.** Whenever the mutex is free, the count is that of the connections
that are idle, borrowed or being created, and not above the maximum; no connection is in two hands, or in
a hand and in the queue; trimming stops at the minimum; once the pool is closed nobody gets a connection;
and when `close` returns there is none. -/
theorem pool_accounting (h : Reachable answers config s) :
    s.pool.totalConnections = s.pool.idleQueue.length + s.borrowed + s.creating ∧
    s.pool.totalConnections ≤ config.maxConnections ∧
    (s.pool.idleQueue.map PooledConnection.id).Nodup ∧
    (∀ i j n, n ∈ (s.callers i).held → n ∈ (s.callers j).held → i = j) ∧
    (∀ i n, n ∈ (s.callers i).held → n ∉ s.pool.idleQueue.map PooledConnection.id) ∧
    (∀ expired, config.minConnections ≤ (s.pool.trim expired).totalConnections ∨
      (s.pool.trim expired).totalConnections = s.pool.totalConnections) ∧
    (s.pool.isRunning = false → ∀ s', Reaches answers s s' → ∀ i n, s'.Holds i n → s.Holds i n) ∧
    ∀ i, s.callers i = .joining → s.pool.totalConnections = 0 := by
  have haccounts := h.accounts
  have hconfig : s.pool.config = config := by
    obtain ⟨s₀, hinitial, hreaches⟩ := h
    rw [PoolState.config_of_reaches hreaches]
    rw [PoolState.initial, DatabasePool.init] at hinitial
    split at hinitial
    · cases hinitial
    · cases hinitial
      rfl
  refine ⟨?_, ?_, ?_, fun i j n hi hj => ?_, fun i n hi hn => ?_, fun expired => ?_,
    fun hclosed s' hreaches => (PoolState.closed_of_reaches hreaches hclosed).2,
    fun i hi => (haccounts.joining i hi).2⟩
  · have htotal : Holdings.total Caller.units s.callers = s.borrowed + s.creating :=
      Finset.sum_add_distrib
    have houtstanding := haccounts.outstanding
    rw [htotal, DatabasePool.outstanding] at houtstanding
    push_cast at houtstanding
    omega
  · exact hconfig ▸ haccounts.max
  · exact Multiset.coe_nodup.1 (Multiset.nodup_add.1 haccounts.distinct.nodup).1
  · by_contra hne
    exact Holdings.not_mem_of_nodup haccounts.distinct.nodup (Ne.symm hne) hi hj
  · exact Holdings.not_mem_of_mem_store haccounts.distinct.nodup (Multiset.mem_coe.2 hn) i hi
  · exact hconfig ▸ s.pool.min_le_trim expired

namespace Sample

/-- One connection at least and two at most. -/
def poolConfig : DatabasePoolConfig := ⟨1, 2⟩

/-- Every command succeeds. -/
def succeeding (_ _ : ℕ) : Answer Unit := .success ()

/-- The pool behind `init`, with one caller. -/
def pool : PoolState Unit Unit Unit :=
  ⟨⟨poolConfig, [.make succeeding 0], 1, true⟩, fun _ => .outside, true, 1⟩

/-- The caller has got the connection. -/
def lent : PoolState Unit Unit Unit :=
  ⟨⟨poolConfig, [], 1, true⟩, fun _ => .holding (.make succeeding 0), true, 1⟩

theorem reachable_lent : Reachable succeeding poolConfig lent := by
  refine ⟨pool, rfl, ?_⟩
  have hcall : PoolState.Step succeeding pool (pool.move () pool.pool .asking) := .call rfl
  refine (Relation.ReflTransGen.single hcall).tail ?_
  have hget := @PoolState.Step.getConnection _ _ _ _ succeeding (pool.move () pool.pool .asking) ()
    false rfl
  convert hget using 1
  simp only [lent, PoolState.move, pool, PoolState.mk.injEq, and_true]
  exact ⟨rfl, by funext i; rfl⟩

end Sample

theorem pool_accounting_lent : (1 : ℤ) = 0 + Sample.lent.borrowed + Sample.lent.creating :=
  (pool_accounting Sample.reachable_lent).1

/-! ### What is idle is at rest -/

namespace DatabasePool

variable {Q : PooledConnection σ ρ → Prop} {pool : DatabasePool σ ρ} {made : ℕ}

theorem forall_replaceDead (hmake : ∀ n, Q (.make answers n)) (h : ∀ c ∈ pool.idleQueue, Q c)
    (count : ℕ) : ∀ c ∈ (replaceDead answers pool made count).1.idleQueue, Q c := by
  induction count generalizing pool made with
  | zero => exact h
  | succ count ih =>
    rw [replaceDead]
    split
    · exact h
    · next temp rest hqueue =>
      rw [hqueue, List.forall_mem_cons] at h
      have hpush {c : PooledConnection σ ρ} (hc : Q c) : ∀ c' ∈ rest ++ [c], Q c' :=
        List.forall_mem_append.2 ⟨h.2, List.forall_mem_singleton.2 hc⟩
      split
      · exact ih (hpush (hmake made))
      · exact ih (hpush h.1)

/-- What holds of new connections and of those in the queue holds after the upkeep. -/
theorem forall_maintain {expired : PooledConnection σ ρ → Bool} (hmake : ∀ n, Q (.make answers n))
    (h : ∀ c ∈ pool.idleQueue, Q c) :
    ∀ c ∈ (maintain answers expired pool made).1.idleQueue, Q c := by
  rw [maintain]
  split
  · exact h
  · have htrim : ∀ c ∈ (pool.trim expired).idleQueue, Q c := by
      rw [trim]
      split
      · next hexceed =>
        obtain ⟨-, -, -, hsub⟩ := trimFrom_spec expired 0 _ pool.totalConnections pool.idleQueue
          hexceed.le
        exact fun c hc => h c (hsub.subset hc)
      · exact h
    have hreplace : ∀ c ∈ (replaceDead answers (pool.trim expired) made
        (pool.trim expired).idleQueue.length).1.idleQueue, Q c := forall_replaceDead hmake htrim _
    simp only
    generalize replaceDead answers (pool.trim expired) made _ = replaced at hreplace
    rw [refill]
    split
    · exact List.forall_mem_append.2 ⟨hreplace, List.forall_mem_singleton.2 (hmake _)⟩
    · exact hreplace

end DatabasePool

namespace PoolState

/-- **What is idle is at rest**, and what has been reset. -/
structure Rested (s : PoolState σ ρ ι) : Prop where
  idle : ∀ c ∈ s.pool.idleQueue, c.connection.isIdle
  returning : ∀ i c, s.callers i = .returning c true → c.connection.isIdle

variable {s' : PoolState σ ρ ι}

omit [Fintype ι] in
theorem Rested.move {i : ι} {pool : DatabasePool σ ρ} {caller : Caller σ ρ} (h : Rested s)
    (hidle : ∀ c ∈ pool.idleQueue, c.connection.isIdle)
    (hcaller : ∀ c, caller = .returning c true → c.connection.isIdle) :
    Rested (s.move i pool caller) := by
  refine ⟨hidle, fun j c hj => ?_⟩
  change update s.callers i caller j = _ at hj
  by_cases hij : j = i
  · subst hij
    rw [update_self] at hj
    exact hcaller c hj
  · rw [update_of_ne hij] at hj
    exact h.returning j c hj

omit [Fintype ι] in
theorem Rested.step (h : Rested s) (hstep : Step answers s s') : Rested s' := by
  cases hstep with
  | call hi => exact h.move h.idle nofun
  | getConnection timedOut hi =>
    rw [DatabasePool.getConnection]
    split_ifs
    · exact h.move h.idle nofun
    · exact h.move h.idle nofun
    · exact h.move h.idle nofun
    · split
      · next connection rest hqueue =>
        refine h.move (fun c hc => h.idle c ?_) nofun
        rw [hqueue]
        exact List.mem_cons_of_mem _ hc
      · exact h.move h.idle nofun
  | @connect i hi =>
    have hmove : Rested (s.move i s.pool (.connected (.make answers s.made))) := h.move h.idle nofun
    exact ⟨hmove.idle, hmove.returning⟩
  | fail hi => exact h.move h.idle nofun
  | connectionMade hi =>
    rw [DatabasePool.connectionMade]
    split
    · exact h.move h.idle nofun
    · exact h.move h.idle nofun
  | connectionFailed hi => exact h.move h.idle nofun
  | use after hi => exact h.move h.idle nofun
  | @reset i connection hi =>
    refine h.move h.idle fun c hc => ?_
    injection hc with hconnection hresult
    rw [← hconnection]
    exact DatabaseConnection.reset_isIdle hresult
  | @release i connection result hi =>
    rw [DatabasePool.releaseReturnedConnections]
    split
    · exact h.move h.idle nofun
    · split
      · exact h.move h.idle nofun
      · next hresult =>
        obtain rfl : result = true := by simpa using hresult
        exact h.move (List.forall_mem_append.2
          ⟨h.idle, List.forall_mem_singleton.2 (h.returning i connection hi)⟩) nofun
  | close hi =>
    rw [DatabasePool.close, DatabasePool.drain_eq]
    exact h.move nofun nofun
  | closed hi hzero => exact h.move h.idle nofun
  | join hi => exact h.move h.idle nofun
  | maintain expired hmaintaining =>
    exact ⟨DatabasePool.forall_maintain (fun _ => rfl) h.idle, h.returning⟩

omit [Fintype ι] in
theorem Reachable.rested (h : Reachable answers config s) : Rested s := by
  obtain ⟨s₀, hinitial, hreaches⟩ := h
  induction hreaches with
  | refl =>
    rw [initial, DatabasePool.init] at hinitial
    split at hinitial
    · cases hinitial
    · cases hinitial
      refine ⟨fun c hc => ?_, nofun⟩
      obtain ⟨n, -, rfl⟩ := List.mem_map.1 hc
      rfl
  | tail _ hstep ih => exact ih.step hstep

end PoolState

omit [Fintype ι] in
/-- **A transaction is committed or leaves nothing.** On an idle connection, whatever the callback does
and however the commands end: if `withTransaction` returns, every statement of the callback has succeeded
and is committed; if it throws, that is what was thrown first, and nothing is committed unless a `COMMIT`
was sent and the connection lost over it, and then all or nothing; and then the connection is idle or
closed. So whatever borrowers
do to their connections, those in the queue of the pool have no transaction that is open or has failed. -/
theorem transactions_commit_or_leave_nothing :
    (∀ (α : Type) (operation : Prog (fun _ : σ => ρ) Error α) (db : DatabaseConnection σ ρ), db.isIdle →
      (∀ result db', db.withTransaction operation = (.ok result, db') →
        ∃ trace, db'.executed = db.executed ++ trace ∧ Runs operation trace (.ok result) ∧
          (∀ x ∈ trace, ∃ result, x.answer = .ok result) ∧
          db'.committed = db.committed ++ trace.map Effects.Event.op) ∧
      (∀ error db', db.withTransaction operation = (.error error, db') →
        (db'.committed = db.committed ∨ ∃ statements, db.LostInCommit operation statements ∧
          db'.committed = db.committed ++ statements) ∧
          db.original operation = some error) ∧
      (db.withTransaction operation).2.Settled) ∧
    ∀ (answers : ℕ → ℕ → Answer ρ) (config : DatabasePoolConfig) (s : PoolState σ ρ ι),
      Reachable answers config s → ∀ c ∈ s.pool.idleQueue,
        ∃ conn, c.connection.connection = some conn ∧ conn.transactionStatus = .idle := by
  constructor
  · intro α operation db hidle
    rcases DatabaseConnection.withTransaction_cases operation hidle with
      ⟨result, db', trace, hwith, -, hidle', htrace⟩ | ⟨error, db', hwith, horiginal, hsettled, hcommitted⟩
    · rw [hwith]
      refine ⟨fun result' db'' heq => ?_, fun error db'' heq => ?_, .inr hidle'⟩
      · cases heq
        exact ⟨trace, htrace⟩
      · cases heq
    · rw [hwith]
      refine ⟨fun result db'' heq => ?_, fun error' db'' heq => ?_, hsettled⟩
      · cases heq
      · cases heq
        exact ⟨hcommitted, horiginal⟩
  · intro answers config s h c hc
    obtain ⟨statements, hconn⟩ := DatabaseConnection.connection_of_isIdle (h.rested.idle c hc)
    exact ⟨_, hconn, rfl⟩

/-- A callback with one statement. -/
def Sample.insertion : Prog (fun _ : ℕ => Unit) Error Unit := .call 7 fun _ => .ret ()

/-- The connection is lost over the third command, which is carried out. -/
def Sample.losing : DatabaseConnection ℕ Unit :=
  ⟨some .connected, [], fun n => if n = 2 then .lost .null true else .success (), [], []⟩

theorem transactions_commit_or_leave_nothing_lost :
    ∃ error db', Sample.losing.withTransaction Sample.insertion = (.error error, db') ∧
      (db'.committed = [] ∨ ∃ statements,
        Sample.losing.LostInCommit Sample.insertion statements ∧ db'.committed = [] ++ statements) ∧
      db'.Settled := by
  obtain ⟨-, hthrown, hsettled⟩ :=
    (@transactions_commit_or_leave_nothing ℕ Unit Unit _).1 _ Sample.insertion Sample.losing rfl
  exact ⟨_, _, rfl, (hthrown _ _ rfl).1, hsettled⟩

end ChatBackend
