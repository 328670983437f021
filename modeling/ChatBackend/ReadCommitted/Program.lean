import Mathlib.Logic.Function.Basic
import Mathlib.Logic.Relation
import Mathlib.Data.List.Basic

/-!
# Transactions under READ COMMITTED

A database session seen from its client is a program that issues statements one at a time. What a
statement does to the rest of the world comes down to a few primitive operations: it reads the
newest committed state together with the transaction's own uncommitted writes, it waits for a
lock, it tries a lock without waiting, it adds a write to the transaction, or it draws a value the
server makes up. Everything else (a locking `SELECT`, an `UPDATE`, an `INSERT` against a unique
index) is a program over these, built in `ReadCommitted.Statements`.

## What is deliberately absent

There is no SQL here, no table and no row: the state `σ`, the writes `ω`, the lock keys `κ`, the
drawn values `υ` and the errors `ε` are parameters. Deadlock detection and time-outs are absent as
well, because `ReadCommitted.System` lets every transaction be rolled back at any point.

## Main definitions

* `Prog` — programs, with their monad
* `Schema` — how a write changes the state, and which locks its writer must hold
* `Local` — what a running transaction has locked, written and seen
-/

namespace ReadCommitted

/-- The two lock strengths. Row locks `FOR SHARE` are `share`; `FOR UPDATE`, the lock taken by an
`UPDATE` or a `DELETE`, the entry of an uncommitted `INSERT` in a unique index, and advisory locks
are `exclusive`. -/
inductive Mode where
  | share
  | exclusive
  deriving DecidableEq, Repr

/-- A transaction's program: what it does next, and how it goes on. -/
inductive Prog (σ ω κ υ ε α : Type) : Type where
  /-- The client is done and asks for `COMMIT`. -/
  | ret (result : α)
  /-- The client, or a statement, fails: only `ROLLBACK` is left. -/
  | throw (error : ε)
  /-- Read the newest committed state, overlaid with the transaction's own writes. -/
  | read (next : σ → Prog σ ω κ υ ε α)
  /-- Wait for a lock; it is held to the end of the transaction. -/
  | lock (key : κ) (mode : Mode) (next : Prog σ ω κ υ ε α)
  /-- Take a lock if it is free at once (`SKIP LOCKED`), and learn whether it was. -/
  | tryLock (key : κ) (mode : Mode) (next : Bool → Prog σ ω κ υ ε α)
  /-- Add an uncommitted write. -/
  | write (w : ω) (next : Prog σ ω κ υ ε α)
  /-- Draw a server-generated value; nothing is assumed about it. -/
  | draw (next : υ → Prog σ ω κ υ ε α)

variable {σ ω κ υ ε α β : Type}

namespace Prog

/-- Sequencing. -/
def bind : Prog σ ω κ υ ε α → (α → Prog σ ω κ υ ε β) → Prog σ ω κ υ ε β
  | .ret a, f => f a
  | .throw e, _ => .throw e
  | .read k, f => .read fun db => (k db).bind f
  | .lock key m k, f => .lock key m (k.bind f)
  | .tryLock key m k, f => .tryLock key m fun b => (k b).bind f
  | .write w k, f => .write w (k.bind f)
  | .draw k, f => .draw fun v => (k v).bind f

instance : Monad (Prog σ ω κ υ ε) where
  pure := Prog.ret
  bind := Prog.bind

@[simp] theorem pure_eq (a : α) : (pure a : Prog σ ω κ υ ε α) = .ret a := rfl

@[simp] theorem bind_eq (p : Prog σ ω κ υ ε α) (f : α → Prog σ ω κ υ ε β) :
    (p >>= f) = p.bind f := rfl

@[simp] theorem ret_bind (a : α) (f : α → Prog σ ω κ υ ε β) : (Prog.ret a).bind f = f a := rfl

@[simp] theorem throw_bind (e : ε) (f : α → Prog σ ω κ υ ε β) :
    (Prog.throw e).bind f = .throw e := rfl

@[simp] theorem read_bind (k : σ → Prog σ ω κ υ ε α) (f : α → Prog σ ω κ υ ε β) :
    (Prog.read k).bind f = .read fun db => (k db).bind f := rfl

@[simp] theorem lock_bind (key : κ) (m : Mode) (k : Prog σ ω κ υ ε α)
    (f : α → Prog σ ω κ υ ε β) : (Prog.lock key m k).bind f = .lock key m (k.bind f) := rfl

@[simp] theorem tryLock_bind (key : κ) (m : Mode) (k : Bool → Prog σ ω κ υ ε α)
    (f : α → Prog σ ω κ υ ε β) :
    (Prog.tryLock key m k).bind f = .tryLock key m fun b => (k b).bind f := rfl

@[simp] theorem write_bind (w : ω) (k : Prog σ ω κ υ ε α) (f : α → Prog σ ω κ υ ε β) :
    (Prog.write w k).bind f = .write w (k.bind f) := rfl

@[simp] theorem draw_bind (k : υ → Prog σ ω κ υ ε α) (f : α → Prog σ ω κ υ ε β) :
    (Prog.draw k).bind f = .draw fun v => (k v).bind f := rfl

/-- A statement snapshot. -/
def snapshot : Prog σ ω κ υ ε σ := .read .ret

/-- Wait for one lock. -/
def acquire (key : κ) (mode : Mode) : Prog σ ω κ υ ε Unit := .lock key mode (.ret ())

/-- Add one write. -/
def emit (w : ω) : Prog σ ω κ υ ε Unit := .write w (.ret ())

/-- Fail. -/
def fail (e : ε) : Prog σ ω κ υ ε α := .throw e

end Prog

/-! ### The state a program runs against -/

/-- How the store behaves: the effect of one write, the locks a writer must hold to the end of its
transaction, and the changes that happen outside every transaction (time passing). -/
structure Schema (σ ω κ : Type) where
  /-- The effect of one write. -/
  apply : ω → σ → σ
  /-- The locks, with their strengths, that the writer holds. -/
  needs : ω → List (κ × Mode)
  /-- Changes that no transaction makes. -/
  drift : σ → σ → Prop

/-- The effect of a list of writes, in order. -/
def Schema.applyAll (S : Schema σ ω κ) (ws : List ω) (db : σ) : σ :=
  ws.foldl (fun db w => S.apply w db) db

@[simp] theorem Schema.applyAll_nil (S : Schema σ ω κ) (db : σ) : S.applyAll [] db = db := rfl

@[simp] theorem Schema.applyAll_cons (S : Schema σ ω κ) (w : ω) (ws : List ω) (db : σ) :
    S.applyAll (w :: ws) db = S.applyAll ws (S.apply w db) := rfl

theorem Schema.applyAll_append (S : Schema σ ω κ) (ws vs : List ω) (db : σ) :
    S.applyAll (ws ++ vs) db = S.applyAll vs (S.applyAll ws db) :=
  List.foldl_append

/-- A property kept by each of the writes is kept by all of them together. -/
theorem Schema.applyAll_induct (S : Schema σ ω κ) {P : σ → Prop} {ws : List ω} {db : σ}
    (h : ∀ w ∈ ws, ∀ db, P db → P (S.apply w db)) (hdb : P db) : P (S.applyAll ws db) := by
  induction ws generalizing db with
  | nil => exact hdb
  | cons w ws ih =>
    exact ih (fun v hv => h v (List.mem_cons_of_mem _ hv)) (h w (List.mem_cons_self ..) db hdb)

/-- What a running transaction has done so far. `seen` is a history variable: the committed states
its statements took their snapshots from. -/
structure Local (σ ω κ : Type) where
  /-- The locks it holds. -/
  locks : List (κ × Mode) := []
  /-- Its uncommitted writes, oldest first. -/
  writes : List ω := []
  /-- The committed states its statements have read. -/
  seen : List σ := []

namespace Local

/-- Hold one more lock. -/
def hold (s : Local σ ω κ) (key : κ) (mode : Mode) : Local σ ω κ :=
  { s with locks := (key, mode) :: s.locks }

/-- One more write. -/
def put (s : Local σ ω κ) (w : ω) : Local σ ω κ := { s with writes := s.writes ++ [w] }

/-- One more snapshot. -/
def see (s : Local σ ω κ) (db : σ) : Local σ ω κ := { s with seen := db :: s.seen }

@[simp] theorem locks_hold (s : Local σ ω κ) (key : κ) (mode : Mode) :
    (s.hold key mode).locks = (key, mode) :: s.locks := rfl
@[simp] theorem writes_hold (s : Local σ ω κ) (key : κ) (mode : Mode) :
    (s.hold key mode).writes = s.writes := rfl
@[simp] theorem seen_hold (s : Local σ ω κ) (key : κ) (mode : Mode) :
    (s.hold key mode).seen = s.seen := rfl
@[simp] theorem locks_put (s : Local σ ω κ) (w : ω) : (s.put w).locks = s.locks := rfl
@[simp] theorem writes_put (s : Local σ ω κ) (w : ω) : (s.put w).writes = s.writes ++ [w] := rfl
@[simp] theorem seen_put (s : Local σ ω κ) (w : ω) : (s.put w).seen = s.seen := rfl
@[simp] theorem locks_see (s : Local σ ω κ) (db : σ) : (s.see db).locks = s.locks := rfl
@[simp] theorem writes_see (s : Local σ ω κ) (db : σ) : (s.see db).writes = s.writes := rfl
@[simp] theorem seen_see (s : Local σ ω κ) (db : σ) : (s.see db).seen = db :: s.seen := rfl

end Local

/-- What a transaction's statements read: the committed state under its own writes. -/
def Schema.view (S : Schema σ ω κ) (s : Local σ ω κ) (db : σ) : σ := S.applyAll s.writes db

/-! ### Lock compatibility -/

/-- Two locks can be held by different transactions: different keys, or both shared. -/
def Compatible (a b : κ × Mode) : Prop := a.1 = b.1 → a.2 = .share ∧ b.2 = .share

/-- Two lock sets can be held by different transactions. -/
def CompatibleSets (as bs : List (κ × Mode)) : Prop := ∀ a ∈ as, ∀ b ∈ bs, Compatible a b

theorem Compatible.symm {a b : κ × Mode} (h : Compatible a b) : Compatible b a :=
  fun he => (h he.symm).symm

theorem CompatibleSets.symm {as bs : List (κ × Mode)} (h : CompatibleSets as bs) :
    CompatibleSets bs as :=
  fun b hb a ha => (h a ha b hb).symm

theorem CompatibleSets.mono {as as' bs bs' : List (κ × Mode)} (h : CompatibleSets as bs)
    (ha : as' ⊆ as) (hb : bs' ⊆ bs) : CompatibleSets as' bs' :=
  fun a ha' b hb' => h a (ha ha') b (hb hb')

/-- A lock held exclusively is held by nobody else, in any mode. -/
theorem CompatibleSets.not_mem_of_exclusive {as bs : List (κ × Mode)} {key : κ} {m : Mode}
    (h : CompatibleSets as bs) (ha : (key, Mode.exclusive) ∈ as) : (key, m) ∉ bs :=
  fun hb => by simpa using (h _ ha _ hb rfl).1

/-- A lock held in any mode is held exclusively by nobody else. -/
theorem CompatibleSets.not_mem_exclusive {as bs : List (κ × Mode)} {key : κ} {m : Mode}
    (h : CompatibleSets as bs) (ha : (key, m) ∈ as) : (key, Mode.exclusive) ∉ bs :=
  fun hb => by simpa using (h _ ha _ hb rfl).2

end ReadCommitted
