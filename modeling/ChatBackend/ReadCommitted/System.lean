import ChatBackend.ReadCommitted.Program

/-!
# Many transactions at once

A `System` adds to a schema the calls a client may make and the program each of them runs.
`Config` is the whole database at one moment: what is committed, which transactions are open and
how far each has got, and the history of the calls that have ended. `Step` moves one transaction by
one primitive operation, so a run interleaves any number of transactions statement by statement.

## Failure

A transaction may be rolled back before any of its operations, including after its last one: that
covers deadlock victims, time-outs, failing statements, an exception in the client and a `COMMIT`
that is refused. A `COMMIT` may also take effect while its answer is lost; the call then ends with
an exception although its writes are committed (`Outcome.lost`).

## Main definitions

* `System`, `Config`, `Step`, `Reachable`
* `Event` — how one call ended, with what it committed on top of which state
-/

namespace ReadCommitted

variable {σ ω κ υ ε χ ρ : Type}

/-- How a call ended. -/
inductive Outcome (ε ρ : Type) where
  /-- It committed and returned. -/
  | returned (result : ρ)
  /-- It was rolled back and raised an error. -/
  | threw (error : ε)
  /-- It committed, but raised an error because the answer of `COMMIT` did not arrive. -/
  | lost
  deriving DecidableEq

/-- One finished call. -/
structure Event (σ ω ε χ ρ : Type) where
  /-- The call, with its arguments. -/
  call : χ
  /-- How it ended. -/
  outcome : Outcome ε ρ
  /-- The committed states its statements read. -/
  seen : List σ
  /-- The committed state just before it ended. -/
  before : σ
  /-- The writes it committed. -/
  writes : List ω

/-- A database with its clients. -/
structure System (σ ω κ υ ε χ ρ : Type) extends Schema σ ω κ where
  /-- The program each call runs. -/
  body : χ → Prog σ ω κ υ ε ρ
  /-- When, given the history so far, clients make a call. -/
  allows : List (Event σ ω ε χ ρ) → χ → Prop

/-- An open transaction. -/
structure Txn (σ ω κ υ ε χ ρ : Type) where
  /-- The call it serves. -/
  call : χ
  /-- What it still has to do. -/
  prog : Prog σ ω κ υ ε ρ
  /-- What it has done. -/
  state : Local σ ω κ

/-- The whole database at one moment. -/
structure Config (σ ω κ υ ε χ ρ : Type) where
  /-- The committed state. -/
  db : σ
  /-- The open transactions, by number. -/
  txns : ℕ → Option (Txn σ ω κ υ ε χ ρ)
  /-- The finished calls, oldest first. -/
  log : List (Event σ ω ε χ ρ)
  /-- History variable: every state that has been the committed one. -/
  past : List σ

namespace Config

/-- Nothing is open and nothing has happened. -/
def initial (db : σ) : Config σ ω κ υ ε χ ρ := ⟨db, fun _ => none, [], [db]⟩

/-- Transaction `t` moves on. -/
def set (c : Config σ ω κ υ ε χ ρ) (t : ℕ) (x : Txn σ ω κ υ ε χ ρ) : Config σ ω κ υ ε χ ρ :=
  { c with txns := Function.update c.txns t (some x) }

/-- Transaction `t` ends, leaving `db` committed and `e` in the history. -/
def finish (c : Config σ ω κ υ ε χ ρ) (t : ℕ) (db : σ) (e : Event σ ω ε χ ρ) :
    Config σ ω κ υ ε χ ρ :=
  ⟨db, Function.update c.txns t none, c.log ++ [e], db :: c.past⟩

variable {c : Config σ ω κ υ ε χ ρ} {t : ℕ} {x y : Txn σ ω κ υ ε χ ρ}

@[simp] theorem db_set : (c.set t x).db = c.db := rfl
@[simp] theorem log_set : (c.set t x).log = c.log := rfl

@[simp] theorem set_set : (c.set t x).set t y = c.set t y := by
  simp [Config.set]

theorem set_txns_self : (c.set t x).txns t = some x := by simp [Config.set]

theorem set_txns_of_ne {u : ℕ} (h : u ≠ t) : (c.set t x).txns u = c.txns u := by
  simp [Config.set, Function.update_of_ne h]

/-- No open transaction other than `t` holds a lock that excludes this one. -/
def Grantable (c : Config σ ω κ υ ε χ ρ) (t : ℕ) (key : κ) (mode : Mode) : Prop :=
  ∀ u x, u ≠ t → c.txns u = some x → CompatibleSets x.state.locks [(key, mode)]

end Config

/-- One step of a run. -/
inductive Step (S : System σ ω κ υ ε χ ρ) :
    Config σ ω κ υ ε χ ρ → Config σ ω κ υ ε χ ρ → Prop where
  /-- `BEGIN`. -/
  | start {c t} (call : χ) : c.txns t = none → S.allows c.log call →
      Step S c (c.set t ⟨call, S.body call, {}⟩)
  | read {c t call k s} : c.txns t = some ⟨call, .read k, s⟩ →
      Step S c (c.set t ⟨call, k (S.view s c.db), s.see c.db⟩)
  | lock {c t call key m k s} : c.txns t = some ⟨call, .lock key m k, s⟩ →
      c.Grantable t key m → Step S c (c.set t ⟨call, k, s.hold key m⟩)
  | tryHit {c t call key m k s} : c.txns t = some ⟨call, .tryLock key m k, s⟩ →
      c.Grantable t key m → Step S c (c.set t ⟨call, k true, s.hold key m⟩)
  | tryMiss {c t call key m k s} : c.txns t = some ⟨call, .tryLock key m k, s⟩ →
      ¬ c.Grantable t key m → Step S c (c.set t ⟨call, k false, s⟩)
  | write {c t call w k s} : c.txns t = some ⟨call, .write w k, s⟩ →
      Step S c (c.set t ⟨call, k, s.put w⟩)
  | draw {c t call k s} (v : υ) : c.txns t = some ⟨call, .draw k, s⟩ →
      Step S c (c.set t ⟨call, k v, s⟩)
  /-- `COMMIT`, and the call returns. -/
  | commit {c t call r s} : c.txns t = some ⟨call, .ret r, s⟩ →
      Step S c (c.finish t (S.view s c.db) ⟨call, .returned r, s.seen, c.db, s.writes⟩)
  /-- `COMMIT`, but its answer is lost. -/
  | lose {c t call r s} : c.txns t = some ⟨call, .ret r, s⟩ →
      Step S c (c.finish t (S.view s c.db) ⟨call, .lost, s.seen, c.db, s.writes⟩)
  /-- `ROLLBACK`, for whatever reason. -/
  | rollback {c t call p s} (e : ε) : c.txns t = some ⟨call, p, s⟩ →
      Step S c (c.finish t c.db ⟨call, .threw e, s.seen, c.db, []⟩)
  /-- Something changes outside every transaction. -/
  | drift {c db} : S.drift c.db db → Step S c { c with db := db, past := db :: c.past }

/-- Runs. -/
abbrev Steps (S : System σ ω κ υ ε χ ρ) : Config σ ω κ υ ε χ ρ → Config σ ω κ υ ε χ ρ → Prop :=
  Relation.ReflTransGen (Step S)

/-- The configurations some run reaches from a store with nothing open. -/
def Reachable (S : System σ ω κ υ ε χ ρ) (db₀ : σ) (c : Config σ ω κ υ ε χ ρ) : Prop :=
  Steps S (.initial db₀) c

/-- The history only grows. -/
theorem Step.log_prefix {S : System σ ω κ υ ε χ ρ} {c c' : Config σ ω κ υ ε χ ρ}
    (h : Step S c c') : c.log <+: c'.log := by
  cases h <;> first | exact List.prefix_rfl | exact List.prefix_append ..

theorem Steps.log_prefix {S : System σ ω κ υ ε χ ρ} {c c' : Config σ ω κ υ ε χ ρ}
    (h : Steps S c c') : c.log <+: c'.log := by
  induction h with
  | refl => exact List.prefix_rfl
  | tail _ hs ih => exact ih.trans hs.log_prefix

end ReadCommitted
