import ChatBackend.ReadCommitted.System

/-!
# Who calls

What is known of every call when it begins is known of the open transactions and of the history. A
caller may say more with a call than the system needs to know, such as who makes it; what such callers
do are steps of the system. And a call that begins once is in the history once.

## Main definitions

* `Config.CalledBy` — only such calls have been made
* `System.comap`, `Config.mapCalls` — callers that say more
* `Config.Once` — the call has been made once at most

## Main results

* `Config.CalledBy.step` — a step keeps it, if only such calls are allowed
* `Step.mapCalls` — the steps of callers that say more
* `Config.Once.step`, `Config.Once.start` — a call that is not begun again has been made once
-/

namespace ReadCommitted

variable {σ ω κ υ ε χ χ' ρ : Type} {S : System σ ω κ υ ε χ ρ} {c c' : Config σ ω κ υ ε χ ρ}
  {good good' : χ → Prop}

/-- **Only such calls have been made.** -/
structure Config.CalledBy (good : χ → Prop) (c : Config σ ω κ υ ε χ ρ) : Prop where
  txns : ∀ t x, c.txns t = some x → good x.call
  log : ∀ e ∈ c.log, good e.call

namespace Config.CalledBy

theorem initial (db : σ) : (Config.initial db : Config σ ω κ υ ε χ ρ).CalledBy good := by
  refine ⟨fun t x hx => ?_, fun e he => ?_⟩
  · cases hx
  · cases he

theorem mono (h : c.CalledBy good) (hgood : ∀ call, good call → good' call) : c.CalledBy good' :=
  ⟨fun t x hx => hgood _ (h.txns t x hx), fun e he => hgood _ (h.log e he)⟩

/-- A transaction begins or moves on. -/
theorem set (h : c.CalledBy good) {t : ℕ} {call : χ} (hcall : good call) (p : Prog σ ω κ υ ε ρ)
    (s : Local σ ω κ) : (c.set t ⟨call, p, s⟩).CalledBy good := by
  refine ⟨fun u y hy => ?_, h.log⟩
  by_cases hut : u = t
  · subst hut
    rw [Config.set_txns_self, Option.some.injEq] at hy
    exact hy ▸ hcall
  · rw [Config.set_txns_of_ne hut] at hy
    exact h.txns u y hy

/-- A transaction ends. -/
theorem finish (h : c.CalledBy good) {t : ℕ} {db : σ} {e : Event σ ω ε χ ρ} (he : good e.call) :
    (c.finish t db e).CalledBy good := by
  refine ⟨fun u y hy => ?_, fun x hx => ?_⟩
  · by_cases hut : u = t
    · simp [Config.finish, hut] at hy
    · exact h.txns u y (by simpa [Config.finish, Function.update_of_ne hut] using hy)
  · rcases List.mem_append.mp hx with hx | hx
    · exact h.log x hx
    · rw [List.mem_singleton.mp hx]
      exact he

/-- **A step keeps it.** -/
theorem step (h : c.CalledBy good) (hallows : ∀ log call, S.allows log call → good call)
    (hstep : Step S c c') : c'.CalledBy good := by
  cases hstep with
  | start call _ hcall => exact h.set (hallows _ call hcall) _ _
  | read hx | lock hx _ | tryHit hx _ | tryMiss hx _ | write hx | draw _ hx =>
    have hcall := h.txns _ _ hx
    exact h.set hcall _ _
  | commit hx | lose hx | rollback _ hx =>
    have hcall := h.txns _ _ hx
    exact h.finish hcall
  | drift _ => exact ⟨h.txns, h.log⟩

end Config.CalledBy

/-! ### Callers that say more -/

/-- The event, with less said of its call. -/
def Event.mapCall (f : χ' → χ) (e : Event σ ω ε χ' ρ) : Event σ ω ε χ ρ :=
  ⟨f e.call, e.outcome, e.seen, e.before, e.writes⟩

/-- The transaction, with less said of its call. -/
def Txn.mapCall (f : χ' → χ) (x : Txn σ ω κ υ ε χ' ρ) : Txn σ ω κ υ ε χ ρ :=
  ⟨f x.call, x.prog, x.state⟩

/-- The configuration, with less said of the calls. -/
def Config.mapCalls (f : χ' → χ) (c : Config σ ω κ υ ε χ' ρ) : Config σ ω κ υ ε χ ρ :=
  ⟨c.db, fun t => (c.txns t).map (Txn.mapCall f), c.log.map (Event.mapCall f), c.past⟩

/-- The system, for callers that say more with a call than it needs to know. -/
def System.comap (S : System σ ω κ υ ε χ ρ) (f : χ' → χ)
    (allows : List (Event σ ω ε χ' ρ) → χ' → Prop) : System σ ω κ υ ε χ' ρ :=
  { S.toSchema with body := fun call => S.body (f call), allows := allows }

section MapCalls

variable {f : χ' → χ} {d d' : Config σ ω κ υ ε χ' ρ}

@[simp] theorem Event.call_mapCall (e : Event σ ω ε χ' ρ) : (e.mapCall f).call = f e.call := rfl
@[simp] theorem Event.outcome_mapCall (e : Event σ ω ε χ' ρ) : (e.mapCall f).outcome = e.outcome := rfl
@[simp] theorem Event.seen_mapCall (e : Event σ ω ε χ' ρ) : (e.mapCall f).seen = e.seen := rfl
@[simp] theorem Event.before_mapCall (e : Event σ ω ε χ' ρ) : (e.mapCall f).before = e.before := rfl
@[simp] theorem Event.writes_mapCall (e : Event σ ω ε χ' ρ) : (e.mapCall f).writes = e.writes := rfl

@[simp] theorem Config.db_mapCalls : (d.mapCalls f).db = d.db := rfl
@[simp] theorem Config.past_mapCalls : (d.mapCalls f).past = d.past := rfl
@[simp] theorem Config.log_mapCalls : (d.mapCalls f).log = d.log.map (Event.mapCall f) := rfl

theorem Config.txns_mapCalls {t : ℕ} {x : Txn σ ω κ υ ε χ' ρ} (h : d.txns t = some x) :
    (d.mapCalls f).txns t = some (x.mapCall f) :=
  congrArg (Option.map (Txn.mapCall f)) h

theorem Config.mapCalls_set (t : ℕ) (x : Txn σ ω κ υ ε χ' ρ) :
    (d.set t x).mapCalls f = (d.mapCalls f).set t (x.mapCall f) := by
  rw [Config.set, Config.set, Config.mapCalls, Config.mapCalls, Config.mk.injEq]
  refine ⟨rfl, funext fun u => ?_, rfl, rfl⟩
  show (Function.update d.txns t (some x) u).map (Txn.mapCall f) =
    Function.update (d.mapCalls f).txns t (some (x.mapCall f)) u
  by_cases hu : u = t
  · rw [hu, Function.update_self, Function.update_self, Option.map_some]
  · rw [Function.update_of_ne hu, Function.update_of_ne hu, Config.mapCalls]

theorem Config.mapCalls_finish (t : ℕ) (db : σ) (e : Event σ ω ε χ' ρ) :
    (d.finish t db e).mapCalls f = (d.mapCalls f).finish t db (e.mapCall f) := by
  rw [Config.finish, Config.finish, Config.mapCalls, Config.mapCalls, Config.mk.injEq]
  refine ⟨rfl, funext fun u => ?_, List.map_append, rfl⟩
  show (Function.update d.txns t none u).map (Txn.mapCall f) =
    Function.update (d.mapCalls f).txns t none u
  by_cases hu : u = t
  · rw [hu, Function.update_self, Function.update_self, Option.map_none]
  · rw [Function.update_of_ne hu, Function.update_of_ne hu, Config.mapCalls]

/-- Locks do not depend on what is said of the calls. -/
theorem Config.grantable_mapCalls {t : ℕ} {key : κ} {mode : Mode} :
    (d.mapCalls f).Grantable t key mode ↔ d.Grantable t key mode := by
  constructor
  · exact fun h u x hu hx => h u _ hu (Config.txns_mapCalls hx)
  · intro h u x hu hx
    obtain ⟨y, hy, rfl⟩ := Option.map_eq_some_iff.mp hx
    exact h u y hu hy

/-- **What such callers do** are steps of the system. -/
theorem Step.mapCalls {allows : List (Event σ ω ε χ' ρ) → χ' → Prop}
    (hallows : ∀ log call, allows log call → S.allows (log.map (Event.mapCall f)) (f call))
    (h : Step (S.comap f allows) d d') : Step S (d.mapCalls f) (d'.mapCalls f) := by
  cases h with
  | start call hnone hcall =>
    rw [Config.mapCalls_set]
    exact .start (f call) (congrArg (Option.map (Txn.mapCall f)) hnone) (hallows _ call hcall)
  | read hx =>
    rw [Config.mapCalls_set]
    exact .read (Config.txns_mapCalls hx)
  | lock hx hgrant =>
    rw [Config.mapCalls_set]
    exact .lock (Config.txns_mapCalls hx) (Config.grantable_mapCalls.mpr hgrant)
  | tryHit hx hgrant =>
    rw [Config.mapCalls_set]
    exact .tryHit (Config.txns_mapCalls hx) (Config.grantable_mapCalls.mpr hgrant)
  | tryMiss hx hgrant =>
    rw [Config.mapCalls_set]
    exact .tryMiss (Config.txns_mapCalls hx) (mt Config.grantable_mapCalls.mp hgrant)
  | write hx =>
    rw [Config.mapCalls_set]
    exact .write (Config.txns_mapCalls hx)
  | draw v hx =>
    rw [Config.mapCalls_set]
    exact .draw v (Config.txns_mapCalls hx)
  | commit hx =>
    rw [Config.mapCalls_finish]
    exact .commit (Config.txns_mapCalls hx)
  | lose hx =>
    rw [Config.mapCalls_finish]
    exact .lose (Config.txns_mapCalls hx)
  | rollback e hx =>
    rw [Config.mapCalls_finish]
    exact .rollback e (Config.txns_mapCalls hx)
  | drift hdrift => exact .drift hdrift

end MapCalls

/-! ### Calls that are made once -/

/-- A transaction with the call is open, or has ended. -/
def Config.Has (c : Config σ ω κ υ ε χ ρ) (call : χ) : Prop :=
  (∃ t x, c.txns t = some x ∧ x.call = call) ∨ ∃ e ∈ c.log, e.call = call

/-- **The call has been made once at most**: there is at most one transaction with it, open or ended. -/
structure Config.Once (c : Config σ ω κ υ ε χ ρ) (call : χ) : Prop where
  txns : ∀ t x u y, c.txns t = some x → c.txns u = some y → x.call = call → y.call = call → t = u
  apart : ∀ t x, c.txns t = some x → x.call = call → ∀ e ∈ c.log, e.call ≠ call
  log : c.log.Pairwise fun e e' => e.call = call → e'.call ≠ call

namespace Config.Once

variable {call : χ} {t : ℕ} {x y : Txn σ ω κ υ ε χ ρ}

theorem initial (db : σ) (call : χ) : (Config.initial db : Config σ ω κ υ ε χ ρ).Once call := by
  refine ⟨fun t x u y hx => ?_, fun t x hx => ?_, List.Pairwise.nil⟩
  · cases hx
  · cases hx

/-- The event of the call is the only one. -/
theorem not_mem (h : c.Once call) {before after : List (Event σ ω ε χ ρ)} {e : Event σ ω ε χ ρ}
    (hlog : c.log = before ++ e :: after) (he : e.call = call) :
    ∀ e' ∈ before ++ after, e'.call ≠ call := by
  have hpairs := h.log
  rw [hlog, List.pairwise_append, List.pairwise_cons] at hpairs
  obtain ⟨-, ⟨hafter, -⟩, hbefore⟩ := hpairs
  intro e' he' hsame
  rcases List.mem_append.mp he' with hmem | hmem
  · exact hbefore e' hmem e (List.mem_cons_self ..) hsame he
  · exact hafter e' hmem he hsame

/-- **The call begins**, which it has not done before; or another one does. -/
theorem start (h : c.Once call) (hnone : c.txns t = none) (hx : x.call = call → ¬ c.Has call) :
    (c.set t x).Once call := by
  -- an open transaction with the call is an old one, or the new one
  have hcases : ∀ {u y}, (c.set t x).txns u = some y →
      u = t ∧ y = x ∨ u ≠ t ∧ c.txns u = some y := by
    intro u y hy
    by_cases hu : u = t
    · subst hu
      rw [Config.set_txns_self, Option.some.injEq] at hy
      exact .inl ⟨rfl, hy.symm⟩
    · rw [Config.set_txns_of_ne hu] at hy
      exact .inr ⟨hu, hy⟩
  refine ⟨fun u y v z hy hz hyCall hzCall => ?_, fun u y hy hyCall e he => ?_, h.log⟩
  · rcases hcases hy with ⟨rfl, rfl⟩ | ⟨-, hold⟩
    · rcases hcases hz with ⟨rfl, -⟩ | ⟨-, hold⟩
      · rfl
      · exact absurd (.inl ⟨v, z, hold, hzCall⟩) (hx hyCall)
    · rcases hcases hz with ⟨rfl, rfl⟩ | ⟨-, hold'⟩
      · exact absurd (.inl ⟨u, y, hold, hyCall⟩) (hx hzCall)
      · exact h.txns u y v z hold hold' hyCall hzCall
  · rcases hcases hy with ⟨-, rfl⟩ | ⟨-, hold⟩
    · exact fun hsame => hx hyCall (.inr ⟨e, he, hsame⟩)
    · exact h.apart u y hold hyCall e he

/-- A transaction moves on. -/
theorem move (h : c.Once call) (hx : c.txns t = some x) (hy : y.call = x.call) :
    (c.set t y).Once call := by
  -- what is open with the call now was open with it before
  have hopen : ∀ {u z}, (c.set t y).txns u = some z → ∃ z', c.txns u = some z' ∧ z'.call = z.call := by
    intro u z hz
    by_cases hu : u = t
    · subst hu
      rw [Config.set_txns_self, Option.some.injEq] at hz
      exact ⟨x, hx, hz ▸ hy.symm⟩
    · rw [Config.set_txns_of_ne hu] at hz
      exact ⟨z, hz, rfl⟩
  refine ⟨fun u z v z' hz hz' hcall hcall' => ?_, fun u z hz hcall e he => ?_, h.log⟩
  · obtain ⟨a, ha, haCall⟩ := hopen hz
    obtain ⟨b, hb, hbCall⟩ := hopen hz'
    exact h.txns u a v b ha hb (haCall.trans hcall) (hbCall.trans hcall')
  · obtain ⟨a, ha, haCall⟩ := hopen hz
    exact h.apart u a ha (haCall.trans hcall) e he

/-- A transaction ends. -/
theorem finish (h : c.Once call) (hx : c.txns t = some x) {db : σ} {e : Event σ ω ε χ ρ}
    (he : e.call = x.call) : (c.finish t db e).Once call := by
  have hopen : ∀ {u y}, (c.finish t db e).txns u = some y → u ≠ t ∧ c.txns u = some y := by
    intro u y hy
    by_cases hu : u = t
    · simp [Config.finish, hu] at hy
    · exact ⟨hu, by simpa [Config.finish, Function.update_of_ne hu] using hy⟩
  refine ⟨fun u y v z hy hz => h.txns u y v z (hopen hy).2 (hopen hz).2, fun u y hy hcall e' he' => ?_,
    List.pairwise_append.mpr ⟨h.log, List.pairwise_singleton _ _, fun e' he' e'' he'' hcall => ?_⟩⟩
  · obtain ⟨hu, hy⟩ := hopen hy
    rcases List.mem_append.mp he' with hold | hnew
    · exact h.apart u y hy hcall e' hold
    · rw [List.mem_singleton.mp hnew, he]
      exact fun hsame => hu (h.txns u y t x hy hx hcall hsame)
  · rw [List.mem_singleton.mp he'', he]
    exact fun hsame => h.apart t x hx hsame e' he' hcall

/-- **A step** that does not begin it. -/
theorem step (h : c.Once call) (hallows : ∀ log, ¬ S.allows log call) (hstep : Step S c c') :
    c'.Once call := by
  cases hstep with
  | start call' hnone hcall =>
    refine h.start hnone fun hsame => ?_
    rw [← hsame] at hallows
    exact absurd hcall (hallows _)
  | read hx | lock hx _ | tryHit hx _ | tryMiss hx _ | write hx | draw _ hx => exact h.move hx rfl
  | commit hx | lose hx | rollback _ hx => exact h.finish hx rfl
  | drift _ => exact ⟨h.txns, h.apart, h.log⟩

end Config.Once

end ReadCommitted
