import ChatBackend.ReadCommitted.Logic

/-!
# The serial view

What the calls of a system do, seen only at the moments they commit. A `Spec` says, for a call that
returns, which writes it commits on top of the state it finds, given the earlier states its
statements read. `Serial.Step` runs calls one at a time, each in a single step that meets the
specification; it knows nothing of locks, statements or schedules.

`Reachable.serial` connects the two levels: if every program meets its specification under
interference, then every interleaved run is a serial run with the same committed state, the same
history and the same sequence of committed states. Invariants are proved about the serial view and
hold of every interleaving.

## Main definitions

* `Spec`, `Meets` — specifications, and programs that meet them
* `Serial.Step`, `Serial.Reachable`

## Main results

* `Reachable.serial` — interleaved runs are serial runs
* `Serial.induction`, `Serial.Steps.rel` — invariants of states, and of pairs of states
* `Serial.Reachable.split` — the state in which an event of the history happened
-/

namespace ReadCommitted

variable {σ ω κ υ ε χ ρ : Type}

/-- What a returning call commits: `spec call result seen writes before`. -/
abbrev Spec (σ ω χ ρ : Type) := χ → ρ → List σ → List ω → σ → Prop

/-- Every call's program meets its specification from every committed state. -/
def Meets (S : System σ ω κ υ ε χ ρ) (spec : Spec σ ω χ ρ) : Prop :=
  ∀ call db, wp S.toSchema (S.body call) (fun r s db => spec call r s.seen s.writes db) {} db

namespace Serial

/-- The state of a serial run. -/
structure State (σ ω ε χ ρ : Type) where
  /-- The committed state. -/
  db : σ
  /-- The finished calls, oldest first. -/
  log : List (Event σ ω ε χ ρ)
  /-- Every state that has been the committed one. -/
  past : List σ

/-- What the end of a call says about what it committed. -/
def Commits (spec : Spec σ ω χ ρ) (e : Event σ ω ε χ ρ) : Prop :=
  match e.outcome with
  | .returned r => spec e.call r e.seen e.writes e.before
  | .threw _ => e.writes = []
  | .lost => ∃ r, spec e.call r e.seen e.writes e.before

/-- The call of `e` can end like this in the state `x`. -/
structure Ends (S : System σ ω κ υ ε χ ρ) (spec : Spec σ ω χ ρ) (x : State σ ω ε χ ρ)
    (e : Event σ ω ε χ ρ) : Prop where
  before : e.before = x.db
  seen : e.seen ⊆ x.past
  allowed : ∃ log₀, log₀ <+: x.log ∧ S.allows log₀ e.call
  commits : Commits spec e

/-- The state after the call of `e` has ended. -/
def State.after (S : System σ ω κ υ ε χ ρ) (x : State σ ω ε χ ρ) (e : Event σ ω ε χ ρ) :
    State σ ω ε χ ρ :=
  ⟨S.applyAll e.writes x.db, x.log ++ [e], S.applyAll e.writes x.db :: x.past⟩

/-- One call from beginning to end, or drift. -/
inductive Step (S : System σ ω κ υ ε χ ρ) (spec : Spec σ ω χ ρ) :
    State σ ω ε χ ρ → State σ ω ε χ ρ → Prop where
  | ends {x e} : Ends S spec x e → Step S spec x (x.after S e)
  | drift {x db} : S.drift x.db db → Step S spec x ⟨db, x.log, db :: x.past⟩

/-- Serial runs. -/
abbrev Steps (S : System σ ω κ υ ε χ ρ) (spec : Spec σ ω χ ρ) :
    State σ ω ε χ ρ → State σ ω ε χ ρ → Prop :=
  Relation.ReflTransGen (Step S spec)

/-- The states of serial runs from `db₀`. -/
def Reachable (S : System σ ω κ υ ε χ ρ) (spec : Spec σ ω χ ρ) (db₀ : σ)
    (x : State σ ω ε χ ρ) : Prop :=
  Steps S spec ⟨db₀, [], [db₀]⟩ x

variable {S : System σ ω κ υ ε χ ρ} {spec : Spec σ ω χ ρ} {db₀ : σ}
  {x y : State σ ω ε χ ρ} {e f : Event σ ω ε χ ρ}

@[simp] theorem State.db_after : (x.after S e).db = S.applyAll e.writes x.db := rfl
@[simp] theorem State.log_after : (x.after S e).log = x.log ++ [e] := rfl
@[simp] theorem State.past_after :
    (x.after S e).past = S.applyAll e.writes x.db :: x.past := rfl

/-- What is committed was specified, or is nothing. -/
theorem Ends.writes (h : Ends S spec x e) : e.writes = [] ∨ ∃ r, spec e.call r e.seen e.writes x.db := by
  have hc := h.commits
  rw [Commits] at hc
  rw [← h.before]
  cases ho : e.outcome with
  | returned r => exact Or.inr ⟨r, by simpa [ho] using hc⟩
  | threw err => exact Or.inl (by simpa [ho] using hc)
  | lost => exact Or.inr (by simpa [ho] using hc)

/-- A returned result was specified. -/
theorem Ends.returned {r : ρ} (h : Ends S spec x e) (ho : e.outcome = .returned r) :
    spec e.call r e.seen e.writes x.db := by
  have hc := h.commits
  rw [Commits, ho] at hc
  rwa [← h.before]

/-- **The invariant rule.** -/
theorem induction {P : State σ ω ε χ ρ → Prop}
    (hends : ∀ x e, Ends S spec x e → P x → P (x.after S e))
    (hdrift : ∀ x db, S.drift x.db db → P x → P ⟨db, x.log, db :: x.past⟩)
    (h : Steps S spec x y) (hx : P x) : P y := by
  induction h with
  | refl => exact hx
  | tail _ hs ih =>
    cases hs with
    | ends he => exact hends _ _ he ih
    | drift hd => exact hdrift _ _ hd ih

/-- A weaker specification has more runs. -/
theorem Steps.mono {spec' : Spec σ ω χ ρ}
    (hspec : ∀ call r seen ws db, spec call r seen ws db → spec' call r seen ws db)
    (h : Steps S spec x y) : Steps S spec' x y := by
  induction h with
  | refl => exact .refl
  | tail _ hs ih =>
    refine ih.tail ?_
    cases hs with
    | @ends e he =>
      refine .ends ⟨he.before, he.seen, he.allowed, ?_⟩
      have hc := he.commits
      rw [Commits] at hc ⊢
      cases ho : e.outcome with
      | returned r => exact hspec _ _ _ _ _ (by simpa [ho] using hc)
      | threw err => simpa [ho] using hc
      | lost =>
        obtain ⟨r, hr⟩ : ∃ r, spec e.call r e.seen e.writes e.before := by simpa [ho] using hc
        exact ⟨r, hspec _ _ _ _ _ hr⟩
    | drift hd => exact .drift hd

/-- A relation that holds across each commit and each drift holds between any earlier committed
state and the current one. -/
theorem Steps.rel {R : σ → σ → Prop} (hrefl : ∀ db, R db db)
    (htrans : ∀ {a b c}, R a b → R b c → R a c)
    (hcommit : ∀ call r seen ws db, spec call r seen ws db → R db (S.applyAll ws db))
    (hdrift : ∀ db db', S.drift db db' → R db db') (h : Steps S spec x y) : R x.db y.db := by
  refine induction (P := fun y => R x.db y.db) (fun y e he hy => htrans hy ?_)
    (fun y db hd hy => htrans hy (hdrift _ _ hd)) h (hrefl _)
  rcases he.writes with hw | ⟨r, hr⟩
  · rw [State.db_after, hw]
    exact hrefl _
  · exact hcommit _ _ _ _ _ hr

/-- What was once committed remains in the past. -/
theorem Steps.past_subset (h : Steps S spec x y) : x.past ⊆ y.past :=
  induction (P := fun y => x.past ⊆ y.past) (fun _ _ _ hy => List.subset_cons_of_subset _ hy)
    (fun _ _ _ hy => List.subset_cons_of_subset _ hy) h (List.Subset.refl _)

/-- Every state that was ever committed stands in such a relation to the current one. -/
theorem Reachable.rel {R : σ → σ → Prop} (hrefl : ∀ db, R db db)
    (htrans : ∀ {a b c}, R a b → R b c → R a c)
    (hcommit : ∀ call r seen ws db, spec call r seen ws db → R db (S.applyAll ws db))
    (hdrift : ∀ db db', S.drift db db' → R db db') (h : Reachable S spec db₀ x) :
    ∀ db ∈ x.past, R db x.db := by
  have extend : ∀ {past : List σ} {db db' : σ}, R db db' → (∀ a ∈ past, R a db) →
      ∀ a ∈ db' :: past, R a db' := by
    intro past db db' hR hpast a ha
    rcases List.mem_cons.mp ha with rfl | ha
    · exact hrefl _
    · exact htrans (hpast a ha) hR
  refine induction (P := fun x => ∀ db ∈ x.past, R db x.db) (fun x e he hx => ?_)
    (fun x db hd hx => extend (hdrift _ _ hd) hx) h ?_
  · rcases he.writes with hw | ⟨r, hr⟩
    · rw [State.db_after, State.past_after, hw]
      exact extend (hrefl _) hx
    · exact extend (hcommit _ _ _ _ _ hr) hx
  · intro db hdb
    rw [List.mem_singleton.mp hdb]
    exact hrefl _

/-! ### Events in the history -/

/-- **Splitting a run at an event** of its history. -/
theorem Steps.split (l₁ : List (Event σ ω ε χ ρ)) {l₂ : List (Event σ ω ε χ ρ)} (h : Steps S spec x y)
    (hlog : y.log = x.log ++ l₁ ++ e :: l₂) :
    ∃ u, Steps S spec x u ∧ u.log = x.log ++ l₁ ∧ Ends S spec u e ∧
      Steps S spec (u.after S e) y := by
  induction h generalizing l₂ with
  | refl =>
    have hlen := congrArg List.length hlog
    simp only [List.length_append, List.length_cons] at hlen
    omega
  | @tail y z hsteps hs ih =>
    cases hs with
    | ends he' =>
      rw [State.log_after] at hlog
      rcases List.eq_nil_or_concat l₂ with rfl | ⟨l₃, e'', rfl⟩
      · obtain ⟨hy, rfl⟩ := List.append_singleton_inj.mp hlog
        exact ⟨y, hsteps, hy, he', .refl⟩
      · rw [List.concat_eq_append, ← List.cons_append, ← List.append_assoc] at hlog
        obtain ⟨hy, rfl⟩ := List.append_singleton_inj.mp hlog
        obtain ⟨u, hxu, hul, hue, huy⟩ := ih hy
        exact ⟨u, hxu, hul, hue, huy.tail (.ends he')⟩
    | drift hd =>
      obtain ⟨u, hxu, hul, hue, huy⟩ := ih hlog
      exact ⟨u, hxu, hul, hue, huy.tail (.drift hd)⟩

/-- Splitting a run from the start. -/
theorem Reachable.split {l₁ l₂ : List (Event σ ω ε χ ρ)} (h : Reachable S spec db₀ x)
    (hlog : x.log = l₁ ++ e :: l₂) :
    ∃ u, Reachable S spec db₀ u ∧ u.log = l₁ ∧ Ends S spec u e ∧
      Steps S spec (u.after S e) x := by
  obtain ⟨u, hu, hul, hue, hux⟩ := Steps.split l₁ h (by simpa using hlog)
  exact ⟨u, hu, by simpa using hul, hue, hux⟩

/-- Splitting a run at a member of the history. -/
theorem Reachable.split_mem (h : Reachable S spec db₀ x) (he : e ∈ x.log) :
    ∃ u, Reachable S spec db₀ u ∧ Ends S spec u e ∧ Steps S spec (u.after S e) x := by
  obtain ⟨l₁, l₂, hlog⟩ := List.append_of_mem he
  obtain ⟨u, hu, -, hue, hux⟩ := h.split hlog
  exact ⟨u, hu, hue, hux⟩

/-- Splitting a run at two events, the second later than the first. -/
theorem Reachable.split_two {l₁ l₂ : List (Event σ ω ε χ ρ)} (h : Reachable S spec db₀ x)
    (hlog : x.log = l₁ ++ e :: l₂) (hf : f ∈ l₂) :
    ∃ u v, Reachable S spec db₀ u ∧ u.log = l₁ ∧ Ends S spec u e ∧
      Steps S spec (u.after S e) v ∧ Ends S spec v f ∧ Steps S spec (v.after S f) x := by
  obtain ⟨u, hu, hul, hue, hux⟩ := h.split hlog
  obtain ⟨k₁, k₂, rfl⟩ := List.append_of_mem hf
  have hlog' : x.log = (u.after S e).log ++ k₁ ++ f :: k₂ := by
    rw [hlog, State.log_after, hul]
    simp
  obtain ⟨v, huv, -, hvf, hvx⟩ := Steps.split k₁ hux hlog'
  exact ⟨u, v, hu, hul, hue, huv, hvf, hvx⟩

end Serial

/-! ### Interleaved runs are serial runs -/

/-- The serial state of a configuration. -/
def Config.serial (c : Config σ ω κ υ ε χ ρ) : Serial.State σ ω ε χ ρ := ⟨c.db, c.log, c.past⟩

/-- What holds of one open transaction. -/
structure Txn.Good (S : System σ ω κ υ ε χ ρ) (spec : Spec σ ω χ ρ) (c : Config σ ω κ υ ε χ ρ)
    (x : Txn σ ω κ υ ε χ ρ) : Prop where
  /-- The rest of its program ends as specified. -/
  safe : wp S.toSchema x.prog (fun r s db => spec x.call r s.seen s.writes db) x.state c.db
  /-- Its writes are covered by its locks. -/
  covered : ∀ w ∈ x.state.writes, S.needs w ⊆ x.state.locks
  /-- Its snapshots were committed states. -/
  seen : x.state.seen ⊆ c.past
  /-- It was admitted. -/
  allowed : ∃ log₀, log₀ <+: c.log ∧ S.allows log₀ x.call

/-- What holds of every reachable configuration. -/
structure Config.Good (S : System σ ω κ υ ε χ ρ) (spec : Spec σ ω χ ρ)
    (c : Config σ ω κ υ ε χ ρ) : Prop where
  /-- Every open transaction is on its way to its specification. -/
  txns : ∀ t x, c.txns t = some x → x.Good S spec c
  /-- No two of them hold conflicting locks. -/
  apart : ∀ t u x y, t ≠ u → c.txns t = some x → c.txns u = some y →
    CompatibleSets x.state.locks y.state.locks
  /-- The committed state is in the history. -/
  current : c.db ∈ c.past

variable {S : System σ ω κ υ ε χ ρ} {spec : Spec σ ω χ ρ} {c : Config σ ω κ υ ε χ ρ} {t : ℕ}
  {x y : Txn σ ω κ υ ε χ ρ}

theorem Config.finish_txns {u : ℕ} {db : σ} {e : Event σ ω ε χ ρ}
    (h : (c.finish t db e).txns u = some y) : u ≠ t ∧ c.txns u = some y := by
  by_cases hu : u = t
  · subst hu; simp [Config.finish] at h
  · simpa [Config.finish, Function.update_of_ne hu, hu] using h

/-- Moving one transaction on keeps a configuration good, if the moved transaction is good and
took no lock that another one excludes. -/
theorem Config.Good.set (hc : c.Good S spec) (hx : x.Good S spec c)
    (hl : ∀ u y, u ≠ t → c.txns u = some y → CompatibleSets y.state.locks x.state.locks) :
    (c.set t x).Good S spec := by
  refine ⟨fun u y hy => ?_, fun u v y z huv hy hz => ?_, hc.current⟩
  · by_cases hu : u = t
    · subst hu
      rw [Config.set_txns_self, Option.some.injEq] at hy
      subst hy
      exact ⟨hx.safe, hx.covered, hx.seen, hx.allowed⟩
    · rw [Config.set_txns_of_ne hu] at hy
      have hg := hc.txns u y hy
      exact ⟨hg.safe, hg.covered, hg.seen, hg.allowed⟩
  · by_cases hu : u = t
    · subst hu
      rw [Config.set_txns_self, Option.some.injEq] at hy
      subst hy
      rw [Config.set_txns_of_ne huv.symm] at hz
      exact (hl v z huv.symm hz).symm
    · rw [Config.set_txns_of_ne hu] at hy
      by_cases hv : v = t
      · subst hv
        rw [Config.set_txns_self, Option.some.injEq] at hz
        subst hz
        exact hl u y hu hy
      · rw [Config.set_txns_of_ne hv] at hz
        exact hc.apart u v y z huv hy hz

/-- Moving one transaction on without a new lock. -/
theorem Config.Good.set_of_locks_eq (hc : c.Good S spec) (hy : c.txns t = some y)
    (hx : x.Good S spec c) (hl : x.state.locks = y.state.locks) : (c.set t x).Good S spec :=
  hc.set hx fun u z hu hz => hl ▸ hc.apart u t z y hu hz hy

/-- A change of the committed state that every remaining transaction tolerates keeps a
configuration good. -/
theorem Txn.Good.move {c' : Config σ ω κ υ ε χ ρ} (hx : x.Good S spec c)
    (hi : Interference S.toSchema x.state.locks c.db c'.db) (hp : c.past ⊆ c'.past)
    (hlog : c.log <+: c'.log) : x.Good S spec c' := by
  obtain ⟨log₀, hpre, ha⟩ := hx.allowed
  exact ⟨wp_interference hx.safe hi, hx.covered, List.Subset.trans hx.seen hp, log₀,
    hpre.trans hlog, ha⟩

theorem Config.Good.finish (hc : c.Good S spec) {db : σ} {e : Event σ ω ε χ ρ}
    (hi : ∀ u y, u ≠ t → c.txns u = some y →
      Interference S.toSchema y.state.locks c.db db) : (c.finish t db e).Good S spec := by
  refine ⟨fun u y hy => ?_, fun u v y z huv hy hz => ?_, List.mem_cons_self ..⟩
  · obtain ⟨hu, hy⟩ := Config.finish_txns hy
    exact (hc.txns u y hy).move (hi u y hu hy) (List.subset_cons_self _ _)
      (List.prefix_append _ _)
  · exact hc.apart u v y z huv (Config.finish_txns hy).2 (Config.finish_txns hz).2

theorem Config.Good.step (hS : Meets S spec) {c' : Config σ ω κ υ ε χ ρ} (hc : c.Good S spec)
    (h : Step S c c') : c'.Good S spec := by
  have commits : ∀ {t x}, c.txns t = some x → ∀ u y, u ≠ t → c.txns u = some y →
      Interference S.toSchema y.state.locks c.db (S.view x.state c.db) :=
    fun {t x} hx u y hu hy => Interference.of_commit (hc.txns t x hx).covered
      (hc.apart u t y x hu hy hx) _
  cases h with
  | start call hn ha =>
    exact hc.set ⟨hS call _, by simp, by simp, _, List.prefix_rfl, ha⟩
      fun u y _ _ => by simp [CompatibleSets]
  | read hx =>
    have hg := hc.txns _ _ hx
    refine hc.set_of_locks_eq hx ⟨hg.safe _ (Interference.refl _ _), hg.covered, ?_, hg.allowed⟩ rfl
    exact List.cons_subset.mpr ⟨hc.current, hg.seen⟩
  | lock hx hgr =>
    have hg := hc.txns _ _ hx
    refine hc.set ⟨hg.safe _ (Interference.refl _ _), fun w hw => ?_, hg.seen, hg.allowed⟩
      fun u y hu hy a ha b hb => ?_
    · exact List.Subset.trans (hg.covered w hw) (List.subset_cons_self _ _)
    · rcases List.mem_cons.mp hb with rfl | hb
      · exact hgr u y hu hy a ha _ (List.mem_singleton_self _)
      · exact hc.apart u _ y _ hu hy hx a ha b hb
  | tryHit hx hgr =>
    have hg := hc.txns _ _ hx
    refine hc.set ⟨(hg.safe _ (Interference.refl _ _)).1, fun w hw => ?_, hg.seen, hg.allowed⟩
      fun u y hu hy a ha b hb => ?_
    · exact List.Subset.trans (hg.covered w hw) (List.subset_cons_self _ _)
    · rcases List.mem_cons.mp hb with rfl | hb
      · exact hgr u y hu hy a ha _ (List.mem_singleton_self _)
      · exact hc.apart u _ y _ hu hy hx a ha b hb
  | tryMiss hx _ =>
    have hg := hc.txns _ _ hx
    exact hc.set_of_locks_eq hx
      ⟨(hg.safe _ (Interference.refl _ _)).2, hg.covered, hg.seen, hg.allowed⟩ rfl
  | write hx =>
    have hg := hc.txns _ _ hx
    refine hc.set_of_locks_eq hx ⟨hg.safe.2, fun w hw => ?_, hg.seen, hg.allowed⟩ rfl
    rcases List.mem_append.mp hw with hw | hw
    · exact hg.covered w hw
    · rw [List.mem_singleton.mp hw]
      exact hg.safe.1
  | draw v hx =>
    have hg := hc.txns _ _ hx
    exact hc.set_of_locks_eq hx ⟨hg.safe v, hg.covered, hg.seen, hg.allowed⟩ rfl
  | commit hx => exact hc.finish (commits hx)
  | lose hx => exact hc.finish (commits hx)
  | rollback e hx => exact hc.finish fun u y _ _ => Interference.refl _ _
  | drift hd =>
    refine ⟨fun u y hy => ?_, hc.apart, List.mem_cons_self ..⟩
    exact (hc.txns u y hy).move (Interference.of_drift hd) (List.subset_cons_self _ _)
      List.prefix_rfl

/-- What one interleaved step does, seen serially: nothing, or one whole call. -/
theorem Config.Good.serial_step (hc : c.Good S spec) {c' : Config σ ω κ υ ε χ ρ}
    (h : Step S c c') : c'.serial = c.serial ∨ Serial.Step S spec c.serial c'.serial := by
  have ended : ∀ {t x e}, c.txns t = some x → e.call = x.call → e.seen = x.state.seen →
      e.before = c.db → Serial.Commits spec e → Serial.Ends S spec c.serial e := by
    intro t x e hx hcall hseen hbefore hcommits
    have hg := hc.txns _ _ hx
    exact ⟨hbefore, hseen ▸ hg.seen, hcall ▸ hg.allowed, hcommits⟩
  cases h with
  | @commit t call r s hx =>
    have hspec := (hc.txns _ _ hx).safe _ (Interference.refl _ _)
    have he : Serial.Ends S spec c.serial ⟨call, .returned r, s.seen, c.db, s.writes⟩ :=
      ended hx rfl rfl rfl hspec
    exact Or.inr (.ends he)
  | @lose t call r s hx =>
    have hspec := (hc.txns _ _ hx).safe _ (Interference.refl _ _)
    have he : Serial.Ends S spec c.serial ⟨call, .lost, s.seen, c.db, s.writes⟩ :=
      ended hx rfl rfl rfl ⟨r, hspec⟩
    exact Or.inr (.ends he)
  | @rollback t call p s e hx =>
    have he : Serial.Ends S spec c.serial ⟨call, .threw e, s.seen, c.db, []⟩ :=
      ended hx rfl rfl rfl rfl
    exact Or.inr (.ends he)
  | drift hd => exact Or.inr (.drift hd)
  | _ => exact Or.inl rfl

theorem Config.good_initial (db : σ) : (Config.initial db : Config σ ω κ υ ε χ ρ).Good S spec :=
  ⟨by simp [Config.initial], by simp [Config.initial], List.mem_singleton_self _⟩

theorem Steps.good (hS : Meets S spec) {c' : Config σ ω κ υ ε χ ρ} (hc : c.Good S spec)
    (h : Steps S c c') : c'.Good S spec := by
  induction h with
  | refl => exact hc
  | tail _ hs ih => exact ih.step hS hs

/-- Any stretch of an interleaved run is a stretch of a serial run. -/
theorem Steps.serial (hS : Meets S spec) {c' : Config σ ω κ υ ε χ ρ} (hc : c.Good S spec)
    (h : Steps S c c') : Serial.Steps S spec c.serial c'.serial := by
  induction h with
  | refl => exact .refl
  | tail hpre hs ih =>
    rcases (Steps.good hS hc hpre).serial_step hs with heq | hstep
    · rwa [heq]
    · exact ih.tail hstep

theorem Reachable.good (hS : Meets S spec) {db₀ : σ} (h : Reachable S db₀ c) : c.Good S spec :=
  Steps.good hS (Config.good_initial db₀) h

/-- **Interleaved runs are serial runs.** If every program meets its specification under
interference, every reachable configuration has the committed state, the history and the past of a
run that executes one call at a time. -/
theorem Reachable.serial (hS : Meets S spec) {db₀ : σ} (h : Reachable S db₀ c) :
    Serial.Reachable S spec db₀ c.serial :=
  Steps.serial hS (Config.good_initial db₀) h

end ReadCommitted
