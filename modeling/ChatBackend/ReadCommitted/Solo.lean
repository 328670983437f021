import ChatBackend.ReadCommitted.Statements

/-!
# A transaction with nobody else around

`Prog.solo` executes a program against one committed state: every lock is granted and every
snapshot shows that state under the program's own writes. It says what a call does when no other
transaction is open, and it computes.

## Main results

* `Prog.solo_bind`, `solo_selectLocked` — the rules
* `Steps.returned` — a solo execution is a run: the call starts, goes through and commits
* `Steps.runCalls` — so is one call after another
* `Steps.runTicking` — also while time passes
-/

namespace ReadCommitted

variable {σ ω κ υ ε χ ρ α β ι γ : Type}

/-- Execute a program alone, from the given local state and with the given values to draw: its
result, its final local state, and the values that are left. There is no result if they run out. -/
def Prog.solo (S : Schema σ ω κ) (db : σ) :
    Prog σ ω κ υ ε α → Local σ ω κ → List υ → Option (Except ε α × Local σ ω κ × List υ)
  | .ret a, s, vs => some (.ok a, s, vs)
  | .throw e, s, vs => some (.error e, s, vs)
  | .read k, s, vs => (k (S.view s db)).solo S db (s.see db) vs
  | .lock key m k, s, vs => k.solo S db (s.hold key m) vs
  | .tryLock key m k, s, vs => (k true).solo S db (s.hold key m) vs
  | .write w k, s, vs => k.solo S db (s.put w) vs
  | .draw _, _, [] => none
  | .draw k, s, v :: vs => (k v).solo S db s vs

variable {S : Schema σ ω κ} {db : σ} {s : Local σ ω κ} {vs : List υ}

/-! ### Rules -/

theorem Prog.solo_bind (p : Prog σ ω κ υ ε α) (f : α → Prog σ ω κ υ ε β) :
    (p.bind f).solo S db s vs = (p.solo S db s vs).bind fun
      | (.ok a, s', vs') => (f a).solo S db s' vs'
      | (.error e, s', vs') => some (.error e, s', vs') := by
  induction p generalizing s vs with
  | ret a => rfl
  | throw e => rfl
  | read k ih => exact ih _
  | lock key m k ih => exact ih
  | tryLock key m k ih => exact ih _
  | write w k ih => exact ih
  | draw k ih =>
    cases vs with
    | nil => rfl
    | cons v vs => exact ih v

/-- A program that returns goes on with what it returned. -/
theorem Prog.solo_bind_of_ok {p : Prog σ ω κ υ ε α} {f : α → Prog σ ω κ υ ε β} {a : α}
    {s' : Local σ ω κ} {vs' : List υ} (h : p.solo S db s vs = some (.ok a, s', vs')) :
    (p.bind f).solo S db s vs = (f a).solo S db s' vs' := by
  rw [Prog.solo_bind, h]
  rfl

theorem solo_acquireAll (s : Local σ ω κ) (ls : List (κ × Mode)) :
    ∃ s', (acquireAll ls : Prog σ ω κ υ ε Unit).solo S db s vs = some (.ok (), s', vs) ∧
      s'.writes = s.writes := by
  induction ls generalizing s with
  | nil => exact ⟨s, rfl, rfl⟩
  | cons l ls ih => exact ih (s.hold l.1 l.2)

theorem solo_lockRows (s : Local σ ω κ) (locks : ι → List (κ × Mode)) (recheck : σ → ι → Option γ) (found : List ι) :
    ∃ s', (lockRows locks recheck found : Prog σ ω κ υ ε (List γ)).solo S db s vs =
      some (.ok (found.filterMap (recheck (S.applyAll s.writes db))), s', vs) ∧
      s'.writes = s.writes := by
  induction found generalizing s with
  | nil => exact ⟨s, rfl, rfl⟩
  | cons i is ih =>
    obtain ⟨s₁, h₁, hw₁⟩ := solo_acquireAll s (locks i)
    obtain ⟨s₂, h₂, hw₂⟩ := ih (s₁.see db)
    refine ⟨s₂, ?_, hw₂.trans hw₁⟩
    rw [lockRows, Prog.solo_bind_of_ok h₁, Prog.solo, Prog.solo_bind_of_ok h₂, Prog.solo,
      Local.writes_see, Schema.view, hw₁]
    cases hr : recheck (S.applyAll s.writes db) i <;> simp [hr]

/-- Alone, a locking statement returns the rows that its snapshot finds and its re-check keeps. -/
theorem solo_selectLocked (s : Local σ ω κ) (locks : ι → List (κ × Mode)) (find : σ → List ι)
    (recheck : σ → ι → Option γ) :
    ∃ s', (selectLocked locks find recheck : Prog σ ω κ υ ε (List γ)).solo S db s vs =
      some (.ok ((find (S.applyAll s.writes db)).filterMap (recheck (S.applyAll s.writes db))),
        s', vs) ∧ s'.writes = s.writes :=
  solo_lockRows (s.see db) locks recheck _

theorem solo_emitAll (s : Local σ ω κ) (ws : List ω) :
    ∃ s', (emitAll ws : Prog σ ω κ υ ε Unit).solo S db s vs = some (.ok (), s', vs) ∧
      s'.writes = s.writes ++ ws := by
  induction ws generalizing s with
  | nil => exact ⟨s, rfl, (List.append_nil _).symm⟩
  | cons w ws ih =>
    obtain ⟨s', h, hw⟩ := ih (s.put w)
    exact ⟨s', h, by rw [hw, Local.writes_put, List.append_assoc, List.singleton_append]⟩

/-- Alone, an update changes the rows that its snapshot finds and its re-check keeps. -/
theorem solo_updateWhere (s : Local σ ω κ) (locks : ι → List (κ × Mode)) (find : σ → List ι)
    (recheck : σ → ι → Option γ) (change : γ → ω) :
    ∃ s', (updateWhere locks find recheck change : Prog σ ω κ υ ε (List γ)).solo S db s vs =
      some (.ok ((find (S.applyAll s.writes db)).filterMap (recheck (S.applyAll s.writes db))),
        s', vs) ∧ s'.writes = s.writes ++
          ((find (S.applyAll s.writes db)).filterMap (recheck (S.applyAll s.writes db))).map change := by
  obtain ⟨s₁, h₁, hw₁⟩ : ∃ s₁, (selectLocked locks find recheck : Prog σ ω κ υ ε (List γ)).solo S db
    s vs = some (.ok _, s₁, vs) ∧ s₁.writes = s.writes := solo_selectLocked s locks find recheck
  obtain ⟨s₂, h₂, hw₂⟩ : ∃ s₂, (emitAll (((find (S.applyAll s.writes db)).filterMap
    (recheck (S.applyAll s.writes db))).map change) : Prog σ ω κ υ ε Unit).solo S db s₁ vs =
      some (.ok (), s₂, vs) ∧ s₂.writes = s₁.writes ++ _ := solo_emitAll s₁ _
  refine ⟨s₂, ?_, by rw [hw₂, hw₁]⟩
  rw [updateWhere, Prog.solo_bind_of_ok h₁, Prog.solo_bind_of_ok h₂]
  rfl

/-- Alone, an insertion violates a constraint or emits its row. -/
theorem solo_insertRow (s : Local σ ω κ) (keys : List κ) {violates : σ → Option ε}
    (h : violates (S.applyAll s.writes db) = none) (w : ω) :
    ∃ s', (insertRow keys violates w : Prog σ ω κ υ ε Unit).solo S db s vs = some (.ok (), s', vs) ∧
      s'.writes = s.writes ++ [w] := by
  obtain ⟨s₁, h₁, hw₁⟩ := solo_acquireAll s (keys.map fun key => (key, Mode.exclusive))
  refine ⟨(s₁.see db).put w, ?_, by rw [Local.writes_put, Local.writes_see, hw₁]⟩
  rw [insertRow, Prog.solo_bind_of_ok h₁, Prog.solo, Schema.view, hw₁, h]
  rfl

/-! ### Solo executions are runs -/

variable {S : System σ ω κ υ ε χ ρ} {c : Config σ ω κ υ ε χ ρ}

/-- No transaction is open. -/
def Config.Quiet (c : Config σ ω κ υ ε χ ρ) : Prop := ∀ t, c.txns t = none

/-- The configuration in which a call, having run alone, has committed and returned. -/
def Config.returned (S : System σ ω κ υ ε χ ρ) (c : Config σ ω κ υ ε χ ρ) (call : χ) (r : ρ)
    (s : Local σ ω κ) : Config σ ω κ υ ε χ ρ :=
  ⟨S.view s c.db, c.txns, c.log ++ [⟨call, .returned r, s.seen, c.db, s.writes⟩],
    S.view s c.db :: c.past⟩

/-- The steps of the only open transaction. -/
theorem Steps.solo {t : ℕ} (call : χ) {p : Prog σ ω κ υ ε ρ} {s s' : Local σ ω κ} {r : ρ}
    {vs vs' : List υ} (hothers : ∀ u, u ≠ t → c.txns u = none)
    (h : p.solo S.toSchema c.db s vs = some (.ok r, s', vs')) :
    Steps S (c.set t ⟨call, p, s⟩) (c.set t ⟨call, .ret r, s'⟩) := by
  have hself : ∀ x, (c.set t x).txns t = some x := fun x => by simp [Config.set]
  have hgrant : ∀ x key m, (c.set t x).Grantable t key m := by
    intro x key m u y hu hy
    rw [Config.set_txns_of_ne hu, hothers u hu] at hy
    cases hy
  induction p generalizing s vs with
  | ret a =>
    obtain ⟨rfl, rfl, -⟩ : a = r ∧ s = s' ∧ vs = vs' := by simpa [Prog.solo] using h
    exact .refl
  | throw e => simp [Prog.solo] at h
  | read k ih =>
    have hstep := Step.read (S := S) (hself ⟨call, .read k, s⟩)
    rw [Config.set_set] at hstep
    exact (ih _ h).head hstep
  | lock key m k ih =>
    have hstep := Step.lock (S := S) (hself ⟨call, .lock key m k, s⟩) (hgrant _ _ _)
    rw [Config.set_set] at hstep
    exact (ih h).head hstep
  | tryLock key m k ih =>
    have hstep := Step.tryHit (S := S) (hself ⟨call, .tryLock key m k, s⟩) (hgrant _ _ _)
    rw [Config.set_set] at hstep
    exact (ih _ h).head hstep
  | write w k ih =>
    have hstep := Step.write (S := S) (hself ⟨call, .write w k, s⟩)
    rw [Config.set_set] at hstep
    exact (ih h).head hstep
  | draw k ih =>
    cases vs with
    | nil => simp [Prog.solo] at h
    | cons v vs =>
      have hstep := Step.draw (S := S) v (hself ⟨call, .draw k, s⟩)
      rw [Config.set_set] at hstep
      exact (ih v h).head hstep

/-- **A solo execution** of a call that has begun goes through and commits. -/
theorem Steps.commits {call : χ} {s : Local σ ω κ} {r : ρ} {vs vs' : List υ} (hc : c.Quiet)
    (h : (S.body call).solo S.toSchema c.db {} vs = some (.ok r, s, vs')) :
    Steps S (c.set 0 ⟨call, S.body call, {}⟩) (c.returned S call r s) := by
  have hrun : Steps S _ (c.set 0 ⟨call, .ret r, s⟩) := Steps.solo call (fun u _ => hc u) h
  have hend := Step.commit (S := S) (Config.set_txns_self (c := c) (t := 0) (x := ⟨call, .ret r, s⟩))
  have hclosed : Function.update (Function.update c.txns 0 (some ⟨call, .ret r, s⟩)) 0 none =
      c.txns := by
    rw [Function.update_idem, ← hc 0, Function.update_eq_self]
  refine hrun.tail ?_
  rw [Config.returned, ← hclosed]
  exact hend

/-- **A solo execution is a run.** -/
theorem Steps.returned {call : χ} {s : Local σ ω κ} {r : ρ} {vs vs' : List υ} (hc : c.Quiet)
    (ha : S.allows c.log call)
    (h : (S.body call).solo S.toSchema c.db {} vs = some (.ok r, s, vs')) :
    Steps S c (c.returned S call r s) :=
  (Steps.commits hc h).head (.start call (hc 0) ha)

theorem Config.Quiet.returned {call : χ} {r : ρ} {s : Local σ ω κ} (hc : c.Quiet) :
    (c.returned S call r s).Quiet := hc

/-- Calls one after another, each running alone with the given values to draw. -/
def Config.runCalls (S : System σ ω κ υ ε χ ρ) :
    Config σ ω κ υ ε χ ρ → List (χ × List υ) → Option (Config σ ω κ υ ε χ ρ)
  | c, [] => some c
  | c, (call, vs) :: calls =>
    match (S.body call).solo S.toSchema c.db {} vs with
    | some (.ok r, s, _) => (c.returned S call r s).runCalls S calls
    | _ => none

theorem Config.Quiet.runCalls {calls : List (χ × List υ)} {c' : Config σ ω κ υ ε χ ρ} (hc : c.Quiet)
    (h : c.runCalls S calls = some c') : c'.Quiet := by
  induction calls generalizing c with
  | nil =>
    obtain rfl : c = c' := by simpa [Config.runCalls] using h
    exact hc
  | cons call calls ih =>
    rw [Config.runCalls] at h
    split at h
    · exact ih hc.returned h
    · cases h

/-- **Calls one after another are a run.** -/
theorem Steps.runCalls {calls : List (χ × List υ)} {c' : Config σ ω κ υ ε χ ρ}
    (ha : ∀ x ∈ calls, ∀ log, S.allows log x.1) (hc : c.Quiet) (h : c.runCalls S calls = some c') :
    Steps S c c' := by
  induction calls generalizing c with
  | nil =>
    obtain rfl : c = c' := by simpa [Config.runCalls] using h
    exact .refl
  | cons call calls ih =>
    obtain ⟨call, vs⟩ := call
    rw [Config.runCalls] at h
    split at h
    · next r s vs' hsolo =>
      exact (Steps.returned hc (ha _ (List.mem_cons_self ..) _) hsolo).trans
        (ih (fun x hx => ha x (List.mem_cons_of_mem _ hx)) hc.returned h)
    · cases h

/-- A test that calls one after another pass is passed by a reachable configuration. -/
theorem Reachable.of_runCalls (S : System σ ω κ υ ε χ ρ) (db₀ : σ) (calls : List (χ × List υ))
    (test : Config σ ω κ υ ε χ ρ → Bool) (ha : ∀ x ∈ calls, ∀ log, S.allows log x.1)
    (h : ((Config.initial db₀).runCalls S calls).any test) :
    ∃ c, Reachable S db₀ c ∧ c.Quiet ∧ test c := by
  obtain ⟨c, hc, ht⟩ := Option.any_eq_true _ _ |>.mp h
  exact ⟨c, Steps.runCalls ha (fun _ => rfl) hc, Config.Quiet.runCalls (fun _ => rfl) hc, ht⟩

/-- The same in two stages: calls that run, and others that run after them. -/
theorem Reachable.of_runCalls_twice (S : System σ ω κ υ ε χ ρ) (db₀ : σ)
    (calls calls' : List (χ × List υ)) (test : Config σ ω κ υ ε χ ρ → Config σ ω κ υ ε χ ρ → Bool)
    (ha : ∀ call log, S.allows log call)
    (h : ((Config.initial db₀).runCalls S calls).any fun c => (c.runCalls S calls').any (test c)) :
    ∃ c c', Reachable S db₀ c ∧ c.Quiet ∧ Steps S c c' ∧ test c c' := by
  obtain ⟨c, hc, hquiet, hruns⟩ := Reachable.of_runCalls S db₀ calls
    (fun c => (c.runCalls S calls').any (test c)) (fun x _ => ha x.1) h
  obtain ⟨c', hc', ht⟩ := Option.any_eq_true _ _ |>.mp hruns
  exact ⟨c, c', hc, hquiet, Steps.runCalls (fun x _ => ha x.1) hquiet hc', ht⟩

/-! ### Alone, while time passes -/

/-- Execute a program alone as `Prog.solo` does, but with something happening before each snapshot:
the committed state goes from `db` to `next db`. -/
def Prog.ticking (S : Schema σ ω κ) (next : σ → σ) :
    Prog σ ω κ υ ε α → σ → Local σ ω κ → List υ → Option (Except ε α × σ × Local σ ω κ)
  | .ret a, db, s, _ => some (.ok a, db, s)
  | .throw e, db, s, _ => some (.error e, db, s)
  | .read k, db, s, vs => (k (S.view s (next db))).ticking S next (next db) (s.see (next db)) vs
  | .lock key m k, db, s, vs => k.ticking S next db (s.hold key m) vs
  | .tryLock key m k, db, s, vs => (k true).ticking S next db (s.hold key m) vs
  | .write w k, db, s, vs => k.ticking S next db (s.put w) vs
  | .draw _, _, _, [] => none
  | .draw k, db, s, v :: vs => (k v).ticking S next db s vs

/-- The steps of the only open transaction, and those of time. -/
theorem Steps.ticking {next : σ → σ} (hnext : ∀ db, S.drift db (next db)) {t : ℕ} (call : χ)
    {p : Prog σ ω κ υ ε ρ} {s s' : Local σ ω κ} {r : ρ} {vs : List υ} {db' : σ}
    (hothers : ∀ u, u ≠ t → c.txns u = none)
    (h : p.ticking S.toSchema next c.db s vs = some (.ok r, db', s')) :
    ∃ past, Steps S (c.set t ⟨call, p, s⟩)
      (({ c with db := db', past := past } : Config σ ω κ υ ε χ ρ).set t ⟨call, .ret r, s'⟩) := by
  have hself : ∀ (c : Config σ ω κ υ ε χ ρ) x, (c.set t x).txns t = some x :=
    fun c x => by simp [Config.set]
  have hgrant : ∀ (c : Config σ ω κ υ ε χ ρ) x key m, (∀ u, u ≠ t → c.txns u = none) →
      (c.set t x).Grantable t key m := by
    intro c x key m hc u y hu hy
    rw [Config.set_txns_of_ne hu, hc u hu] at hy
    cases hy
  induction p generalizing c s vs with
  | ret a =>
    obtain ⟨rfl, rfl, rfl⟩ : a = r ∧ c.db = db' ∧ s = s' := by simpa [Prog.ticking] using h
    exact ⟨c.past, .refl⟩
  | throw e => simp [Prog.ticking] at h
  | read k ih =>
    -- time passes, and then the snapshot is taken
    let later : Config σ ω κ υ ε χ ρ := { c with db := next c.db, past := next c.db :: c.past }
    have htick : Step S (c.set t ⟨call, .read k, s⟩) (later.set t ⟨call, .read k, s⟩) :=
      .drift (hnext c.db)
    have hread := Step.read (S := S) (hself later ⟨call, .read k, s⟩)
    rw [Config.set_set] at hread
    obtain ⟨past, hsteps⟩ := @ih _ later _ _ hothers h
    exact ⟨past, (hsteps.head hread).head htick⟩
  | lock key m k ih =>
    have hstep := Step.lock (S := S) (hself c ⟨call, .lock key m k, s⟩) (hgrant c _ _ _ hothers)
    rw [Config.set_set] at hstep
    obtain ⟨past, hsteps⟩ := ih hothers h
    exact ⟨past, hsteps.head hstep⟩
  | tryLock key m k ih =>
    have hstep := Step.tryHit (S := S) (hself c ⟨call, .tryLock key m k, s⟩) (hgrant c _ _ _ hothers)
    rw [Config.set_set] at hstep
    obtain ⟨past, hsteps⟩ := ih true hothers h
    exact ⟨past, hsteps.head hstep⟩
  | write w k ih =>
    have hstep := Step.write (S := S) (hself c ⟨call, .write w k, s⟩)
    rw [Config.set_set] at hstep
    obtain ⟨past, hsteps⟩ := ih hothers h
    exact ⟨past, hsteps.head hstep⟩
  | draw k ih =>
    cases vs with
    | nil => simp [Prog.ticking] at h
    | cons v vs =>
      have hstep := Step.draw (S := S) v (hself c ⟨call, .draw k, s⟩)
      rw [Config.set_set] at hstep
      obtain ⟨past, hsteps⟩ := ih v hothers h
      exact ⟨past, hsteps.head hstep⟩

/-- Calls one after another while time passes: the state they leave committed, and their events. -/
def runTicking (S : System σ ω κ υ ε χ ρ) (next : σ → σ) :
    σ → List (χ × List υ) → Option (σ × List (Event σ ω ε χ ρ))
  | db, [] => some (db, [])
  | db, (call, vs) :: calls =>
    match (S.body call).ticking S.toSchema next db {} vs with
    | some (.ok r, db', s) =>
      (runTicking S next (S.view s db') calls).map fun x =>
        (x.1, ⟨call, .returned r, s.seen, db', s.writes⟩ :: x.2)
    | _ => none

/-- When the only open transaction ends, nothing is open. -/
theorem Config.quiet_finish {t : ℕ} {db : σ} {e : Event σ ω ε χ ρ}
    (h : ∀ u, u ≠ t → c.txns u = none) : (c.finish t db e).Quiet := by
  intro u
  show Function.update c.txns t none u = none
  by_cases hu : u = t
  · rw [hu, Function.update_self]
  · rw [Function.update_of_ne hu, h u hu]

/-- **Such calls are a run.** -/
theorem Steps.runTicking {next : σ → σ} (hnext : ∀ db, S.drift db (next db))
    (ha : ∀ call log, S.allows log call) {calls : List (χ × List υ)} {db : σ}
    {events : List (Event σ ω ε χ ρ)} (hc : c.Quiet)
    (h : ReadCommitted.runTicking S next c.db calls = some (db, events)) :
    ∃ c' : Config σ ω κ υ ε χ ρ, Steps S c c' ∧ c'.Quiet ∧ c'.db = db ∧ c'.log = c.log ++ events := by
  induction calls generalizing c events with
  | nil =>
    obtain ⟨rfl, rfl⟩ : c.db = db ∧ [] = events := by simpa [ReadCommitted.runTicking] using h
    exact ⟨c, .refl, hc, rfl, (List.append_nil _).symm⟩
  | cons call calls ih =>
    obtain ⟨call, vs⟩ := call
    rw [ReadCommitted.runTicking] at h
    split at h
    · next r db' s hrun =>
      obtain ⟨⟨db'', rest⟩, hrest, hsame⟩ := Option.map_eq_some_iff.mp h
      obtain ⟨rfl, rfl⟩ := Prod.mk.inj hsame
      have hstart : Step S c (c.set 0 ⟨call, S.body call, {}⟩) := .start call (hc 0) (ha _ _)
      obtain ⟨past, hsteps⟩ := Steps.ticking (t := 0) hnext call (fun u _ => hc u) hrun
      have hlast : (Config.set { c with db := db', past := past } 0 ⟨call, .ret r, s⟩).txns 0 =
          some ⟨call, .ret r, s⟩ := Config.set_txns_self
      have hend := Step.commit (S := S) hlast
      have hquiet : ((Config.set { c with db := db', past := past } 0 ⟨call, .ret r, s⟩).finish 0
          (S.view s db') ⟨call, .returned r, s.seen, db', s.writes⟩).Quiet :=
        Config.quiet_finish fun u hu => (Config.set_txns_of_ne hu).trans (hc u)
      obtain ⟨c', hrun', hquiet', hdb, hlog⟩ := ih hquiet hrest
      refine ⟨c', ((hsteps.head hstart).tail hend).trans hrun', hquiet', hdb, ?_⟩
      rw [hlog, Config.finish, Config.log_set, List.append_assoc]
      rfl
    · cases h

/-- A test of their events that such calls pass is passed by a reachable configuration. -/
theorem Reachable.of_runTicking (S : System σ ω κ υ ε χ ρ) (db₀ : σ) {next : σ → σ}
    (hnext : ∀ db, S.drift db (next db)) (calls : List (χ × List υ))
    (test : List (Event σ ω ε χ ρ) → Bool) (ha : ∀ call log, S.allows log call)
    (h : (ReadCommitted.runTicking S next db₀ calls).any fun x => test x.2) :
    ∃ c, Reachable S db₀ c ∧ test c.log := by
  obtain ⟨⟨db, events⟩, hrun, ht⟩ := Option.any_eq_true _ _ |>.mp h
  obtain ⟨c, hc, -, -, hlog⟩ := Steps.runTicking (c := .initial db₀) hnext ha (fun _ => rfl) hrun
  exact ⟨c, hc, by rw [hlog]; exact ht⟩

end ReadCommitted
