import ChatBackend.ReadCommitted.Serial
import ChatBackend.ReadCommitted.Solo

/-!
# What a transaction reads, and when

The states that a program reads are recorded in the order in which it reads them, so their places
say which statement read which. And a call that starts after a configuration was reached reads
nothing but states that were committed then or later.

## Main definitions

* `Since` — a state that is committed in or after a configuration
* `BegunSince` — a call that has begun since

## Main results

* `wp_updateWhere_reads` — the rule for an update, with its snapshot in its place
* `Steps.seen_since` — a later call reads later states
-/

namespace ReadCommitted

variable {σ ω κ υ ε χ ρ α : Type}

variable {ι γ : Type} {S : Schema σ ω κ} {locks : ι → List (κ × Mode)} {recheck : σ → ι → Option γ}
  {Q : List γ → Local σ ω κ → σ → Prop} {s : Local σ ω κ} {db : σ}

/-- Row locks, with the states of the re-checks last. -/
theorem wp_lockRows_reads {found : List ι}
    (hstable : ∀ i ∈ found, ∀ held db₁ db₂, locks i ⊆ held → s.locks ⊆ held →
      Interference S held db₁ db₂ →
      recheck (S.applyAll s.writes db₂) i = recheck (S.applyAll s.writes db₁) i)
    (hQ : ∀ s' db', s'.writes = s.writes → s.seen <:+ s'.seen → s.locks ⊆ s'.locks →
      (∀ i ∈ found, locks i ⊆ s'.locks) → Interference S s.locks db db' →
      Q (found.filterMap (recheck (S.applyAll s.writes db'))) s' db') :
    wp S (lockRows locks recheck found : Prog σ ω κ υ ε (List γ)) Q s db := by
  refine wp_mono ?_ (wp_seen (wp_lockRows (Q := fun rows s' db' => s'.writes = s.writes ∧
    s.locks ⊆ s'.locks ∧ (∀ i ∈ found, locks i ⊆ s'.locks) ∧ Interference S s.locks db db' ∧
    rows = found.filterMap (recheck (S.applyAll s.writes db'))) hstable
    fun s' db' hw _ hl hls hi => ⟨hw, hl, hls, hi, rfl⟩))
  rintro rows s' db' ⟨⟨hw, hl, hls, hi, rfl⟩, hseen⟩
  exact hQ s' db' hw hseen hl hls hi

/-- **An update**, with its snapshot in the place where it was read. -/
theorem wp_updateWhere_reads {find : σ → List ι} {change : γ → ω}
    (hstable : ∀ i held db₁ db₂, locks i ⊆ held → s.locks ⊆ held → Interference S held db₁ db₂ →
      recheck (S.applyAll s.writes db₂) i = recheck (S.applyAll s.writes db₁) i)
    (hneeds : ∀ i db r, recheck db i = some r → S.needs (change r) ⊆ locks i ++ s.locks)
    (hQ : ∀ s' snapshot db' rows, s'.writes = s.writes ++ rows.map change →
      (snapshot :: s.seen) <:+ s'.seen → s.locks ⊆ s'.locks → Interference S s.locks db snapshot →
      Interference S s.locks snapshot db' →
      (∀ later, Interference S s'.locks db' later →
        rows = (find (S.applyAll s.writes snapshot)).filterMap
          (recheck (S.applyAll s.writes later))) → Q rows s' db') :
    wp S (updateWhere locks find recheck change : Prog σ ω κ υ ε (List γ)) Q s db := by
  refine wp_bind (wp_read fun snapshot h₁ => wp_lockRows_reads
    (fun i _ held a b hl hsub hi => hstable i held a b hl hsub hi)
    fun s₂ db₂ hw₂ hs₂ hl₂ hls₂ h₂ => ?_)
  refine wp_bind (wp_emitAll ?_ fun db₃ h₃ => wp_ret fun db₄ h₄ => ?_)
  · intro w hw
    obtain ⟨r, hr, rfl⟩ := List.mem_map.mp hw
    obtain ⟨i, hi, hri⟩ := List.mem_filterMap.mp hr
    exact List.Subset.trans (hneeds i _ r hri) (List.append_subset.mpr ⟨hls₂ i hi, hl₂⟩)
  · have h₂₄ : Interference S s₂.locks db₂ db₄ := h₃.trans h₄
    refine hQ _ snapshot db₄ _ (congrArg (· ++ _) hw₂) hs₂ hl₂ h₁ (h₂.trans (h₂₄.mono hl₂))
      fun later hlater => ?_
    -- the found rows are locked, so their re-checks no longer change
    exact List.filterMap_congr fun i hfound =>
      (hstable i s₂.locks _ _ (hls₂ i hfound) hl₂ (h₂₄.trans hlater)).symm

/-! ### Later calls -/

/-- The state is committed in `c` or in a configuration reached from it. -/
def Since (S : System σ ω κ υ ε χ ρ) (c : Config σ ω κ υ ε χ ρ) (v : σ) : Prop :=
  ∃ d, Steps S c d ∧ d.db = v

/-- Some transaction open in `c` serves the call. -/
def Config.Serves (c : Config σ ω κ υ ε χ ρ) (call : χ) : Prop :=
  ∃ t x, c.txns t = some x ∧ x.call = call

variable {S : System σ ω κ υ ε χ ρ} {c c' : Config σ ω κ υ ε χ ρ}

/-- Where nothing is open no call is served. -/
theorem Config.Quiet.not_serves (h : c.Quiet) (call : χ) : ¬ c.Serves call := by
  rintro ⟨t, x, hx, -⟩
  rw [h t] at hx
  cases hx

/-- What holds of a run from `c`: whatever serves a call that nothing served in `c` has read only
states committed since. -/
structure ReadsSince (S : System σ ω κ υ ε χ ρ) (c c' : Config σ ω κ υ ε χ ρ) : Prop where
  txns : ∀ t x, c'.txns t = some x → ¬ c.Serves x.call → ∀ v ∈ x.state.seen, Since S c v
  log : ∃ events, c'.log = c.log ++ events ∧ ∀ e ∈ events, ¬ c.Serves e.call →
    Since S c e.before ∧ ∀ v ∈ e.seen, Since S c v

/-- Moving one transaction on. -/
theorem ReadsSince.set (h : ReadsSince S c c') {t : ℕ} {x : Txn σ ω κ υ ε χ ρ}
    (hx : ¬ c.Serves x.call → ∀ v ∈ x.state.seen, Since S c v) : ReadsSince S c (c'.set t x) := by
  refine ⟨fun u y hy => ?_, h.log⟩
  by_cases hu : u = t
  · subst hu
    rw [Config.set_txns_self, Option.some.injEq] at hy
    exact hy ▸ hx
  · rw [Config.set_txns_of_ne hu] at hy
    exact h.txns u y hy

/-- Ending one transaction. -/
theorem ReadsSince.finish (h : ReadsSince S c c') {t : ℕ} {db : σ} {e : Event σ ω ε χ ρ}
    (he : ¬ c.Serves e.call → Since S c e.before ∧ ∀ v ∈ e.seen, Since S c v) :
    ReadsSince S c (c'.finish t db e) := by
  refine ⟨fun u y hy => h.txns u y (Config.finish_txns hy).2, ?_⟩
  obtain ⟨events, hlog, hevents⟩ := h.log
  refine ⟨events ++ [e], ?_, fun f hf => ?_⟩
  · rw [Config.finish, hlog, List.append_assoc]
  · rcases List.mem_append.mp hf with hf | hf
    · exact hevents f hf
    · obtain rfl := List.mem_singleton.mp hf
      exact he

/-- **The step.** -/
theorem ReadsSince.step {c'' : Config σ ω κ υ ε χ ρ} (hsteps : Steps S c c')
    (h : ReadsSince S c c') (hstep : Step S c' c'') : ReadsSince S c c'' := by
  have hnow : Since S c c'.db := ⟨c', hsteps, rfl⟩
  cases hstep with
  | start call hn ha => exact h.set fun _ v hv => by cases hv
  | read hx => exact h.set fun hc => List.forall_mem_cons.mpr ⟨hnow, h.txns _ _ hx hc⟩
  | lock hx hg => exact h.set fun hc v hv => h.txns _ _ hx hc v hv
  | tryHit hx hg => exact h.set fun hc v hv => h.txns _ _ hx hc v hv
  | tryMiss hx hg => exact h.set fun hc v hv => h.txns _ _ hx hc v hv
  | write hx => exact h.set fun hc v hv => h.txns _ _ hx hc v hv
  | draw _ hx => exact h.set fun hc v hv => h.txns _ _ hx hc v hv
  | commit hx => exact h.finish fun hc => ⟨hnow, h.txns _ _ hx hc⟩
  | lose hx => exact h.finish fun hc => ⟨hnow, h.txns _ _ hx hc⟩
  | rollback e hx => exact h.finish fun hc => ⟨hnow, h.txns _ _ hx hc⟩
  | drift hd => exact ⟨h.txns, h.log⟩

/-- A call that ends after `c` **has begun since**: nothing open in `c` serves it, or whatever it has
read was committed since. -/
def BegunSince (S : System σ ω κ υ ε χ ρ) (c : Config σ ω κ υ ε χ ρ) (e : Event σ ω ε χ ρ) : Prop :=
  ¬ c.Serves e.call ∨ Since S c e.before ∧ ∀ v ∈ e.seen, Since S c v

/-- **A later call reads later states.** -/
theorem Steps.seen_since (h : Steps S c c') : ReadsSince S c c' := by
  induction h with
  | refl => exact ⟨fun t x hx hc => absurd ⟨t, x, hx, rfl⟩ hc, [], by simp, by simp⟩
  | tail hsteps hstep ih => exact ih.step hsteps hstep

/-- So whatever has begun since has read states committed since. -/
theorem Steps.begunSince (h : Steps S c c') {e : Event σ ω ε χ ρ}
    (he : e ∈ c'.log.drop c.log.length) (hbegun : BegunSince S c e) :
    Since S c e.before ∧ ∀ v ∈ e.seen, Since S c v := by
  rcases hbegun with hfree | hsince
  · obtain ⟨events, hlog, hevents⟩ := h.seen_since.log
    rw [hlog, List.drop_left] at he
    exact hevents e he hfree
  · exact hsince

end ReadCommitted
