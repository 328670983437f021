import Mathlib.Order.Basic
import ChatBackend.ReadCommitted.Emits

/-!
# What a program writes, and when

Where the committed state has a clock that nothing but drift puts forward, a program knows what time
it is from the snapshots that it reads, and what it dates by one of them is not dated later than its
commit. `EmitsBy W` says that every write of a program satisfies `W` at the time of the last snapshot
before it; if time only makes `W` weaker, every write satisfies `W` at the time of the commit.

## Main definitions

* `Ticks` — a clock
* `EmitsBy`

## Main results

* `wp_emitsBy` — the writes of a transaction satisfy `W` when it commits
-/

namespace ReadCommitted

variable {σ ω κ υ ε α β T : Type} [Preorder T] {clock : σ → T} {W : T → ω → Prop} {S : Schema σ ω κ}

/-- **A clock**: only drift puts it forward, and nothing puts it back. -/
structure Ticks (S : Schema σ ω κ) (clock : σ → T) : Prop where
  apply : ∀ w db, clock (S.apply w db) = clock db
  drift : ∀ db db', S.drift db db' → clock db ≤ clock db'

namespace Ticks

theorem applyAll (h : Ticks S clock) (ws : List ω) (db : σ) :
    clock (S.applyAll ws db) = clock db :=
  S.applyAll_induct (P := fun x => clock x = clock db) (fun w _ x hx => (h.apply w x).trans hx) rfl

theorem interference (h : Ticks S clock) {locks : List (κ × Mode)} {db db' : σ}
    (hi : Interference S locks db db') : clock db ≤ clock db' := by
  refine hi.preserves (P := fun x => clock db ≤ clock x) (fun w _ x hx => ?_)
    (fun x y hd hx => hx.trans (h.drift x y hd)) le_rfl
  rw [h.apply]
  exact hx

end Ticks

/-- Every write of the program satisfies `W` at the time of the last snapshot before it, or at the
time that is given if there is none. -/
def EmitsBy (clock : σ → T) (W : T → ω → Prop) : Prog σ ω κ υ ε α → T → Prop
  | .ret _, _ => True
  | .throw _, _ => True
  | .read k, time => ∀ db, time ≤ clock db → EmitsBy clock W (k db) (clock db)
  | .lock _ _ k, time => EmitsBy clock W k time
  | .tryLock _ _ k, time => ∀ got, EmitsBy clock W (k got) time
  | .write w k, time => W time w ∧ EmitsBy clock W k time
  | .draw k, time => ∀ v, EmitsBy clock W (k v) time

/-- A write that satisfies `W` at any time. -/
theorem Emits.emitsBy {p : Prog σ ω κ υ ε α} (h : Emits (fun w => ∀ time, W time w) p) (time : T) :
    EmitsBy clock W p time := by
  induction p generalizing time with
  | ret a => trivial
  | throw e => trivial
  | read k ih => exact fun db _ => ih db (h db) _
  | lock key m k ih => exact ih h time
  | tryLock key m k ih => exact fun got => ih got (h got) time
  | write w k ih => exact ⟨h.1 time, ih h.2 time⟩
  | draw k ih => exact fun v => ih v (h v) time

theorem EmitsBy.bind {p : Prog σ ω κ υ ε α} {f : α → Prog σ ω κ υ ε β} {time : T}
    (hp : EmitsBy clock W p time) (hf : ∀ a later, time ≤ later → EmitsBy clock W (f a) later) :
    EmitsBy clock W (p.bind f) time := by
  induction p generalizing time with
  | ret a => exact hf a time le_rfl
  | throw e => trivial
  | read k ih =>
    intro db hle
    exact ih db (hp db hle) fun a later hlater => hf a later (hle.trans hlater)
  | lock key m k ih => exact ih hp hf
  | tryLock key m k ih => exact fun got => ih got (hp got) hf
  | write w k ih => exact ⟨hp.1, ih hp.2 hf⟩
  | draw k ih => exact fun v => ih v (hp v) hf

theorem emitsBy_insertRow {keys : List κ} {violates : σ → Option ε} {w : ω} {time : T}
    (h : ∀ later, time ≤ later → W later w) :
    EmitsBy clock W (insertRow keys violates w : Prog σ ω κ υ ε Unit) time := by
  refine ((emits_acquireAll _).emitsBy _).bind fun _ later hlater db hdb => ?_
  beta_reduce
  cases violates db with
  | some e => trivial
  | none => exact ⟨h _ (hlater.trans hdb), trivial⟩

/-- **The writes of a transaction, at the time of its commit.** -/
theorem wp_emitsBy (hclock : Ticks S clock)
    (hmono : ∀ {time later : T} {w : ω}, time ≤ later → W time w → W later w)
    {p : Prog σ ω κ υ ε α} {Q : α → Local σ ω κ → σ → Prop} {s : Local σ ω κ} {db : σ} {time : T}
    (h : wp S p Q s db) (hp : EmitsBy clock W p time) (htime : time ≤ clock db)
    (hs : ∀ w ∈ s.writes, W time w) :
    wp S p (fun a s' db' => Q a s' db' ∧ ∀ w ∈ s'.writes, W (clock db') w) s db := by
  induction p generalizing s db time with
  | ret a =>
    intro db' hi
    exact ⟨h db' hi, fun w hw => hmono (htime.trans (hclock.interference hi)) (hs w hw)⟩
  | throw e => trivial
  | read k ih =>
    intro db' hi
    -- The program sees its own writes, too, which have no effect on the clock.
    have hview : clock (S.view s db') = clock db' := hclock.applyAll s.writes db'
    have hlater : time ≤ clock (S.view s db') := by
      rw [hview]
      exact htime.trans (hclock.interference hi)
    exact ih _ (h db' hi) (hp _ hlater) hview.le fun w hw => hmono hlater (hs w hw)
  | lock key m k ih =>
    exact fun db' hi => ih (h db' hi) hp (htime.trans (hclock.interference hi)) hs
  | tryLock key m k ih =>
    intro db' hi
    have hlater := htime.trans (hclock.interference hi)
    exact ⟨ih _ (h db' hi).1 (hp _) hlater hs, ih _ (h db' hi).2 (hp _) hlater hs⟩
  | write w k ih =>
    refine ⟨h.1, ih h.2 hp.2 htime fun v hv => ?_⟩
    rw [Local.writes_put] at hv
    rcases List.mem_append.mp hv with hv | hv
    · exact hs v hv
    · rw [List.mem_singleton.mp hv]
      exact hp.1
  | draw k ih => exact fun v => ih v (h v) (hp v) htime hs

end ReadCommitted
