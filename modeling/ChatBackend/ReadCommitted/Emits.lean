import ChatBackend.ReadCommitted.Statements

/-!
# What a program writes and throws

`Emits W` says that every write of a program satisfies `W`, whatever the program reads, draws or is
refused, and `Throws E` says the same of its errors. Both are checked along the program, without
regard to locks or to what other transactions do, and `wp_emits` adds the first to whatever else is
known of the program.

## Main definitions

* `Emits`, `Throws`

## Main results

* `wp_emits` — the writes of a transaction satisfy `W`
* `Emits.bind`, `Throws.bind`, and a rule for each statement
-/

namespace ReadCommitted

variable {σ ω κ υ ε α β ι γ : Type} {W : ω → Prop} {E : ε → Prop}

/-- Every write of the program satisfies `W`. -/
def Emits (W : ω → Prop) : Prog σ ω κ υ ε α → Prop
  | .ret _ => True
  | .throw _ => True
  | .read k => ∀ db, Emits W (k db)
  | .lock _ _ k => Emits W k
  | .tryLock _ _ k => ∀ got, Emits W (k got)
  | .write w k => W w ∧ Emits W k
  | .draw k => ∀ v, Emits W (k v)

@[simp] theorem emits_ret {a : α} : Emits W (.ret a : Prog σ ω κ υ ε α) := trivial

@[simp] theorem emits_throw {e : ε} : Emits W (.throw e : Prog σ ω κ υ ε α) := trivial

theorem Emits.bind {p : Prog σ ω κ υ ε α} {f : α → Prog σ ω κ υ ε β} (hp : Emits W p)
    (hf : ∀ a, Emits W (f a)) : Emits W (p.bind f) := by
  induction p with
  | ret a => exact hf a
  | throw e => trivial
  | read k ih => exact fun db => ih db (hp db)
  | lock key m k ih => exact ih hp
  | tryLock key m k ih => exact fun got => ih got (hp got)
  | write w k ih => exact ⟨hp.1, ih hp.2⟩
  | draw k ih => exact fun v => ih v (hp v)

/-- **The writes of a transaction** satisfy what the writes of its program do. -/
theorem wp_emits {S : Schema σ ω κ} {p : Prog σ ω κ υ ε α} {Q : α → Local σ ω κ → σ → Prop}
    {s : Local σ ω κ} {db : σ} (h : wp S p Q s db) (hp : Emits W p) (hs : ∀ w ∈ s.writes, W w) :
    wp S p (fun a s' db' => Q a s' db' ∧ ∀ w ∈ s'.writes, W w) s db := by
  induction p generalizing s db with
  | ret a => exact fun db' hi => ⟨h db' hi, hs⟩
  | throw e => trivial
  | read k ih => exact fun db' hi => ih _ (h db' hi) (hp _) hs
  | lock key m k ih => exact fun db' hi => ih (h db' hi) hp hs
  | tryLock key m k ih =>
    exact fun db' hi => ⟨ih _ (h db' hi).1 (hp _) hs, ih _ (h db' hi).2 (hp _) hs⟩
  | write w k ih =>
    refine ⟨h.1, ih h.2 hp.2 fun v hv => ?_⟩
    rw [Local.writes_put] at hv
    rcases List.mem_append.mp hv with hv | hv
    · exact hs v hv
    · rw [List.mem_singleton.mp hv]
      exact hp.1
  | draw k ih => exact fun v => ih v (h v) (hp v) hs

/-! ### Statements -/

theorem emits_acquireAll (ls : List (κ × Mode)) :
    Emits W (acquireAll ls : Prog σ ω κ υ ε Unit) := by
  induction ls with
  | nil => trivial
  | cons l ls ih => exact ih

theorem emits_selectLocked {locks : ι → List (κ × Mode)} {find : σ → List ι}
    {recheck : σ → ι → Option γ} :
    Emits W (selectLocked locks find recheck : Prog σ ω κ υ ε (List γ)) := by
  have rows : ∀ found, Emits W (lockRows locks recheck found : Prog σ ω κ υ ε (List γ)) := by
    intro found
    induction found with
    | nil => trivial
    | cons i found ih =>
      exact (emits_acquireAll _).bind fun _ db => ih.bind fun _ => trivial
  exact fun db => rows _

theorem emits_insertRow {keys : List κ} {violates : σ → Option ε} {w : ω} (h : W w) :
    Emits W (insertRow keys violates w : Prog σ ω κ υ ε Unit) := by
  refine (emits_acquireAll _).bind fun _ db => ?_
  beta_reduce
  cases violates db with
  | some e => trivial
  | none => exact ⟨h, trivial⟩

/-! ### Errors -/

/-- Every error that the program can throw satisfies `E`. -/
def Throws (E : ε → Prop) : Prog σ ω κ υ ε α → Prop
  | .ret _ => True
  | .throw e => E e
  | .read k => ∀ db, Throws E (k db)
  | .lock _ _ k => Throws E k
  | .tryLock _ _ k => ∀ got, Throws E (k got)
  | .write _ k => Throws E k
  | .draw k => ∀ v, Throws E (k v)

theorem Throws.bind {p : Prog σ ω κ υ ε α} {f : α → Prog σ ω κ υ ε β} (hp : Throws E p)
    (hf : ∀ a, Throws E (f a)) : Throws E (p.bind f) := by
  induction p with
  | ret a => exact hf a
  | throw e => exact hp
  | read k ih => exact fun db => ih db (hp db)
  | lock key m k ih => exact ih hp
  | tryLock key m k ih => exact fun got => ih got (hp got)
  | write w k ih => exact ih hp
  | draw k ih => exact fun v => ih v (hp v)

theorem throws_acquireAll (ls : List (κ × Mode)) :
    Throws E (acquireAll ls : Prog σ ω κ υ ε Unit) := by
  induction ls with
  | nil => trivial
  | cons l ls ih => exact ih

theorem throws_emitAll (ws : List ω) : Throws E (emitAll ws : Prog σ ω κ υ ε Unit) := by
  induction ws with
  | nil => trivial
  | cons w ws ih => exact ih

theorem throws_selectLocked {locks : ι → List (κ × Mode)} {find : σ → List ι}
    {recheck : σ → ι → Option γ} :
    Throws E (selectLocked locks find recheck : Prog σ ω κ υ ε (List γ)) := by
  have rows : ∀ found, Throws E (lockRows locks recheck found : Prog σ ω κ υ ε (List γ)) := by
    intro found
    induction found with
    | nil => trivial
    | cons i found ih => exact (throws_acquireAll _).bind fun _ db => ih.bind fun _ => trivial
  exact fun db => rows _

theorem throws_updateWhere {locks : ι → List (κ × Mode)} {find : σ → List ι}
    {recheck : σ → ι → Option γ} {change : γ → ω} :
    Throws E (updateWhere locks find recheck change : Prog σ ω κ υ ε (List γ)) :=
  throws_selectLocked.bind fun _ => (throws_emitAll _).bind fun _ => trivial

end ReadCommitted
