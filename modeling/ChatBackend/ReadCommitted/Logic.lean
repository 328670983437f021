import ChatBackend.ReadCommitted.System

/-!
# Weakest preconditions under interference

A transaction is reasoned about alone, against an environment that does whatever the locks it
holds permit. `Interference S locks` is that environment: the writes of other transactions, which
must hold locks compatible with `locks`, and the drift of the schema. `wp S p Q s db` says that the
program `p`, continued from local state `s` while `db` is committed, ends every possible run with
`Q`, the environment moving between any two of its operations.

What makes this usable is `Interference.preserves`: a fact about the committed state is kept as
soon as every single write that could break it needs a lock the transaction excludes. Nothing is
ever said about schedules.

## Main results

* `Interference.preserves` — stability from locks
* `wp_bind`, `wp_mono`, `wp_interference`, `wp_seen` — the calculus
-/

namespace ReadCommitted

variable {σ ω κ υ ε α β : Type} {S : Schema σ ω κ}

/-! ### Interference -/

/-- One write of another transaction, or drift, while `locks` are held. -/
def Disturbs (S : Schema σ ω κ) (locks : List (κ × Mode)) (db db' : σ) : Prop :=
  (∃ w, CompatibleSets locks (S.needs w) ∧ db' = S.apply w db) ∨ S.drift db db'

/-- What the rest of the world may do to the committed state while `locks` are held. -/
def Interference (S : Schema σ ω κ) (locks : List (κ × Mode)) : σ → σ → Prop :=
  Relation.ReflTransGen (Disturbs S locks)

namespace Interference

variable {locks locks' mine : List (κ × Mode)} {db db' db'' : σ}

theorem refl (locks : List (κ × Mode)) (db : σ) : Interference S locks db db :=
  Relation.ReflTransGen.refl

theorem trans (h : Interference S locks db db') (h' : Interference S locks db' db'') :
    Interference S locks db db'' :=
  Relation.ReflTransGen.trans h h'

/-- More locks, less interference. -/
theorem mono (hl : locks' ⊆ locks) (h : Interference S locks db db') :
    Interference S locks' db db' := by
  induction h with
  | refl => exact refl _ _
  | tail _ hs ih =>
    rcases hs with ⟨w, hw, rfl⟩ | hd
    · exact ih.tail (Or.inl ⟨w, hw.mono hl (List.Subset.refl _), rfl⟩)
    · exact ih.tail (Or.inr hd)

/-- Whatever `locks` were taken since, the interference was at most that allowed by the locks held
at the start. -/
theorem of_hold {key : κ} {m : Mode} (h : Interference S ((key, m) :: locks) db db') :
    Interference S locks db db' :=
  h.mono (List.subset_cons_self _ _)

/-- Another transaction's commit is interference, if its writes are covered by its locks. -/
theorem of_commit {ws : List ω} (hc : ∀ w ∈ ws, S.needs w ⊆ mine)
    (hl : CompatibleSets locks mine) (db : σ) : Interference S locks db (S.applyAll ws db) := by
  induction ws generalizing db with
  | nil => exact refl locks db
  | cons w ws ih =>
    have hw : CompatibleSets locks (S.needs w) :=
      hl.mono (List.Subset.refl _) (hc w (List.mem_cons_self ..))
    have hstep : Disturbs S locks db (S.apply w db) := Or.inl ⟨w, hw, rfl⟩
    exact (ih (fun v hv => hc v (List.mem_cons_of_mem _ hv)) _).head hstep

theorem of_drift (h : S.drift db db') : Interference S locks db db' :=
  Relation.ReflTransGen.single (Or.inr h)

/-- **Stability.** A property of the committed state survives if it survives every write that the
locks held do not exclude, and drift. -/
theorem preserves {P : σ → Prop}
    (hw : ∀ w, CompatibleSets locks (S.needs w) → ∀ db, P db → P (S.apply w db))
    (hd : ∀ db db', S.drift db db' → P db → P db') (h : Interference S locks db db')
    (hP : P db) : P db' := by
  induction h with
  | refl => exact hP
  | tail _ hs ih =>
    rcases hs with ⟨w, hlw, rfl⟩ | hdr
    · exact hw w hlw _ ih
    · exact hd _ _ hdr ih

/-- A part of the committed state is unchanged if no write the locks admit touches it. -/
theorem part_eq {γ : Type} {f : σ → γ}
    (hw : ∀ w, CompatibleSets locks (S.needs w) → ∀ db, f (S.apply w db) = f db)
    (hd : ∀ db db', S.drift db db' → f db' = f db) (h : Interference S locks db db') :
    f db' = f db :=
  preserves (P := fun x => f x = f db) (fun w hlw x hx => (hw w hlw x).trans hx)
    (fun x y hxy hx => (hd x y hxy).trans hx) h rfl

end Interference

/-! ### Weakest preconditions -/

/-- The program ends every run with `Q`, whatever happens around it. A failing program ends with
nothing to show: its transaction is rolled back. -/
def wp (S : Schema σ ω κ) :
    Prog σ ω κ υ ε α → (α → Local σ ω κ → σ → Prop) → Local σ ω κ → σ → Prop
  | .ret a, Q, s, db => ∀ db', Interference S s.locks db db' → Q a s db'
  | .throw _, _, _, _ => True
  | .read k, Q, s, db =>
      ∀ db', Interference S s.locks db db' → wp S (k (S.view s db')) Q (s.see db') db'
  | .lock key m k, Q, s, db =>
      ∀ db', Interference S s.locks db db' → wp S k Q (s.hold key m) db'
  | .tryLock key m k, Q, s, db =>
      ∀ db', Interference S s.locks db db' →
        wp S (k true) Q (s.hold key m) db' ∧ wp S (k false) Q s db'
  | .write w k, Q, s, db => S.needs w ⊆ s.locks ∧ wp S k Q (s.put w) db
  | .draw k, Q, s, db => ∀ v, wp S (k v) Q s db

variable {Q Q' : α → Local σ ω κ → σ → Prop} {s : Local σ ω κ} {db db' : σ}

@[simp] theorem wp_throw (e : ε) : wp S (.throw e : Prog σ ω κ υ ε α) Q s db := trivial

theorem wp_ret {a : α} (h : ∀ db', Interference S s.locks db db' → Q a s db') :
    wp S (.ret a : Prog σ ω κ υ ε α) Q s db := h

/-- The environment may move first. -/
theorem wp_interference {p : Prog σ ω κ υ ε α} (h : wp S p Q s db)
    (hi : Interference S s.locks db db') : wp S p Q s db' := by
  induction p generalizing s db db' with
  | ret a => exact fun db'' hi' => h db'' (hi.trans hi')
  | throw e => trivial
  | read k => exact fun db'' hi' => h db'' (hi.trans hi')
  | lock key m k => exact fun db'' hi' => h db'' (hi.trans hi')
  | tryLock key m k => exact fun db'' hi' => h db'' (hi.trans hi')
  | write w k ih => exact ⟨h.1, ih h.2 hi⟩
  | draw k ih => exact fun v => ih v (h v) hi

theorem wp_mono {p : Prog σ ω κ υ ε α} (hQ : ∀ a s db, Q a s db → Q' a s db)
    (h : wp S p Q s db) : wp S p Q' s db := by
  induction p generalizing s db with
  | ret a => exact fun db' hi => hQ _ _ _ (h db' hi)
  | throw e => trivial
  | read k ih => exact fun db' hi => ih _ (h db' hi)
  | lock key m k ih => exact fun db' hi => ih (h db' hi)
  | tryLock key m k ih => exact fun db' hi => ⟨ih _ (h db' hi).1, ih _ (h db' hi).2⟩
  | write w k ih => exact ⟨h.1, ih h.2⟩
  | draw k ih => exact fun v => ih v (h v)

/-- **Sequencing.** -/
theorem wp_bind {p : Prog σ ω κ υ ε α} {f : α → Prog σ ω κ υ ε β}
    {R : β → Local σ ω κ → σ → Prop} (h : wp S p (fun a s db => wp S (f a) R s db) s db) :
    wp S (p.bind f) R s db := by
  induction p generalizing s db with
  | ret a => exact h db (Interference.refl _ _)
  | throw e => trivial
  | read k ih => exact fun db' hi => ih _ (h db' hi)
  | lock key m k ih => exact fun db' hi => ih (h db' hi)
  | tryLock key m k ih => exact fun db' hi => ⟨ih _ (h db' hi).1, ih _ (h db' hi).2⟩
  | write w k ih => exact ⟨h.1, ih h.2⟩
  | draw k ih => exact fun v => ih v (h v)

/-- Renaming the result. -/
theorem wp_map {p : Prog σ ω κ υ ε α} {f : α → β} {R : β → Local σ ω κ → σ → Prop}
    (h : wp S p (fun a s db => R (f a) s db) s db) :
    wp S (p.bind fun a => .ret (f a)) R s db := by
  induction p generalizing s db with
  | ret a => exact h
  | throw e => trivial
  | read k ih => exact fun db' hi => ih _ (h db' hi)
  | lock key m k ih => exact fun db' hi => ih (h db' hi)
  | tryLock key m k ih => exact fun db' hi => ⟨ih _ (h db' hi).1, ih _ (h db' hi).2⟩
  | write w k ih => exact ⟨h.1, ih h.2⟩
  | draw k ih => exact fun v => ih v (h v)

/-- **What has been read stays where it is**, under what is read later. -/
theorem wp_seen {p : Prog σ ω κ υ ε α} (h : wp S p Q s db) :
    wp S p (fun a s' db' => Q a s' db' ∧ s.seen <:+ s'.seen) s db := by
  induction p generalizing s db with
  | ret a => exact fun db' hi => ⟨h db' hi, List.suffix_rfl⟩
  | throw e => trivial
  | read k ih =>
    intro db' hi
    refine wp_mono (fun a s' x hx => ⟨hx.1, ?_⟩) (ih _ (h db' hi))
    exact (List.suffix_cons _ _).trans hx.2
  | lock key m k ih => exact fun db' hi => ih (h db' hi)
  | tryLock key m k ih => exact fun db' hi => ⟨ih _ (h db' hi).1, ih _ (h db' hi).2⟩
  | write w k ih => exact ⟨h.1, ih h.2⟩
  | draw k ih => exact fun v => ih v (h v)

/-- So the end of a program may rely on it. -/
theorem wp_reads {p : Prog σ ω κ υ ε α}
    (h : wp S p (fun a s' db' => s.seen <:+ s'.seen → Q a s' db') s db) : wp S p Q s db :=
  wp_mono (fun _ _ _ hx => hx.1 hx.2) (wp_seen h)

/-! ### The primitive operations -/

theorem wp_read {k : σ → Prog σ ω κ υ ε α}
    (h : ∀ db', Interference S s.locks db db' → wp S (k (S.view s db')) Q (s.see db') db') :
    wp S (.read k) Q s db := h

theorem wp_lock {key : κ} {m : Mode} {k : Prog σ ω κ υ ε α}
    (h : ∀ db', Interference S s.locks db db' → wp S k Q (s.hold key m) db') :
    wp S (.lock key m k) Q s db := h

theorem wp_tryLock {key : κ} {m : Mode} {k : Bool → Prog σ ω κ υ ε α}
    (ht : ∀ db', Interference S s.locks db db' → wp S (k true) Q (s.hold key m) db')
    (hf : ∀ db', Interference S s.locks db db' → wp S (k false) Q s db') :
    wp S (.tryLock key m k) Q s db := fun db' hi => ⟨ht db' hi, hf db' hi⟩

theorem wp_write {w : ω} {k : Prog σ ω κ υ ε α} (hn : S.needs w ⊆ s.locks)
    (h : wp S k Q (s.put w) db) : wp S (.write w k) Q s db := ⟨hn, h⟩

theorem wp_draw {k : υ → Prog σ ω κ υ ε α} (h : ∀ v, wp S (k v) Q s db) :
    wp S (.draw k) Q s db := h

end ReadCommitted
