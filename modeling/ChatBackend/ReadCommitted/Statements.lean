import ChatBackend.ReadCommitted.Logic

/-!
# Statements

The compound statements a relational client issues, as programs over the primitive operations, each
with its `wp` rule.

A statement that locks rows works in two stages. Its snapshot finds candidate rows; then each
candidate is locked, which may wait, and its condition is evaluated again on the newest committed
version of the row. A candidate that no longer qualifies is dropped, but stays locked. The rule
`wp_lockRows` says what is left of all this once it is over: the result is what re-checking the
candidates would give *now*, and it stays so while the locks are held.

## Main definitions

* `selectLocked` — `SELECT … FOR SHARE` or `FOR UPDATE`, over `lockRows`
* `updateWhere` — `UPDATE` and `DELETE`
* `insertRow` — `INSERT` against unique indexes; `insertUnlessPresent` with `ON CONFLICT DO NOTHING`
* `firstUnlocked` — `ORDER BY … LIMIT 1 FOR UPDATE SKIP LOCKED`
-/

namespace ReadCommitted

variable {σ ω κ υ ε α ι γ : Type} {S : Schema σ ω κ}

/-! ### Locks and writes in bulk -/

/-- Wait for each of the locks in turn. -/
def acquireAll : List (κ × Mode) → Prog σ ω κ υ ε Unit
  | [] => .ret ()
  | (key, m) :: ls => .lock key m (acquireAll ls)

/-- Add the writes in order. -/
def emitAll : List ω → Prog σ ω κ υ ε Unit
  | [] => .ret ()
  | w :: ws => .write w (emitAll ws)

theorem wp_acquireAll {ls : List (κ × Mode)} {Q : Unit → Local σ ω κ → σ → Prop}
    {s : Local σ ω κ} {db : σ}
    (hQ : ∀ s' db', s'.writes = s.writes → s'.seen = s.seen → s.locks ⊆ s'.locks →
      ls ⊆ s'.locks → Interference S s.locks db db' → Q () s' db') :
    wp S (acquireAll ls : Prog σ ω κ υ ε Unit) Q s db := by
  induction ls generalizing s db with
  | nil => exact fun db' hi => hQ s db' rfl rfl (List.Subset.refl _) (List.nil_subset _) hi
  | cons l ls ih =>
    intro db₁ h₁
    refine ih fun s' db' hw hs hl hls hi => ?_
    have hl' : s.locks ⊆ s'.locks := List.Subset.trans (List.subset_cons_self _ _) hl
    refine hQ s' db' hw hs hl' ?_ (h₁.trans (Interference.of_hold hi))
    exact List.cons_subset.mpr ⟨hl (List.mem_cons_self ..), hls⟩

theorem wp_emitAll {ws : List ω} {Q : Unit → Local σ ω κ → σ → Prop} {s : Local σ ω κ} {db : σ}
    (hn : ∀ w ∈ ws, S.needs w ⊆ s.locks)
    (hQ : ∀ db', Interference S s.locks db db' →
      Q () { s with writes := s.writes ++ ws } db') :
    wp S (emitAll ws : Prog σ ω κ υ ε Unit) Q s db := by
  induction ws generalizing s with
  | nil => simpa [emitAll, wp] using hQ
  | cons w ws ih =>
    refine wp_write (hn w (List.mem_cons_self ..)) (ih (fun v hv => ?_) fun db' hi => ?_)
    · exact hn v (List.mem_cons_of_mem _ hv)
    · simpa [Local.put] using hQ db' hi

/-! ### Locking rows -/

/-- Lock each found row, then re-check its newest version. -/
def lockRows (locks : ι → List (κ × Mode)) (recheck : σ → ι → Option γ) :
    List ι → Prog σ ω κ υ ε (List γ)
  | [] => .ret []
  | i :: is =>
    (acquireAll (locks i)).bind fun _ => .read fun db =>
      (lockRows locks recheck is).bind fun rest => .ret ((recheck db i).toList ++ rest)

/-- **Row locks.** If, once its locks are held, the re-check of a found row no longer changes, then
the statement returns the found rows that qualify in the state it leaves behind. -/
theorem wp_lockRows {locks : ι → List (κ × Mode)} {recheck : σ → ι → Option γ} {found : List ι}
    {Q : List γ → Local σ ω κ → σ → Prop} {s : Local σ ω κ} {db : σ}
    (hstable : ∀ i ∈ found, ∀ held db₁ db₂, locks i ⊆ held → s.locks ⊆ held →
      Interference S held db₁ db₂ →
      recheck (S.applyAll s.writes db₂) i = recheck (S.applyAll s.writes db₁) i)
    (hQ : ∀ s' db', s'.writes = s.writes → s.seen ⊆ s'.seen → s.locks ⊆ s'.locks →
      (∀ i ∈ found, locks i ⊆ s'.locks) → Interference S s.locks db db' →
      Q (found.filterMap (recheck (S.applyAll s.writes db'))) s' db') :
    wp S (lockRows locks recheck found : Prog σ ω κ υ ε (List γ)) Q s db := by
  induction found generalizing Q s db with
  | nil =>
    exact fun db' hi => hQ s db' rfl (List.Subset.refl _) (List.Subset.refl _) (by simp) hi
  | cons i is ih =>
    refine wp_bind (wp_acquireAll fun s₁ db₁ hw₁ hs₁ hl₁ hi₁ h₁ => wp_read fun db₂ h₂ => wp_bind ?_)
    have h₀₂ : Interference S s.locks db db₂ := h₁.trans (h₂.mono hl₁)
    refine ih (fun j hj held a b hheld hsub hi => ?_) fun s' db' hw hs hl hls hi =>
      wp_ret fun db'' hi' => ?_
    · rw [Local.writes_see, hw₁]
      exact hstable j (List.mem_cons_of_mem _ hj) held a b hheld (List.Subset.trans hl₁ hsub) hi
    · -- between the re-check of `i` and the end, its locks have been held throughout
      have hkeep : Interference S s₁.locks db₂ db'' := hi.trans (hi'.mono hl)
      have hhead : recheck (S.applyAll s.writes db'') i = recheck (S.applyAll s.writes db₂) i :=
        hstable i (List.mem_cons_self ..) s₁.locks _ _ hi₁ hl₁ hkeep
      have htail : is.filterMap (recheck (S.applyAll s.writes db')) =
          is.filterMap (recheck (S.applyAll s.writes db'')) :=
        List.filterMap_congr fun j hj => (hstable j (List.mem_cons_of_mem _ hj) s'.locks _ _
          (hls j hj) (List.Subset.trans hl₁ hl) hi').symm
      have hres := hQ s' db'' (hw.trans hw₁) ?_ (List.Subset.trans hl₁ hl) ?_ (h₀₂.trans (hkeep.mono hl₁))
      · rw [Local.writes_see, hw₁, htail, Schema.view, hw₁, ← hhead]
        cases hr : recheck (S.applyAll s.writes db'') i with
        | none => simpa [hr] using hres
        | some r => simpa [hr] using hres
      · exact hs₁ ▸ List.Subset.trans (List.subset_cons_self _ _) hs
      · intro j hj
        rcases List.mem_cons.mp hj with rfl | hj
        · exact List.Subset.trans hi₁ hl
        · exact hls j hj

/-- `SELECT … FOR SHARE` or `FOR UPDATE`: a snapshot finds the rows, then they are locked. -/
def selectLocked (locks : ι → List (κ × Mode)) (find : σ → List ι) (recheck : σ → ι → Option γ) :
    Prog σ ω κ υ ε (List γ) :=
  .read fun db => lockRows locks recheck (find db)

theorem wp_selectLocked {locks : ι → List (κ × Mode)} {find : σ → List ι}
    {recheck : σ → ι → Option γ} {Q : List γ → Local σ ω κ → σ → Prop} {s : Local σ ω κ} {db : σ}
    (hstable : ∀ i held db₁ db₂, locks i ⊆ held → s.locks ⊆ held → Interference S held db₁ db₂ →
      recheck (S.applyAll s.writes db₂) i = recheck (S.applyAll s.writes db₁) i)
    (hQ : ∀ s' db₁ db' rows, s'.writes = s.writes → s.seen ⊆ s'.seen → db₁ ∈ s'.seen →
      s.locks ⊆ s'.locks → (∀ i ∈ find (S.applyAll s.writes db₁), locks i ⊆ s'.locks) →
      Interference S s.locks db db₁ → Interference S s.locks db₁ db' →
      (∀ later, Interference S s'.locks db' later →
        rows = (find (S.applyAll s.writes db₁)).filterMap (recheck (S.applyAll s.writes later))) →
      Q rows s' db') :
    wp S (selectLocked locks find recheck : Prog σ ω κ υ ε (List γ)) Q s db := by
  refine wp_read fun db₁ h₁ => wp_lockRows (fun i _ held a b hl hsub hi => ?_)
    fun s' db' hw hs hl hls hi => ?_
  · exact hstable i held a b hl hsub hi
  · refine hQ s' db₁ db' _ hw (List.Subset.trans (List.subset_cons_self _ _) hs)
      (hs (List.mem_cons_self ..)) hl hls h₁ hi fun later hlater => ?_
    exact List.filterMap_congr fun i hfound =>
      (hstable i s'.locks _ _ (hls i hfound) hl hlater).symm

/-! ### Updates and deletions -/

/-- `UPDATE` and `DELETE`: lock and re-check the found rows, then change each of those left. A
statement does not see its own changes, so all the re-checks come before the first change. -/
def updateWhere (locks : ι → List (κ × Mode)) (find : σ → List ι) (recheck : σ → ι → Option γ)
    (change : γ → ω) : Prog σ ω κ υ ε (List γ) :=
  (selectLocked locks find recheck).bind fun rows =>
    (emitAll (rows.map change)).bind fun _ => .ret rows

theorem wp_updateWhere {locks : ι → List (κ × Mode)} {find : σ → List ι}
    {recheck : σ → ι → Option γ} {change : γ → ω} {Q : List γ → Local σ ω κ → σ → Prop}
    {s : Local σ ω κ} {db : σ}
    (hstable : ∀ i held db₁ db₂, locks i ⊆ held → s.locks ⊆ held → Interference S held db₁ db₂ →
      recheck (S.applyAll s.writes db₂) i = recheck (S.applyAll s.writes db₁) i)
    (hneeds : ∀ i db r, recheck db i = some r → S.needs (change r) ⊆ locks i ++ s.locks)
    (hQ : ∀ s' db₁ db' rows, s'.writes = s.writes ++ rows.map change → s.seen ⊆ s'.seen →
      db₁ ∈ s'.seen → s.locks ⊆ s'.locks →
      (∀ i ∈ find (S.applyAll s.writes db₁), locks i ⊆ s'.locks) → Interference S s.locks db db₁ →
      Interference S s.locks db₁ db' →
      (∀ later, Interference S s'.locks db' later →
        rows = (find (S.applyAll s.writes db₁)).filterMap (recheck (S.applyAll s.writes later))) →
      Q rows s' db') :
    wp S (updateWhere locks find recheck change : Prog σ ω κ υ ε (List γ)) Q s db := by
  refine wp_bind (wp_selectLocked hstable fun s₁ db₁ db₂ rows hw₁ hs₁ hm₁ hl₁ hls₁ h₁ h₂ hrows => ?_)
  refine wp_bind (wp_emitAll ?_ fun db₃ h₃ => wp_ret fun db₄ h₄ => ?_)
  · intro w hw
    obtain ⟨r, hr, rfl⟩ := List.mem_map.mp hw
    rw [hrows db₂ (Interference.refl _ _)] at hr
    obtain ⟨i, hi, hri⟩ := List.mem_filterMap.mp hr
    exact List.Subset.trans (hneeds i _ r hri) (List.append_subset.mpr ⟨hls₁ i hi, hl₁⟩)
  · have h₂₄ : Interference S s₁.locks db₂ db₄ := h₃.trans h₄
    exact hQ _ db₁ db₄ rows (by rw [hw₁]) hs₁ hm₁ hl₁ hls₁ h₁ (h₂.trans (h₂₄.mono hl₁))
      fun later hlater => hrows later (h₂₄.trans hlater)

/-! ### Insertions -/

/-- Enter the new row's keys in the unique indexes, waiting for any other transaction that has one
of them, and insert the row if no constraint is violated. -/
def insertRow (keys : List κ) (violates : σ → Option ε) (w : ω) : Prog σ ω κ υ ε Unit :=
  (acquireAll (keys.map fun key => (key, Mode.exclusive))).bind fun _ => .read fun db =>
    match violates db with
    | some e => .throw e
    | none => .write w (.ret ())

theorem wp_insertRow {keys : List κ} {violates : σ → Option ε} {w : ω}
    {Q : Unit → Local σ ω κ → σ → Prop} {s : Local σ ω κ} {db : σ}
    (hn : S.needs w ⊆ (keys.map fun key => (key, Mode.exclusive)) ++ s.locks)
    (hQ : ∀ s' db₁ db', s'.writes = s.writes ++ [w] → s.seen ⊆ s'.seen → s.locks ⊆ s'.locks →
      (∀ key ∈ keys, (key, Mode.exclusive) ∈ s'.locks) → Interference S s.locks db db₁ →
      Interference S s'.locks db₁ db' → violates (S.applyAll s.writes db₁) = none →
      Q () s' db') :
    wp S (insertRow keys violates w : Prog σ ω κ υ ε Unit) Q s db := by
  refine wp_bind (wp_acquireAll fun s₁ db₁ hw₁ hs₁ hl₁ hls₁ h₁ => wp_read fun db₂ h₂ => ?_)
  cases hv : violates (S.view s₁ db₂) with
  | some e => trivial
  | none =>
    refine wp_write (List.Subset.trans hn (List.append_subset.mpr ⟨hls₁, hl₁⟩)) (wp_ret fun db₃ h₃ => ?_)
    refine hQ _ db₂ db₃ (by simp [hw₁]) (hs₁ ▸ List.subset_cons_self _ _) hl₁ (fun key hk => ?_)
      (h₁.trans (h₂.mono hl₁)) h₃ (by rw [← hw₁]; exact hv)
    exact hls₁ (List.mem_map.mpr ⟨key, hk, rfl⟩)

/-- `INSERT … ON CONFLICT DO NOTHING` of one row: a visible row with the same key is left alone.
Otherwise the key is entered in the unique index, which waits for any other transaction that is
about to insert it, and the row is inserted if that one did not. -/
def insertUnlessPresent (key : κ) (present : σ → Bool) (w : ω) : Prog σ ω κ υ ε Unit :=
  .read fun db =>
    if present db then .ret ()
    else .lock key .exclusive <| .read fun db => if present db then .ret () else .write w (.ret ())

/-- **An insertion that tolerates a conflict** either finds the row or adds it. -/
theorem wp_insertUnlessPresent {key : κ} {present : σ → Bool} {w : ω}
    {Q : Unit → Local σ ω κ → σ → Prop} {s : Local σ ω κ} {db : σ}
    (hn : S.needs w ⊆ [(key, .exclusive)])
    (hfound : ∀ s' db₁ db', s'.writes = s.writes → s.seen ⊆ s'.seen → db₁ ∈ s'.seen →
      s.locks ⊆ s'.locks → Interference S s.locks db db' →
      present (S.applyAll s.writes db₁) → Q () s' db')
    (hadded : ∀ s' db₁ db', s'.writes = s.writes ++ [w] → s.seen ⊆ s'.seen →
      s.locks ⊆ s'.locks → (key, Mode.exclusive) ∈ s'.locks → Interference S s.locks db db₁ →
      Interference S s'.locks db₁ db' → present (S.applyAll s.writes db₁) = false → Q () s' db') :
    wp S (insertUnlessPresent key present w : Prog σ ω κ υ ε Unit) Q s db := by
  refine wp_read fun db₁ h₁ => ?_
  split
  · next hp =>
    refine wp_ret fun db₂ h₂ => ?_
    exact hfound _ db₁ db₂ rfl (List.subset_cons_self _ _) (List.mem_cons_self ..)
      (List.Subset.refl _) (h₁.trans h₂) hp
  · refine wp_lock fun db₂ h₂ => wp_read fun db₃ h₃ => ?_
    have h₀₃ : Interference S s.locks db db₃ := h₁.trans (h₂.trans (Interference.of_hold h₃))
    have hs : s.seen ⊆ (((s.see db₁).hold key .exclusive).see db₃).seen :=
      List.Subset.trans (List.subset_cons_self _ _) (List.subset_cons_self _ _)
    have hl : s.locks ⊆ (((s.see db₁).hold key .exclusive).see db₃).locks :=
      List.subset_cons_self _ _
    split
    · next hp =>
      refine wp_ret fun db₄ h₄ => ?_
      exact hfound _ db₃ db₄ rfl hs (List.mem_cons_self ..) hl (h₀₃.trans (h₄.mono hl)) hp
    · next hp =>
      refine wp_write (List.Subset.trans hn ?_) (wp_ret fun db₄ h₄ => ?_)
      · exact List.cons_subset.mpr ⟨List.mem_cons_self .., List.nil_subset _⟩
      · exact hadded _ db₃ db₄ rfl hs hl (List.mem_cons_self ..) h₀₃ h₄ (Bool.eq_false_iff.mpr hp)

/-! ### Skipping locked rows -/

/-- The first found row that can be locked at once and still qualifies. -/
def firstUnlocked (key : ι → κ) (recheck : σ → ι → Option γ) :
    List ι → Prog σ ω κ υ ε (Option γ)
  | [] => .ret none
  | i :: is => .tryLock (key i) .exclusive fun got =>
      if got then .read fun db =>
        match recheck db i with
        | some r => .ret (some r)
        | none => firstUnlocked key recheck is
      else firstUnlocked key recheck is

theorem wp_firstUnlocked {key : ι → κ} {recheck : σ → ι → Option γ} {found : List ι}
    {Q : Option γ → Local σ ω κ → σ → Prop} {s : Local σ ω κ} {db : σ}
    (hnone : ∀ s' db', s'.writes = s.writes → s.seen ⊆ s'.seen → s.locks ⊆ s'.locks →
      Interference S s.locks db db' → Q none s' db')
    (hsome : ∀ i ∈ found, ∀ r s' db₁ db', s'.writes = s.writes → s.seen ⊆ s'.seen →
      s.locks ⊆ s'.locks → (key i, Mode.exclusive) ∈ s'.locks → Interference S s.locks db db₁ →
      Interference S s'.locks db₁ db' → recheck (S.applyAll s.writes db₁) i = some r →
      Q (some r) s' db') :
    wp S (firstUnlocked key recheck found : Prog σ ω κ υ ε (Option γ)) Q s db := by
  induction found generalizing s db with
  | nil => exact fun db' hi => hnone s db' rfl (List.Subset.refl _) (List.Subset.refl _) hi
  | cons i is ih =>
    refine wp_tryLock (fun db₁ h₁ => ?_) fun db₁ h₁ => ?_
    · refine wp_read fun db₂ h₂ => ?_
      have h₀₂ : Interference S s.locks db db₂ := h₁.trans (Interference.of_hold h₂)
      rw [show S.view (s.hold (key i) .exclusive) db₂ = S.applyAll s.writes db₂ from rfl]
      cases hr : recheck (S.applyAll s.writes db₂) i with
      | some r =>
        exact wp_ret fun db₃ h₃ => hsome i (List.mem_cons_self ..) r _ db₂ db₃ rfl
          (List.subset_cons_self _ _) (List.subset_cons_self _ _) (List.mem_cons_self ..) h₀₂ h₃ hr
      | none =>
        have hl : s.locks ⊆ ((s.hold (key i) .exclusive).see db₂).locks :=
          List.subset_cons_self _ _
        have hs : s.seen ⊆ ((s.hold (key i) .exclusive).see db₂).seen :=
          List.subset_cons_self _ _
        refine ih (fun s' db' hw hse hlo hi => ?_) fun j hj r s' a db' hw hse hlo hk ha hb hrj => ?_
        · exact hnone s' db' hw (List.Subset.trans hs hse) (List.Subset.trans hl hlo) (h₀₂.trans (hi.mono hl))
        · exact hsome j (List.mem_cons_of_mem _ hj) r s' a db' hw (List.Subset.trans hs hse) (List.Subset.trans hl hlo) hk
            (h₀₂.trans (ha.mono hl)) hb hrj
    · refine ih (fun s' db' hw hse hlo hi => ?_) fun j hj r s' a db' hw hse hlo hk ha hb hrj => ?_
      · exact hnone s' db' hw hse hlo (h₁.trans hi)
      · exact hsome j (List.mem_cons_of_mem _ hj) r s' a db' hw hse hlo hk (h₁.trans ha) hb hrj

end ReadCommitted
