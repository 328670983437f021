import Mathlib.Data.List.Basic

/-!
# Streams of self-delimiting items

A byte stream carries items that say themselves where they end. A receiver sees the stream in
pieces, reads as many items as its buffer holds, and keeps the rest for later. Whether it gets the
same items however the stream is cut is a matter of one thing: what is decided about the front of a
buffer must not change when more arrives behind it. `Framing` bundles a scanner with that law, and
`Framing.parse_append` is what follows from it.

A `Machine` is the same with a state between the items. Its law may hold in some of the states only.

## Main definitions

* `Framing` — reading one item off the front of a buffer
* `Framing.parse` — reading all of them
* `Machine`, `Machine.run` — reading items that change a state

## Main results

* `Framing.parse_append` — reading a buffer, then its rest with more behind it, is reading the whole
* `Framing.parse_take` — what was taken is exactly the items that were read
* `Machine.run_append` — running on a buffer, and then on its rest with more behind it
-/

namespace Streaming

variable {β α : Type*}

/-- Why no item is read off the front of a buffer. -/
inductive Stop where
  | needMore
  | malformed
  deriving DecidableEq, Repr

/-- **A framing.** `scan` reads one item off the front of a buffer and says how long it was. An item
takes at least one byte and no more than there are, and neither an item nor a refusal depends on
what comes behind it. -/
structure Framing (β α : Type*) where
  scan : List β → Except Stop (α × ℕ)
  pos_of_scan : ∀ {buffer item size}, scan buffer = .ok (item, size) → 0 < size
  le_of_scan : ∀ {buffer item size}, scan buffer = .ok (item, size) → size ≤ buffer.length
  scan_append : ∀ {buffer item size}, scan buffer = .ok (item, size) →
    ∀ more, scan (buffer ++ more) = .ok (item, size)
  scan_take : ∀ {buffer item size}, scan buffer = .ok (item, size) →
    scan (buffer.take size) = .ok (item, size)
  malformed_append : ∀ {buffer}, scan buffer = .error .malformed →
    ∀ more, scan (buffer ++ more) = .error .malformed

/-- What was read off a buffer: the items, how many bytes they took, and whether what follows them
is malformed rather than incomplete. -/
@[ext]
structure Parsed (α : Type*) where
  items : List α
  taken : ℕ
  malformed : Bool
  deriving DecidableEq, Repr

/-- One more item in front. -/
def Parsed.cons (item : α) (size : ℕ) (p : Parsed α) : Parsed α :=
  { p with items := item :: p.items, taken := size + p.taken }

namespace Framing

variable (F : Framing β α)

/-- Read items off the front of the buffer as long as there are any. -/
def parse (buffer : List β) : Parsed α :=
  match _h : F.scan buffer with
  | .ok (item, size) => (parse (buffer.drop size)).cons item size
  | .error stop => ⟨[], 0, stop = .malformed⟩
termination_by buffer.length
decreasing_by
  have := F.pos_of_scan _h
  have := F.le_of_scan _h
  rw [List.length_drop]
  omega

variable {F}
variable {buffer : List β} {item : α} {size : ℕ}

theorem parse_of_ok (h : F.scan buffer = .ok (item, size)) :
    F.parse buffer = (F.parse (buffer.drop size)).cons item size := by
  rw [parse]
  split
  · next h' =>
    rw [h] at h'
    cases h'
    rfl
  · next h' => rw [h] at h'; cases h'

theorem parse_of_error {stop : Stop} (h : F.scan buffer = .error stop) :
    F.parse buffer = ⟨[], 0, stop = .malformed⟩ := by
  rw [parse]
  split
  · next h' => rw [h] at h'; cases h'
  · next h' =>
    rw [h] at h'
    cases h'
    rfl

/-- The induction that follows the reader: on the item in front, if there is one. -/
theorem parse_induction {P : List β → Prop}
    (stop : ∀ buffer stop, F.scan buffer = .error stop → P buffer)
    (item : ∀ buffer item size, F.scan buffer = .ok (item, size) → P (buffer.drop size) → P buffer)
    (buffer : List β) : P buffer := by
  induction hn : buffer.length using Nat.strongRecOn generalizing buffer with
  | _ n ih =>
    rcases h : F.scan buffer with reason | ⟨first, size⟩
    · exact stop buffer reason h
    · have hpos := F.pos_of_scan h
      have hle := F.le_of_scan h
      refine item buffer first size h (ih _ ?_ _ rfl)
      rw [List.length_drop]
      omega

theorem taken_le (buffer : List β) : (F.parse buffer).taken ≤ buffer.length := by
  induction buffer using parse_induction (F := F) with
  | stop buffer reason h => rw [parse_of_error h]; exact Nat.zero_le _
  | item buffer first size h ih =>
    have hle := F.le_of_scan h
    rw [List.length_drop] at ih
    rw [parse_of_ok h]
    simp only [Parsed.cons]
    omega

/-- No bytes are taken without an item. -/
theorem taken_of_items_nil (h : (F.parse buffer).items = []) : (F.parse buffer).taken = 0 := by
  rcases hscan : F.scan buffer with stop | ⟨item, size⟩
  · rw [parse_of_error hscan]
  · rw [parse_of_ok hscan] at h
    cases h

/-- What is left is not an item, and is malformed exactly if the verdict says so. -/
theorem scan_rest (buffer : List β) :
    F.scan (buffer.drop (F.parse buffer).taken) =
      .error (if (F.parse buffer).malformed then .malformed else .needMore) := by
  induction buffer using parse_induction (F := F) with
  | stop buffer reason h =>
    rw [parse_of_error h, List.drop_zero, h]
    cases reason <;> simp
  | item buffer first size h ih =>
    rw [List.drop_drop] at ih
    rw [parse_of_ok h]
    exact ih

/-- Nothing that comes later mends a malformed stream. -/
theorem parse_append_of_malformed (h : (F.parse buffer).malformed = true) (more : List β) :
    F.parse (buffer ++ more) = F.parse buffer := by
  induction buffer using parse_induction (F := F) with
  | stop buffer reason hs =>
    rw [parse_of_error hs] at h ⊢
    obtain rfl : reason = .malformed := by simpa using h
    rw [parse_of_error (F.malformed_append hs more)]
  | item buffer first size hs ih =>
    rw [parse_of_ok hs] at h ⊢
    rw [parse_of_ok (F.scan_append hs more), List.drop_append_of_le_length (F.le_of_scan hs),
      ih h]

/-- **Reading resumes where it stopped**: the items of a longer buffer are those of the buffer, then
those of what was left of it with the rest behind it. -/
theorem parse_append (h : (F.parse buffer).malformed = false) (more : List β) :
    F.parse (buffer ++ more) =
      { items := (F.parse buffer).items ++
          (F.parse (buffer.drop (F.parse buffer).taken ++ more)).items
        taken := (F.parse buffer).taken +
          (F.parse (buffer.drop (F.parse buffer).taken ++ more)).taken
        malformed := (F.parse (buffer.drop (F.parse buffer).taken ++ more)).malformed } := by
  induction buffer using parse_induction (F := F) with
  | stop buffer reason hs => simp [parse_of_error hs]
  | item buffer first size hs ih =>
    rw [parse_of_ok hs] at h
    specialize ih h
    have hdrop : buffer.drop (size + (F.parse (buffer.drop size)).taken) =
        (buffer.drop size).drop (F.parse (buffer.drop size)).taken := by
      rw [List.drop_drop]
    rw [parse_of_ok (F.scan_append hs more), List.drop_append_of_le_length (F.le_of_scan hs), ih,
      parse_of_ok hs]
    simp only [Parsed.cons, hdrop, List.cons_append, Nat.add_assoc]

/-- Whether malformed or not, the items of a buffer are the first ones of every longer buffer. -/
theorem items_prefix (buffer more : List β) :
    (F.parse buffer).items <+: (F.parse (buffer ++ more)).items := by
  rcases h : (F.parse buffer).malformed with _ | _
  · rw [parse_append h]
    exact List.prefix_append _ _
  · exact (parse_append_of_malformed h more).symm ▸ List.prefix_rfl

/-- **One more byte** completes one item at most, and then nothing is malformed. -/
theorem parse_snoc (buffer : List β) (b : β) :
    ∃ new, (F.parse (buffer ++ [b])).items = (F.parse buffer).items ++ new ∧ new.length ≤ 1 ∧
      (new ≠ [] → (F.parse (buffer ++ [b])).malformed = false) := by
  induction buffer using parse_induction (F := F) with
  | stop buffer reason h =>
    rw [parse_of_error h]
    rcases hscan : F.scan (buffer ++ [b]) with stop | ⟨item, size⟩
    · rw [parse_of_error hscan]
      exact ⟨[], rfl, Nat.zero_le _, fun h => absurd rfl h⟩
    · -- The item takes all there is, as what was there before was none.
      have hle := F.le_of_scan hscan
      have hall : ¬ size ≤ buffer.length := by
        intro hsize
        have htake := F.scan_take hscan
        rw [List.take_append_of_le_length hsize] at htake
        have hbefore := F.scan_append htake (buffer.drop size)
        rw [List.take_append_drop, h] at hbefore
        cases hbefore
      have hdrop : (buffer ++ [b]).drop size = [] := by
        refine List.drop_eq_nil_of_le ?_
        rw [List.length_append, List.length_singleton]
        omega
      rcases hnil : F.scan [] with stop | ⟨first, taken⟩
      · rw [parse_of_ok hscan, hdrop, parse_of_error hnil]
        refine ⟨[item], rfl, Nat.le_refl _, fun _ => ?_⟩
        cases stop with
        | needMore => rfl
        | malformed =>
          have hnever := F.malformed_append hnil (buffer ++ [b])
          rw [List.nil_append, hscan] at hnever
          cases hnever
      · have hpos := F.pos_of_scan hnil
        have hnone := F.le_of_scan hnil
        exact absurd hnone (Nat.not_le.2 hpos)
  | item buffer first size h ih =>
    obtain ⟨new, hnew, hlength, hvalid⟩ := ih
    rw [parse_of_ok h, parse_of_ok (F.scan_append h [b]),
      List.drop_append_of_le_length (F.le_of_scan h)]
    refine ⟨new, ?_, hlength, hvalid⟩
    rw [Parsed.cons, Parsed.cons, hnew, List.cons_append]

/-- **What was taken is exactly the items**: on their own they are read again, all of them, and
nothing is left. -/
theorem parse_take (hnil : F.scan [] = .error .needMore) (buffer : List β) :
    F.parse (buffer.take (F.parse buffer).taken) =
      ⟨(F.parse buffer).items, (F.parse buffer).taken, false⟩ := by
  induction buffer using parse_induction (F := F) with
  | stop buffer reason h =>
    rw [parse_of_error h, List.take_zero, parse_of_error hnil]
    simp
  | item buffer first size h ih =>
    have hle := F.le_of_scan h
    have hfirst : F.scan (buffer.take (size + (F.parse (buffer.drop size)).taken)) =
        .ok (first, size) := by
      rw [List.take_add]
      exact F.scan_append (F.scan_take h) _
    rw [parse_of_ok h]
    simp only [Parsed.cons]
    rw [parse_of_ok hfirst, List.drop_take, Nat.add_sub_cancel_left, ih]
    rfl

end Framing

/-! ### Machines -/

/-- **A machine** reads items off the front of a buffer, and each changes its state. `step` says what
the state is then and how many bytes the item was, or that there is none. An item that takes no bytes
brings the machine nearer to where it needs some. -/
structure Machine (β σ : Type*) where
  step : σ → List β → Option (σ × ℕ)
  rank : σ → ℕ
  le_of_step : ∀ {s buffer next size}, step s buffer = some (next, size) → size ≤ buffer.length
  rank_of_step : ∀ {s buffer next size}, step s buffer = some (next, size) →
    rank next < rank s + size

namespace Machine

variable {σ : Type*} (M : Machine β σ)

/-- Read items as long as there are any: the state, and how many bytes they took. -/
def run (s : σ) (buffer : List β) : σ × ℕ :=
  match _h : M.step s buffer with
  | none => (s, 0)
  | some (next, size) => ((run next (buffer.drop size)).1, size + (run next (buffer.drop size)).2)
termination_by buffer.length + M.rank s
decreasing_by
  all_goals
    have := M.le_of_step _h
    have := M.rank_of_step _h
    rw [List.length_drop]
    omega

variable {M} {s next : σ} {buffer : List β} {size : ℕ}

theorem run_of_none (h : M.step s buffer = none) : M.run s buffer = (s, 0) := by
  rw [run]
  split
  · rfl
  · next h' => rw [h] at h'; cases h'

theorem run_of_some (h : M.step s buffer = some (next, size)) :
    M.run s buffer =
      ((M.run next (buffer.drop size)).1, size + (M.run next (buffer.drop size)).2) := by
  rw [run]
  split
  · next h' => rw [h] at h'; cases h'
  · next h' =>
    rw [h] at h'
    cases h'
    rfl

/-- The induction that follows the machine. -/
theorem run_induction {P : σ → List β → Prop}
    (stop : ∀ s buffer, M.step s buffer = none → P s buffer)
    (item : ∀ s buffer next size, M.step s buffer = some (next, size) →
      P next (buffer.drop size) → P s buffer) (s : σ) (buffer : List β) : P s buffer := by
  induction hn : buffer.length + M.rank s using Nat.strongRecOn generalizing s buffer with
  | _ n ih =>
    rcases h : M.step s buffer with _ | ⟨next, size⟩
    · exact stop s buffer h
    · have hle := M.le_of_step h
      have hrank := M.rank_of_step h
      refine item s buffer next size h (ih _ ?_ _ _ rfl)
      rw [List.length_drop]
      omega

theorem run_le (s : σ) (buffer : List β) : (M.run s buffer).2 ≤ buffer.length := by
  induction s, buffer using run_induction (M := M) with
  | stop s buffer h =>
    rw [run_of_none h]
    exact Nat.zero_le _
  | item s buffer next size h ih =>
    have hle := M.le_of_step h
    rw [List.length_drop] at ih
    rw [run_of_some h]
    omega

/-- **In these states**, what is read does not depend on what comes behind it. -/
def Stable (M : Machine β σ) (Q : σ → Prop) : Prop :=
  ∀ s, Q s → ∀ buffer next size, M.step s buffer = some (next, size) →
    Q next ∧ ∀ more, M.step s (buffer ++ more) = some (next, size)

variable {Q : σ → Prop}

theorem Stable.run (hstable : M.Stable Q) (hs : Q s) (buffer : List β) : Q (M.run s buffer).1 := by
  induction s, buffer using run_induction (M := M) with
  | stop s buffer h =>
    rw [run_of_none h]
    exact hs
  | item s buffer next size h ih =>
    rw [run_of_some h]
    exact ih (hstable s hs buffer next size h).1

/-- **The machine resumes where it stopped.** -/
theorem run_append (hstable : M.Stable Q) (hs : Q s) (buffer more : List β) :
    M.run s (buffer ++ more) =
      ((M.run (M.run s buffer).1 (buffer.drop (M.run s buffer).2 ++ more)).1,
        (M.run s buffer).2 + (M.run (M.run s buffer).1 (buffer.drop (M.run s buffer).2 ++ more)).2) := by
  induction s, buffer using run_induction (M := M) with
  | stop s buffer h => simp [run_of_none h]
  | item s buffer next size h ih =>
    obtain ⟨hnext, happend⟩ := hstable s hs buffer next size h
    have hdrop : buffer.drop (size + (M.run next (buffer.drop size)).2) =
        (buffer.drop size).drop (M.run next (buffer.drop size)).2 := by
      rw [List.drop_drop]
    rw [run_of_some (happend more), List.drop_append_of_le_length (M.le_of_step h), ih hnext,
      run_of_some h]
    simp only [hdrop, Nat.add_assoc]

end Machine

end Streaming
