import Mathlib.Algebra.GroupWithZero.Nat
import Mathlib.Data.List.Infix
import Mathlib.Data.Nat.Init
import Mathlib.Tactic.SplitIfs

/-!
# Filling a page

Items are taken from the front of a list until the next one is one too many or costs more than is
left. What is taken is the longest initial segment within both limits, so taking greedily loses
nothing; and to know it, and whether anything remains, one item beyond the limit is enough.

## Main definitions

* `Budget.Within` — a list within a number of items and a budget
* `Budget.fill` — the greedy choice

## Main results

* `Budget.prefix_fill_iff` — the initial segments within the limits are those of the greedy choice
* `Budget.fill_take`, `Budget.fill_take_eq_iff` — looking one item ahead
-/

namespace Budget

variable {α : Type} {limit budget n : ℕ} {cost : α → ℕ} {l p : List α}

/-- At most `limit` items that cost at most `budget`. -/
structure Within (limit budget : ℕ) (cost : α → ℕ) (l : List α) : Prop where
  count : l.length ≤ limit
  total : (l.map cost).sum ≤ budget

/-- Take from the front what the limits allow. -/
def fill (cost : α → ℕ) : (limit budget : ℕ) → List α → List α
  | limit + 1, budget, a :: l => if cost a ≤ budget then a :: fill cost limit (budget - cost a) l else []
  | _, _, _ => []

@[simp] theorem fill_nil : fill cost limit budget [] = [] := by
  cases limit <;> rfl

@[simp] theorem fill_zero : fill cost 0 budget l = [] := rfl

theorem fill_cons {a : α} : fill cost (limit + 1) budget (a :: l) =
    if cost a ≤ budget then a :: fill cost limit (budget - cost a) l else [] := rfl

theorem within_nil : Within limit budget cost [] :=
  ⟨Nat.zero_le _, Nat.zero_le _⟩

/-- One item is within the limits if the rest is within what it leaves. -/
theorem within_cons {a : α} : Within (limit + 1) budget cost (a :: l) ↔
    cost a ≤ budget ∧ Within limit (budget - cost a) cost l := by
  constructor
  · rintro ⟨hcount, htotal⟩
    rw [List.length_cons] at hcount
    rw [List.map_cons, List.sum_cons] at htotal
    exact ⟨by omega, by omega, by omega⟩
  · rintro ⟨ha, hcount, htotal⟩
    refine ⟨?_, ?_⟩
    · rw [List.length_cons]
      omega
    · rw [List.map_cons, List.sum_cons]
      omega

/-- **The greedy choice is the longest one.** An initial segment is within the limits if and only if
it is one of what is taken. -/
theorem prefix_fill_iff : p <+: fill cost limit budget l ↔ p <+: l ∧ Within limit budget cost p := by
  induction l generalizing limit budget p with
  | nil =>
    rw [fill_nil, List.prefix_nil]
    constructor
    · rintro rfl
      exact ⟨rfl, within_nil⟩
    · exact fun h => h.1
  | cons a l ih =>
    rcases p with _ | ⟨b, p⟩
    · exact ⟨fun _ => ⟨List.nil_prefix, within_nil⟩, fun _ => List.nil_prefix⟩
    · rcases limit with _ | limit
      · rw [fill_zero, List.prefix_nil]
        refine ⟨fun h => absurd h (List.cons_ne_nil _ _), fun h => ?_⟩
        have hcount := h.2.count
        rw [List.length_cons] at hcount
        omega
      · rw [fill_cons, List.cons_prefix_cons]
        by_cases ha : cost a ≤ budget
        · rw [if_pos ha, List.cons_prefix_cons, ih]
          constructor
          · rintro ⟨rfl, hp, hw⟩
            exact ⟨⟨rfl, hp⟩, within_cons.mpr ⟨ha, hw⟩⟩
          · rintro ⟨⟨rfl, hp⟩, hw⟩
            exact ⟨rfl, hp, (within_cons.mp hw).2⟩
        · rw [if_neg ha, List.prefix_nil]
          refine ⟨fun h => absurd h (List.cons_ne_nil _ _), ?_⟩
          rintro ⟨⟨rfl, -⟩, hw⟩
          exact absurd (within_cons.mp hw).1 ha

theorem fill_prefix : fill cost limit budget l <+: l := (prefix_fill_iff.mp List.prefix_rfl).1

theorem within_fill : Within limit budget cost (fill cost limit budget l) :=
  (prefix_fill_iff.mp List.prefix_rfl).2

/-- Something is taken if the first item is affordable. -/
theorem fill_ne_nil {a : α} (hlimit : 0 < limit) (ha : cost a ≤ budget) :
    fill cost limit budget (a :: l) ≠ [] := by
  obtain ⟨k, rfl⟩ := Nat.exists_eq_succ_of_ne_zero hlimit.ne'
  rw [fill_cons, if_pos ha]
  exact List.cons_ne_nil _ _

/-- What is beyond the limit has no influence. -/
theorem fill_take (h : limit ≤ n) : fill cost limit budget (l.take n) = fill cost limit budget l := by
  have same : ∀ p, p <+: fill cost limit budget (l.take n) ↔ p <+: fill cost limit budget l := by
    intro p
    rw [prefix_fill_iff, prefix_fill_iff]
    constructor
    · rintro ⟨hp, hw⟩
      exact ⟨hp.trans (List.take_prefix _ _), hw⟩
    · rintro ⟨hp, hw⟩
      exact ⟨List.prefix_take_iff.mpr ⟨hp, hw.count.trans h⟩, hw⟩
  have hle := (same _).mp List.prefix_rfl
  exact hle.eq_of_length_le ((same _).mpr List.prefix_rfl).length_le

/-- **One item ahead.** All that was looked at has been taken exactly if all there is has been. -/
theorem fill_take_eq_iff (h : limit < n) :
    fill cost limit budget (l.take n) = l.take n ↔ fill cost limit budget l = l := by
  rw [fill_take h.le]
  have hcount : (fill cost limit budget l).length < n := within_fill.count.trans_lt h
  constructor
  · intro hall
    rw [hall, List.length_take] at hcount
    rw [hall, List.take_of_length_le]
    omega
  · intro hall
    rw [hall] at hcount
    rw [hall, List.take_of_length_le hcount.le]

end Budget
