import Mathlib.Algebra.BigOperators.Group.Finset.Basic
import Mathlib.Data.Multiset.UnionInter

/-!
# What several parties have

A number of parties, each in a state that says what it has: an amount that can be added up, or a
collection of things no two of which are the same. When one party moves, what the others have stays.

## Main definitions

* `total` — what all of them have, `others` — what all but one have
* `Distinct` — numbered things, each in one place

## Main results

* `total_update` — the rule for one party that moves
* `not_mem_of_nodup`, `not_mem_of_mem_store` — nothing is had twice
-/

namespace Holdings

open Function (update update_self update_of_ne)

variable {ι P M κ : Type*} [Fintype ι]

section Amounts

variable [AddCommMonoid M] (amount : P → M) (parties : ι → P)

/-- What all parties have, by what each state has. -/
def total : M := ∑ i, amount (parties i)

variable {amount parties}

/-- Where nobody has anything. -/
theorem total_eq_zero (h : ∀ i, amount (parties i) = 0) : total amount parties = 0 :=
  Finset.sum_eq_zero fun i _ => h i

variable [DecidableEq ι]

variable (amount parties) in
/-- What all parties but one have. -/
def others (i : ι) : M := ∑ j ∈ Finset.univ.erase i, amount (parties j)

variable (amount parties) in
theorem total_eq (i : ι) :
    total amount parties = amount (parties i) + others amount parties i :=
  (Finset.add_sum_erase _ _ (Finset.mem_univ i)).symm

@[simp] theorem others_update (i : ι) (p : P) :
    others amount (update parties i p) i = others amount parties i :=
  Finset.sum_congr rfl fun j hj => by rw [update_of_ne (Finset.ne_of_mem_erase hj)]

/-- **One party moves**: what the others have stays. -/
theorem total_update (i : ι) (p : P) :
    total amount (update parties i p) = amount p + others amount parties i := by
  rw [total_eq amount _ i, others_update, update_self]

end Amounts

section Things

variable {held : P → Multiset κ} {parties : ι → P} {store : Multiset κ} {x : κ} {i j : ι}

theorem mem_total : x ∈ total held parties ↔ ∃ i, x ∈ held (parties i) := by
  rw [total, Multiset.mem_sum]
  simp

/-- What is in the store, no party has. -/
theorem not_mem_of_mem_store (h : (store + total held parties).Nodup) (hx : x ∈ store) (i : ι) :
    x ∉ held (parties i) :=
  fun hi => Multiset.disjoint_left.1 (Multiset.nodup_add.1 h).2.2 hx (mem_total.2 ⟨i, hi⟩)

variable [DecidableEq ι]

theorem mem_others (hne : j ≠ i) (hj : x ∈ held (parties j)) : x ∈ others held parties i :=
  Multiset.mem_sum.2 ⟨j, Finset.mem_erase.2 ⟨hne, Finset.mem_univ j⟩, hj⟩

/-- **Nothing is had by two parties.** -/
theorem not_mem_of_nodup (h : (store + total held parties).Nodup) (hne : j ≠ i)
    (hi : x ∈ held (parties i)) : x ∉ held (parties j) := by
  rw [total_eq held parties i] at h
  have hdisjoint := (Multiset.nodup_add.1 (Multiset.nodup_add.1 h).2.1).2.2
  exact fun hj => Multiset.disjoint_left.1 hdisjoint hi (mem_others hne hj)

end Things

section Numbered

/-- **No number twice**, and none that has not been given out. -/
structure Distinct (given : ℕ) (numbers : Multiset ℕ) : Prop where
  nodup : numbers.Nodup
  lt : ∀ x ∈ numbers, x < given

variable {given : ℕ} {numbers numbers' : Multiset ℕ}

theorem Distinct.mono (h : Distinct given numbers) (hle : numbers' ≤ numbers) :
    Distinct given numbers' :=
  ⟨Multiset.nodup_of_le hle h.nodup, fun x hx => h.lt x (Multiset.mem_of_le hle hx)⟩

/-- A new number is given out. -/
theorem Distinct.give (h : Distinct given numbers) : Distinct (given + 1) (given ::ₘ numbers) := by
  constructor
  · rw [Multiset.nodup_cons]
    exact ⟨fun hmem => lt_irrefl _ (h.lt given hmem), h.nodup⟩
  · intro x hx
    rcases Multiset.mem_cons.1 hx with rfl | hx
    · exact Nat.lt_succ_self x
    · exact Nat.lt_succ_of_lt (h.lt x hx)

/-- **A party takes from the store or gives to it.** -/
theorem Distinct.move [DecidableEq ι] {store store' : Multiset ℕ} {held : P → Multiset ℕ}
    {parties : ι → P} (h : Distinct given (store + total held parties)) {i : ι} {p : P}
    (hle : store' + held p ≤ store + held (parties i)) :
    Distinct given (store' + total held (update parties i p)) := by
  refine h.mono ?_
  rw [total_update, total_eq held parties i, ← add_assoc, ← add_assoc]
  exact add_le_add_left hle _

end Numbered

end Holdings
