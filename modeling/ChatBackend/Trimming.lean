import Mathlib.Data.List.DropRight
import Mathlib.Data.List.TakeWhile

/-!
# Trimming

A list without the elements of one kind at its two ends. What is trimmed is the list between two pads
of that kind, and a list that has no such element at an end is left as it is.

## Main definitions

* `trim`

## Main results

* `trim_append_of_pos`, `exists_pads` — a list and its pads
* `trim_map` — trimming and a change of the elements that does not matter to it
* `trim_eq_self_iff`
-/

namespace Trimming

variable {α : Type*} {p : α → Bool} {l before after : List α}

/-- The list without the elements at its ends of which `p` holds. -/
def trim (p : α → Bool) (l : List α) : List α := (l.dropWhile p).rdropWhile p

theorem rdropWhile_append_of_pos (h : ∀ a ∈ after, p a) :
    (l ++ after).rdropWhile p = l.rdropWhile p := by
  rw [List.rdropWhile, List.reverse_append,
    List.dropWhile_append_of_pos fun a ha => h a (List.mem_reverse.1 ha)]
  rfl

/-- **Pads do not matter.** -/
theorem trim_append_of_pos (h : ∀ a ∈ before, p a) (h' : ∀ a ∈ after, p a) :
    trim p (before ++ l ++ after) = trim p l := by
  rw [trim, List.append_assoc, List.dropWhile_append_of_pos h, List.dropWhile_append]
  split
  · next hnil =>
    rw [List.isEmpty_iff] at hnil
    rw [trim, hnil, List.dropWhile_eq_nil_iff.2 h']
  · rw [rdropWhile_append_of_pos h']
    rfl

/-- A list is what is left of it between two pads. -/
theorem exists_pads (p : α → Bool) (l : List α) :
    ∃ before after, (∀ a ∈ before, p a) ∧ (∀ a ∈ after, p a) ∧ l = before ++ trim p l ++ after := by
  refine ⟨l.takeWhile p, (l.dropWhile p).rtakeWhile p, fun a => List.mem_takeWhile_imp,
    fun a ha => List.mem_rtakeWhile_imp ha, ?_⟩
  rw [trim, List.append_assoc, List.rdropWhile_append_rtakeWhile, List.takeWhile_append_dropWhile]

theorem trim_map {f : α → α} (h : ∀ a, p (f a) = p a) : trim p (l.map f) = (trim p l).map f := by
  have hcomp : p ∘ f = p := funext h
  rw [trim, trim, List.dropWhile_map, hcomp, List.rdropWhile, List.rdropWhile, ← List.map_reverse,
    List.dropWhile_map, hcomp, List.map_reverse]

/-- **What is left as it is**: a list with another element at each end. -/
theorem trim_eq_self_iff :
    trim p l = l ↔ (∀ a ∈ l.head?, p a = false) ∧ ∀ a ∈ l.getLast?, p a = false := by
  constructor
  · intro heq
    have hsuffix : l.length ≤ (l.dropWhile p).length := by
      conv_lhs => rw [← heq]
      exact (List.rdropWhile_prefix p _).length_le
    have hdrop : l.dropWhile p = l := (List.dropWhile_suffix p).eq_of_length_le hsuffix
    rw [trim, hdrop] at heq
    constructor
    · intro a ha
      cases l with
      | nil => cases ha
      | cons first rest =>
        obtain rfl := Option.some.inj ha
        simpa using List.dropWhile_eq_self_iff.1 hdrop
    · intro a ha
      obtain ⟨hne, rfl⟩ := List.mem_getLast?_eq_getLast ha
      simpa using List.rdropWhile_eq_self_iff.1 heq hne
  · rintro ⟨hhead, hlast⟩
    have hdrop : l.dropWhile p = l := by
      cases l with
      | nil => rfl
      | cons first rest => rw [List.dropWhile_cons_of_neg (by simp [hhead first rfl])]
    rw [trim, hdrop, List.rdropWhile_eq_self_iff]
    intro hne
    simp [hlast _ (List.getLast?_eq_some_getLast hne)]

end Trimming
