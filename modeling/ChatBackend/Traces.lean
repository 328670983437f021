import Mathlib.Data.List.Basic

/-!
# Properties of traces

A safety property of a trace says of each of its elements that it is in order, given what has come
before. Such a property is kept when the trace grows by elements that are.

## Main definitions

* `Always`

## Main results

* `always_append` — the rule for a trace that grows
-/

namespace Traces

variable {α : Type*} {ok ok' : List α → α → Prop} {trace more : List α}

/-- Every element is in order, given those before it. -/
def Always (ok : List α → α → Prop) (trace : List α) : Prop :=
  ∀ before x after, trace = before ++ x :: after → ok before x

theorem always_nil : Always ok [] := by
  intro before x after heq
  simp at heq

/-- **A trace that grows**: what is added must be in order after what there is. -/
theorem always_append :
    Always ok (trace ++ more) ↔
      Always ok trace ∧ Always (fun before x => ok (trace ++ before) x) more := by
  constructor
  · intro h
    constructor
    · rintro before x after rfl
      exact h before x (after ++ more) (by simp)
    · rintro before x after rfl
      exact h (trace ++ before) x after (by simp)
  · rintro ⟨htrace, hmore⟩ before x after heq
    rcases List.append_eq_append_iff.1 heq with ⟨middle, rfl, htail⟩ | ⟨middle, rfl, htail⟩
    · exact hmore middle x after htail
    · cases middle with
      | nil => simpa using hmore [] x after htail.symm
      | cons y middle =>
        obtain ⟨rfl, -⟩ := List.cons.inj htail
        exact htrace before x middle rfl

theorem always_cons {x : α} :
    Always ok (x :: trace) ↔ ok [] x ∧ Always (fun before y => ok (x :: before) y) trace := by
  constructor
  · intro h
    refine ⟨h [] x trace rfl, ?_⟩
    rintro before y after rfl
    exact h (x :: before) y after rfl
  · rintro ⟨hx, htrace⟩ before y after heq
    cases before with
    | nil =>
      obtain ⟨rfl, -⟩ := List.cons.inj heq
      exact hx
    | cons z before =>
      obtain ⟨rfl, rfl⟩ := List.cons.inj heq
      exact htrace before y after rfl

theorem always_singleton {x : α} : Always ok [x] ↔ ok [] x := by
  rw [always_cons, and_iff_left always_nil]

/-- Elements that are in order after anything. -/
theorem always_of_forall (h : ∀ x ∈ trace, ∀ before, ok before x) : Always ok trace := by
  rintro before x after rfl
  exact h x (by simp) before

theorem Always.mono (h : Always ok trace) (himp : ∀ before x, ok before x → ok' before x) :
    Always ok' trace :=
  fun before x after heq => himp before x (h before x after heq)

end Traces
