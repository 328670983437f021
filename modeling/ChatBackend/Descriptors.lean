import Mathlib.Data.List.Basic

/-!
# Descriptors and their owners

A table of numbers, such as the file descriptors of a process, in which an open number has one owner
and a closed one may be opened again. The parties know the numbers they hold; what has to be shown is
that the table agrees, across everything that the parties do to it.

## Main definitions

* `Backs` — every number that a party holds is the party's in the table
* `Accounts` — every number that is a party's in the table is held by the party
* `closeAll`

## Main results

* `Backs.unique` — nothing is held by two parties
* `Backs.acquire`, `Backs.pass`, `Backs.release`, `Backs.closeAll` — the rules
* `Accounts.assign`, `Accounts.close`, `Accounts.closeAll` — the rules
-/

namespace Descriptors

open Function (update)

variable {O : Type} {owner : ℕ → Option O} {holds holds' : O → ℕ → Prop} {o o₂ : O} {fd : ℕ}

/-- **The table backs the parties**: what a party holds is open and the party's own. -/
def Backs (owner : ℕ → Option O) (holds : O → ℕ → Prop) : Prop :=
  ∀ o x, holds o x → owner x = some o

/-- Several numbers are closed. -/
def closeAll (owner : ℕ → Option O) (fds : List ℕ) : ℕ → Option O :=
  fun x => if x ∈ fds then none else owner x

namespace Backs

/-- **Nothing is held by two parties.** -/
theorem unique (h : Backs owner holds) (ho : holds o fd) (ho₂ : holds o₂ fd) : o = o₂ := by
  have hsome := (h o fd ho).symm.trans (h o₂ fd ho₂)
  exact Option.some.inj hsome

theorem mono (h : Backs owner holds) (hle : ∀ o x, holds' o x → holds o x) : Backs owner holds' :=
  fun o x hx => h o x (hle o x hx)

/-- A closed number is opened: nobody held it. -/
theorem acquire (h : Backs owner holds) (hfree : owner fd = none)
    (hnew : ∀ o' x, holds' o' x → holds o' x ∨ o' = o ∧ x = fd) :
    Backs (update owner fd (some o)) holds' := by
  intro o' x hx
  rcases hnew o' x hx with hold | ⟨rfl, rfl⟩
  · have hne : x ≠ fd := by
      rintro rfl
      rw [h o' x hold] at hfree
      cases hfree
    rw [Function.update_of_ne hne]
    exact h o' x hold
  · rw [Function.update_self]

/-- A party hands a number to another one. -/
theorem pass (h : Backs owner holds) (ho : holds o fd)
    (hnew : ∀ o' x, holds' o' x → holds o' x ∧ ¬ (o' = o ∧ x = fd) ∨ o' = o₂ ∧ x = fd) :
    Backs (update owner fd (some o₂)) holds' := by
  intro o' x hx
  rcases hnew o' x hx with ⟨hold, hother⟩ | ⟨rfl, rfl⟩
  · have hne : x ≠ fd := by
      rintro rfl
      exact hother ⟨h.unique hold ho, rfl⟩
    rw [Function.update_of_ne hne]
    exact h o' x hold
  · rw [Function.update_self]

/-- A party closes a number, or gives it to somebody who keeps no account. -/
theorem release (h : Backs owner holds) (ho : holds o fd) (new : Option O)
    (hnew : ∀ o' x, holds' o' x → holds o' x ∧ ¬ (o' = o ∧ x = fd)) :
    Backs (update owner fd new) holds' := by
  intro o' x hx
  obtain ⟨hold, hother⟩ := hnew o' x hx
  have hne : x ≠ fd := by
    rintro rfl
    exact hother ⟨h.unique hold ho, rfl⟩
  rw [Function.update_of_ne hne]
  exact h o' x hold

/-- A number that no party holds changes hands. -/
theorem elsewhere (h : Backs owner holds) (hnobody : ∀ o, ¬ holds o fd) (new : Option O) :
    Backs (update owner fd new) holds := by
  intro o' x hx
  have hne : x ≠ fd := by
    rintro rfl
    exact hnobody o' hx
  rw [Function.update_of_ne hne]
  exact h o' x hx

/-- A party closes all it holds. -/
theorem closeAll (h : Backs owner holds) {fds : List ℕ}
    (hnew : ∀ o' x, holds' o' x → holds o' x ∧ x ∉ fds) :
    Backs (closeAll owner fds) holds' := by
  intro o' x hx
  obtain ⟨hold, hnotMem⟩ := hnew o' x hx
  rw [Descriptors.closeAll, if_neg hnotMem]
  exact h o' x hold

end Backs

/-- **Some parties account for the table**: what is open in the name of one of them is held by it, so
that no number stays open that nobody is going to close. -/
def Accounts (owner : ℕ → Option O) (holds : O → ℕ → Prop) (tracked : O → Prop) : Prop :=
  ∀ o x, tracked o → owner x = some o → holds o x

namespace Accounts

variable {tracked : O → Prop}

theorem mono (h : Accounts owner holds tracked) (hle : ∀ o x, holds o x → holds' o x) :
    Accounts owner holds' tracked :=
  fun o x ho hx => hle o x (h o x ho hx)

/-- A number changes hands, and its new owner knows. -/
theorem assign (h : Accounts owner holds tracked) {new : Option O}
    (hnew : ∀ o, tracked o → new = some o → holds' o fd)
    (hkept : ∀ o x, x ≠ fd → holds o x → holds' o x) :
    Accounts (update owner fd new) holds' tracked := by
  intro o x ho hx
  by_cases hfd : x = fd
  · subst hfd
    rw [Function.update_self] at hx
    exact hnew o ho hx
  · rw [Function.update_of_ne hfd] at hx
    exact hkept o x hfd (h o x ho hx)

/-- A number is closed. -/
theorem close (h : Accounts owner holds tracked) (hkept : ∀ o x, x ≠ fd → holds o x → holds' o x) :
    Accounts (update owner fd none) holds' tracked :=
  h.assign (fun _ _ hnew => by cases hnew) hkept

/-- Several numbers are closed. -/
theorem closeAll (h : Accounts owner holds tracked) {fds : List ℕ}
    (hkept : ∀ o x, x ∉ fds → holds o x → holds' o x) :
    Accounts (Descriptors.closeAll owner fds) holds' tracked := by
  intro o x ho hx
  rw [Descriptors.closeAll] at hx
  split_ifs at hx with hmem
  exact hkept o x hmem (h o x ho hx)

end Accounts

end Descriptors
