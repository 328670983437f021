import Mathlib.Data.List.Basic

/-!
# Programs with effects

Code that runs in one thread and calls out to things it does not control: other services, a clock, a
database, a peer. A program is the tree of its calls. Each call has an answer or throws, and the rest
of the program may depend on that; so the tree covers every behaviour of the outside at once. The
`trace` of a run is the list of its calls with their answers.

## Main definitions

* `Prog`, `Prog.bind`, `Prog.tryCatch`
* `Runs` — the runs of a program
* `Obeys` — every call is allowed by what has been called and answered before it

## Main results

* `Obeys.of_runs` — soundness of `Obeys`
* `obeys_bind`, `obeys_tryCatch`, `obeys_perform` — the rules
-/

namespace Effects

variable {Op : Type} {Ans : Op → Type} {ε α β : Type}

/-- A program whose calls are operations `op : Op` with answers in `Ans op` or exceptions in `ε`. -/
inductive Prog (Ans : Op → Type) (ε α : Type) : Type where
  | ret (a : α)
  | throw (e : ε)
  | call (op : Op) (k : Except ε (Ans op) → Prog Ans ε α)

namespace Prog

/-- Sequential composition; an exception skips the rest. -/
def bind : Prog Ans ε α → (α → Prog Ans ε β) → Prog Ans ε β
  | ret a, f => f a
  | throw e, _ => throw e
  | call op k, f => call op fun ans => (k ans).bind f

/-- `try … catch`. -/
def tryCatch : Prog Ans ε α → (ε → Prog Ans ε α) → Prog Ans ε α
  | ret a, _ => ret a
  | throw e, handler => handler e
  | call op k, handler => call op fun ans => (k ans).tryCatch handler

/-- The program that ends with a given result. -/
def ofExcept : Except ε α → Prog Ans ε α
  | .ok a => ret a
  | .error e => throw e

/-- One call; its exceptions are the program's. -/
def perform (op : Op) : Prog Ans ε (Ans op) := call op ofExcept

end Prog

/-- A call with its answer. -/
structure Event (Ans : Op → Type) (ε : Type) where
  op : Op
  answer : Except ε (Ans op)

/-- The runs of a program: `Runs p trace result`. -/
inductive Runs : Prog Ans ε α → List (Event Ans ε) → Except ε α → Prop where
  | ret {a} : Runs (.ret a) [] (.ok a)
  | throw {e} : Runs (.throw e) [] (.error e)
  | call {op k trace result} (ans : Except ε (Ans op)) :
      Runs (k ans) trace result → Runs (.call op k) (⟨op, ans⟩ :: trace) result

/-- Every call of the program is allowed by the calls and answers before it, which begin with
`past`, and `Q` holds of all of them and of the result at the end. -/
def Obeys (allowed : List (Event Ans ε) → Op → Prop)
    (Q : List (Event Ans ε) → Except ε α → Prop) : Prog Ans ε α → List (Event Ans ε) → Prop
  | .ret a, past => Q past (.ok a)
  | .throw e, past => Q past (.error e)
  | .call op k, past =>
    allowed past op ∧ ∀ ans, Obeys allowed Q (k ans) (past ++ [⟨op, ans⟩])

variable {allowed : List (Event Ans ε) → Op → Prop}
  {Q Q' : List (Event Ans ε) → Except ε α → Prop} {past : List (Event Ans ε)} {p : Prog Ans ε α}

/-- **Soundness.** In a run of a program that obeys a rule, every call is allowed by its past. -/
theorem Obeys.of_runs {trace : List (Event Ans ε)} {result : Except ε α} (h : Obeys allowed Q p past)
    (hr : Runs p trace result) :
    (∀ before x after, trace = before ++ x :: after → allowed (past ++ before) x.op) ∧
      Q (past ++ trace) result := by
  induction hr generalizing past with
  | ret => exact ⟨by simp, (List.append_nil past).symm ▸ h⟩
  | throw => exact ⟨by simp, (List.append_nil past).symm ▸ h⟩
  | @call op k trace result ans hr ih =>
    obtain ⟨hcalls, hresult⟩ := ih (h.2 ans)
    rw [List.append_assoc, List.singleton_append] at hresult
    refine ⟨fun before x after heq => ?_, hresult⟩
    cases before with
    | nil =>
      obtain ⟨rfl, -⟩ := List.cons.inj heq
      simpa using h.1
    | cons y before =>
      obtain ⟨rfl, htail⟩ := List.cons.inj heq
      simpa using hcalls before x after htail

theorem Obeys.mono (hQ : ∀ past r, Q past r → Q' past r) (h : Obeys allowed Q p past) :
    Obeys allowed Q' p past := by
  induction p generalizing past with
  | ret a => exact hQ _ _ h
  | throw e => exact hQ _ _ h
  | call op k ih => exact ⟨h.1, fun ans => ih ans (h.2 ans)⟩

/-- Where nothing more is asked, whatever comes, nothing needs to be shown. -/
theorem obeys_of_forall (hallowed : ∀ more op, allowed (past ++ more) op)
    (hQ : ∀ more r, Q (past ++ more) r) : Obeys allowed Q p past := by
  induction p generalizing past with
  | ret a =>
    have h := hQ [] (.ok a)
    rwa [List.append_nil] at h
  | throw e =>
    have h := hQ [] (.error e)
    rwa [List.append_nil] at h
  | call op k ih =>
    refine ⟨by simpa using hallowed [] op, fun ans => ih ans ?_ ?_⟩
    · intro more op'
      simpa using hallowed (⟨op, ans⟩ :: more) op'
    · intro more r
      simpa using hQ (⟨op, ans⟩ :: more) r

/-! ### Rules -/

theorem obeys_bind {f : α → Prog Ans ε β} {Q : List (Event Ans ε) → Except ε β → Prop}
    (h : Obeys allowed (fun past r => match r with
      | .ok a => Obeys allowed Q (f a) past
      | .error e => Q past (.error e)) p past) : Obeys allowed Q (p.bind f) past := by
  induction p generalizing past with
  | ret a => exact h
  | throw e => exact h
  | call op k ih => exact ⟨h.1, fun ans => ih ans (h.2 ans)⟩

theorem obeys_tryCatch {handler : ε → Prog Ans ε α}
    (h : Obeys allowed (fun past r => match r with
      | .ok a => Q past (.ok a)
      | .error e => Obeys allowed Q (handler e) past) p past) :
    Obeys allowed Q (p.tryCatch handler) past := by
  induction p generalizing past with
  | ret a => exact h
  | throw e => exact h
  | call op k ih => exact ⟨h.1, fun ans => ih ans (h.2 ans)⟩

theorem obeys_ofExcept {r : Except ε α} (h : Q past r) : Obeys allowed Q (.ofExcept r) past := by
  cases r with
  | ok a => exact h
  | error e => exact h

theorem obeys_perform {op : Op} {Q : List (Event Ans ε) → Except ε (Ans op) → Prop}
    (hop : allowed past op) (h : ∀ ans, Q (past ++ [⟨op, ans⟩]) ans) :
    Obeys allowed Q (.perform op) past :=
  ⟨hop, fun ans => obeys_ofExcept (h ans)⟩

/-! ### Programs that do not catch -/

/-- The exceptions of its calls are the program's. -/
def Propagates : Prog Ans ε α → Prop
  | .ret _ => True
  | .throw _ => True
  | .call _ k => (∀ e, k (.error e) = .throw e) ∧ ∀ a, Propagates (k (.ok a))

theorem propagates_ofExcept (r : Except ε α) :
    Propagates (Prog.ofExcept r : Prog Ans ε α) := by
  cases r <;> trivial

theorem propagates_perform (op : Op) : Propagates (Prog.perform op : Prog Ans ε (Ans op)) :=
  ⟨fun _ => rfl, fun _ => trivial⟩

theorem Propagates.bind {f : α → Prog Ans ε β} (hp : Propagates p) (hf : ∀ a, Propagates (f a)) :
    Propagates (p.bind f) := by
  induction p with
  | ret a => exact hf a
  | throw e => trivial
  | call op k ih =>
    refine ⟨fun e => ?_, fun a => ih _ (hp.2 a)⟩
    change (k (.error e)).bind f = .throw e
    rw [hp.1 e]
    rfl

end Effects
