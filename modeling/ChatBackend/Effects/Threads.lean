import Mathlib.Data.List.Induction
import Mathlib.Logic.Function.Basic
import Mathlib.Logic.Relation
import ChatBackend.Effects

/-!
# Programs that run at the same time

Any number of programs, each in a thread of its own, in one world. A step starts a program, or answers
the next call of one of them, as the world allows at that moment, or moves the world, which knows what
calls are waited for, and by which threads. The history is the list of all the calls with their answers,
each with its thread and with the world that answered it.

A rule that every program obeys by itself holds of every call of the history, where what came before
is what came before it in its own thread; what every program promises of its end holds of every
thread that has ended; and what the world does for a call that is waited for has the grounds of that
call.

## Main definitions

* `Threads.System` — the world, and the programs that are run in it
* `Threads.Step`, `Threads.Reachable` — runs
* `Threads.pastOf` — one thread's part of a history
* `Threads.Keeps` — an invariant of the world, with what has been called
* `Threads.Config.advances` — a run that is computed

## Main results

* `Threads.allowed_of_reachable` — every call is allowed by the past of its thread
* `Threads.ended_of_reachable` — every thread that has ended has kept its promise
* `Threads.eq_of_first` — what is allowed only at first is called once
* `Threads.answered_of_reachable` — the world that it was asked of has answered it
* `Threads.world_of_reachable`, `Threads.world_of_history` — invariants hold at the end and on the way
-/

namespace Effects

namespace Threads

variable {W Op : Type} {Ans : Op → Type} {ε α : Type}

/-- Which programs are run, how the world moves without them, and what it may answer. -/
structure System (W : Type) {Op : Type} (Ans : Op → Type) (ε α : Type) where
  starts : Prog Ans ε α → Prop
  /-- The world moves, while these threads wait for these calls. -/
  moves : (ℕ → Op → Prop) → W → W → Prop
  /-- What it may answer to a thread. -/
  answers : ℕ → W → (op : Op) → Except ε (Ans op) → Prop

/-- A call that has been answered. -/
structure Record (W : Type) {Op : Type} (Ans : Op → Type) (ε : Type) where
  thread : ℕ
  /-- The world that answered it. -/
  world : W
  event : Event Ans ε

/-- The state of a run. Threads are never used again. -/
structure Config (W : Type) {Op : Type} (Ans : Op → Type) (ε α : Type) where
  world : W
  /-- What is left of the program of a thread, if it has been started. -/
  threads : ℕ → Option (Prog Ans ε α)
  /-- The answered calls, oldest first. -/
  history : List (Record W Ans ε)

/-- Nothing has been started. -/
def Config.initial (w : W) : Config W Ans ε α := ⟨w, fun _ => none, []⟩

/-- The thread waits for the answer to the call. -/
def Config.Waits (c : Config W Ans ε α) (t : ℕ) (op : Op) : Prop := ∃ k, c.threads t = some (.call op k)

/-- One thread's part of a history. -/
def pastOf (t : ℕ) (history : List (Record W Ans ε)) : List (Event Ans ε) :=
  (history.filter fun r => r.thread = t).map Record.event

/-- One step of a run. -/
inductive Step (S : System W Ans ε α) : Config W Ans ε α → Config W Ans ε α → Prop where
  | start {c} (t : ℕ) (p : Prog Ans ε α) : c.threads t = none → S.starts p →
      Step S c { c with threads := Function.update c.threads t (some p) }
  | call {c} (t : ℕ) (op : Op) (k : Except ε (Ans op) → Prog Ans ε α) (ans : Except ε (Ans op)) :
      c.threads t = some (.call op k) → S.answers t c.world op ans →
      Step S c ⟨c.world, Function.update c.threads t (some (k ans)),
        c.history ++ [⟨t, c.world, ⟨op, ans⟩⟩]⟩
  | move {c} {w : W} : S.moves c.Waits c.world w → Step S c { c with world := w }

/-- The states that runs from `w₀` reach. -/
def Reachable (S : System W Ans ε α) (w₀ : W) (c : Config W Ans ε α) : Prop :=
  Relation.ReflTransGen (Step S) (.initial w₀) c

/-- The next call of a thread is answered like this, if it has one. -/
def Config.advance (answer : ℕ → W → (op : Op) → Except ε (Ans op)) (c : Config W Ans ε α) (t : ℕ) :
    Config W Ans ε α :=
  match c.threads t with
  | some (.call op k) => ⟨c.world, Function.update c.threads t (some (k (answer t c.world op))),
      c.history ++ [⟨t, c.world, ⟨op, answer t c.world op⟩⟩]⟩
  | _ => c

/-- So many of its calls are answered. -/
def Config.advances (answer : ℕ → W → (op : Op) → Except ε (Ans op)) (c : Config W Ans ε α) (t : ℕ) :
    ℕ → Config W Ans ε α
  | 0 => c
  | calls + 1 => (c.advance answer t).advances answer t calls

/-- A thread is started. -/
def Config.start (c : Config W Ans ε α) (t : ℕ) (p : Prog Ans ε α) : Config W Ans ε α :=
  { c with threads := Function.update c.threads t (some p) }

variable {S : System W Ans ε α} {w₀ : W} {c : Config W Ans ε α} {t : ℕ}
  {history before after : List (Record W Ans ε)} {r : Record W Ans ε}
  {allowed : List (Event Ans ε) → Op → Prop} {Q : List (Event Ans ε) → Except ε α → Prop}
  {I : List (Record W Ans ε) → W → Prop}

/-! ### One thread's part -/

theorem mem_pastOf {e : Event Ans ε} :
    e ∈ pastOf t history ↔ ∃ r ∈ history, r.thread = t ∧ r.event = e := by
  simp [pastOf, and_assoc]

theorem pastOf_append_self (event : Event Ans ε) (w : W) :
    pastOf t (history ++ [⟨t, w, event⟩]) = pastOf t history ++ [event] := by
  simp [pastOf]

theorem pastOf_append_of_ne {u : ℕ} (hu : u ≠ t) (event : Event Ans ε) (w : W) :
    pastOf u (history ++ [⟨t, w, event⟩]) = pastOf u history := by
  simp [pastOf, Ne.symm hu]

/-- Something at the end of a list is before the end, or is the end. -/
theorem append_cons_eq_concat {β : Type} {before after l : List β} {r x : β}
    (h : l ++ [x] = before ++ r :: after) :
    (∃ after', l = before ++ r :: after') ∨ before = l ∧ r = x := by
  rcases List.eq_nil_or_concat after with rfl | ⟨after', y, rfl⟩
  · obtain ⟨rfl, rfl⟩ := List.append_singleton_inj.mp h
    exact .inr ⟨rfl, rfl⟩
  · rw [List.concat_eq_append, ← List.cons_append, ← List.append_assoc] at h
    exact .inl ⟨after', (List.append_singleton_inj.mp h).1⟩

/-- **Of something that is done at first only**, a thread does one at most. -/
theorem length_filter_pastOf_le {p : Event Ans ε → Bool}
    (h : ∀ before r after, history = before ++ r :: after → p r.event = true →
      ∀ e ∈ pastOf r.thread before, p e = false) (t : ℕ) : ((pastOf t history).filter p).length ≤ 1 := by
  induction history using List.reverseRecOn with
  | nil => exact Nat.zero_le 1
  | append_singleton history r ih =>
    have hbefore := ih fun before r' after hhistory =>
      h before r' (after ++ [r]) (by rw [hhistory, List.append_assoc, List.cons_append])
    by_cases hthread : r.thread = t
    · subst hthread
      rw [pastOf_append_self, List.filter_append, List.length_append]
      cases hr : p r.event with
      | false =>
        rw [List.filter_singleton, hr]
        exact hbefore
      | true =>
        have hnone : (pastOf r.thread history).filter p = [] :=
          List.filter_eq_nil_iff.mpr fun e he hpe => by
            rw [h history r [] rfl hr e he] at hpe
            cases hpe
        rw [hnone, List.filter_singleton, hr]
        exact Nat.le_refl 1
    · rw [pastOf_append_of_ne (Ne.symm hthread)]
      exact hbefore

theorem pastOf_subset_append (t : ℕ) (history more : List (Record W Ans ε)) :
    pastOf t history ⊆ pastOf t (history ++ more) := by
  rw [pastOf, pastOf, List.filter_append, List.map_append]
  exact List.subset_append_left _ _

/-! ### Rules -/

/-- **An invariant of the world** and of what has been called: it is kept when the world answers a call,
and when the world moves, where the calls that are waited for have their grounds. -/
structure Keeps (S : System W Ans ε α) (allowed : List (Event Ans ε) → Op → Prop)
    (I : List (Record W Ans ε) → W → Prop) : Prop where
  answer : ∀ history t w event, I history w → I (history ++ [⟨t, w, event⟩]) w
  move : ∀ history waits w w', I history w →
    (∀ t op, waits t op → allowed (pastOf t history) op) → S.moves waits w w' → I history w'

/-- What holds of every state, if the programs obey a rule and the world keeps an invariant. -/
structure Obedient (S : System W Ans ε α) (allowed : List (Event Ans ε) → Op → Prop)
    (Q : List (Event Ans ε) → Except ε α → Prop) (I : List (Record W Ans ε) → W → Prop)
    (c : Config W Ans ε α) : Prop where
  /-- What is left of a program obeys the rule after what its thread has done. -/
  threads : ∀ t p, c.threads t = some p → Obeys allowed Q p (pastOf t c.history)
  fresh : ∀ t, c.threads t = none → pastOf t c.history = []
  world : I c.history c.world
  history : ∀ before r after, c.history = before ++ r :: after →
    allowed (pastOf r.thread before) r.event.op ∧
      S.answers r.thread r.world r.event.op r.event.answer ∧ I before r.world

/-- A call that is waited for is allowed. -/
theorem Obedient.waits (hc : Obedient S allowed Q I c) {op : Op} (h : c.Waits t op) :
    allowed (pastOf t c.history) op := by
  obtain ⟨k, ht⟩ := h
  exact (hc.threads t _ ht).1

theorem Obedient.step (hS : ∀ p, S.starts p → Obeys allowed Q p []) (hI : Keeps S allowed I)
    {c' : Config W Ans ε α} (hc : Obedient S allowed Q I c) (h : Step S c c') :
    Obedient S allowed Q I c' := by
  cases h with
  | start t p hnone hp =>
    refine ⟨fun u q hq => ?_, fun u hu => ?_, hc.world, hc.history⟩
    · by_cases hut : u = t
      · subst hut
        obtain rfl : p = q := by simpa using hq
        rw [hc.fresh u hnone]
        exact hS p hp
      · exact hc.threads u q (by simpa [Function.update_of_ne hut] using hq)
    · by_cases hut : u = t
      · simp [hut] at hu
      · exact hc.fresh u (by simpa [Function.update_of_ne hut] using hu)
  | call t op k ans hcall hans =>
    have hobeys := hc.threads t _ hcall
    refine ⟨fun u q hq => ?_, fun u hu => ?_, hI.answer _ _ _ _ hc.world,
      fun before r after hhistory => ?_⟩
    · by_cases hut : u = t
      · subst hut
        obtain rfl : k ans = q := by simpa using hq
        rw [pastOf_append_self]
        exact hobeys.2 ans
      · rw [pastOf_append_of_ne hut]
        exact hc.threads u q (by simpa [Function.update_of_ne hut] using hq)
    · by_cases hut : u = t
      · simp [hut] at hu
      · rw [pastOf_append_of_ne hut]
        exact hc.fresh u (by simpa [Function.update_of_ne hut] using hu)
    · rcases append_cons_eq_concat hhistory with ⟨after', hbefore⟩ | ⟨rfl, rfl⟩
      · exact hc.history before r after' hbefore
      · exact ⟨hobeys.1, hans, hc.world⟩
  | move hmove =>
    exact ⟨hc.threads, hc.fresh, hI.move _ _ _ _ hc.world (fun _ _ => hc.waits) hmove, hc.history⟩

theorem obedient_of_reachable (hS : ∀ p, S.starts p → Obeys allowed Q p []) (hI : Keeps S allowed I)
    (hw₀ : I [] w₀) (h : Reachable S w₀ c) : Obedient S allowed Q I c := by
  induction h with
  | refl =>
    refine ⟨fun t p hp => ?_, fun t _ => rfl, hw₀, fun before r after hhistory => ?_⟩
    · cases hp
    · exact absurd hhistory.symm (List.append_ne_nil_of_right_ne_nil _ (List.cons_ne_nil _ _))
  | tail _ hstep ih => exact ih.step hS hI hstep

/-- **The world keeps its invariants.** -/
theorem world_of_reachable (hS : ∀ p, S.starts p → Obeys allowed Q p []) (hI : Keeps S allowed I)
    (hw₀ : I [] w₀) (h : Reachable S w₀ c) : I c.history c.world :=
  (obedient_of_reachable hS hI hw₀ h).world

/-- They held whenever a call was answered. -/
theorem world_of_history (hS : ∀ p, S.starts p → Obeys allowed Q p []) (hI : Keeps S allowed I)
    (hw₀ : I [] w₀) (h : Reachable S w₀ c) (hhistory : c.history = before ++ r :: after) :
    I before r.world :=
  ((obedient_of_reachable hS hI hw₀ h).history before r after hhistory).2.2

/-- Nothing is asked of the world. -/
theorem keeps_true (S : System W Ans ε α) (allowed : List (Event Ans ε) → Op → Prop) :
    Keeps S allowed fun _ _ => True :=
  ⟨fun _ _ _ _ _ => trivial, fun _ _ _ _ _ _ _ => trivial⟩

/-- **Every call is allowed** by what its thread has called before. -/
theorem allowed_of_reachable (hS : ∀ p, S.starts p → Obeys allowed Q p []) (h : Reachable S w₀ c)
    (hhistory : c.history = before ++ r :: after) : allowed (pastOf r.thread before) r.event.op :=
  ((obedient_of_reachable hS (keeps_true S allowed) trivial h).history before r after hhistory).1

/-- **Every thread that has ended** has kept its promise. -/
theorem ended_of_reachable (hS : ∀ p, S.starts p → Obeys allowed Q p []) (h : Reachable S w₀ c)
    {a : α} (ht : c.threads t = some (.ret a)) : Q (pastOf t c.history) (.ok a) :=
  (obedient_of_reachable hS (keeps_true S allowed) trivial h).threads t _ ht

/-- **A call that is allowed only at first** is made once: a thread has one answer to it. -/
theorem eq_of_first (hS : ∀ p, S.starts p → Obeys allowed Q p []) (h : Reachable S w₀ c) {op : Op}
    (hfirst : ∀ past, allowed past op → past = []) {e e' : Event Ans ε}
    (he : e ∈ pastOf t c.history) (he' : e' ∈ pastOf t c.history) (hop : e.op = op)
    (hop' : e'.op = op) : e = e' := by
  have later {before after : List (Record W Ans ε)} {r : Record W Ans ε}
      (hhistory : c.history = before ++ r :: after) (hr : r.event.op = op) :
      pastOf r.thread before = [] :=
    hfirst _ (hr ▸ allowed_of_reachable hS h hhistory)
  obtain ⟨r, hr, rfl, rfl⟩ := mem_pastOf.mp he
  obtain ⟨r', hr', hthread, rfl⟩ := mem_pastOf.mp he'
  obtain ⟨before, after, hhistory⟩ := List.append_of_mem hr
  rw [hhistory] at hr'
  rcases List.mem_append.mp hr' with hbefore | hafter
  · have hmem : r'.event ∈ pastOf r.thread before := mem_pastOf.mpr ⟨r', hbefore, hthread, rfl⟩
    rw [later hhistory hop] at hmem
    cases hmem
  · rcases List.mem_cons.mp hafter with rfl | hafter
    · rfl
    · obtain ⟨between, rest, rfl⟩ := List.append_of_mem hafter
      rw [← List.cons_append, ← List.append_assoc] at hhistory
      have hmem : r.event ∈ pastOf r'.thread (before ++ r :: between) := mem_pastOf.mpr
        ⟨r, List.mem_append_right _ (List.mem_cons_self ..), hthread.symm, rfl⟩
      rw [later hhistory hop'] at hmem
      cases hmem

/-- Any program obeys the rule that allows everything. -/
theorem obeys_anything (p : Prog Ans ε α) (past : List (Event Ans ε)) :
    Obeys (fun _ _ => True) (fun _ _ => True) p past :=
  obeys_of_forall (fun _ _ => trivial) fun _ _ => trivial

/-- **Every answer is the world's** at that moment. -/
theorem answered_of_reachable (h : Reachable S w₀ c) (hr : r ∈ c.history) :
    S.answers r.thread r.world r.event.op r.event.answer := by
  obtain ⟨before, after, hhistory⟩ := List.append_of_mem hr
  exact ((obedient_of_reachable (fun p _ => obeys_anything p []) (keeps_true S _) trivial h).history
    _ _ _ hhistory).2.1

/-- Every beginning of a history is the history of a run. -/
theorem exists_reachable_of_append (h : Reachable S w₀ c) (hhistory : c.history = before ++ after) :
    ∃ c', Reachable S w₀ c' ∧ c'.history = before := by
  induction h generalizing after with
  | refl =>
    obtain ⟨rfl, -⟩ := List.append_eq_nil_iff.mp hhistory.symm
    exact ⟨_, .refl, rfl⟩
  | @tail c c' hc hstep ih =>
    cases hstep with
    | start | move => exact ih hhistory
    | call t op k ans hcall hans =>
      rcases List.eq_nil_or_concat after with rfl | ⟨after', x, rfl⟩
      · rw [List.append_nil] at hhistory
        exact ⟨_, Relation.ReflTransGen.tail hc (.call t op k ans hcall hans), hhistory⟩
      · rw [List.concat_eq_append, ← List.append_assoc] at hhistory
        exact ih (List.append_singleton_inj.mp hhistory).1

/-! ### Runs that are computed -/

/-- The world may move as long as no call is answered. -/
theorem Reachable.moves {w : W} (h : Reachable S w₀ c)
    (hmoves : Relation.ReflTransGen (S.moves c.Waits) c.world w) :
    Reachable S w₀ { c with world := w } := by
  induction hmoves with
  | refl => exact h
  | tail _ hmove ih => exact ih.tail (.move hmove)

theorem Reachable.start (h : Reachable S w₀ c) (hnone : c.threads t = none) {p : Prog Ans ε α}
    (hp : S.starts p) : Reachable S w₀ (c.start t p) :=
  h.tail (.start t p hnone hp)

theorem Reachable.advance {answer : ℕ → W → (op : Op) → Except ε (Ans op)}
    (hanswer : ∀ t w op, S.answers t w op (answer t w op)) (h : Reachable S w₀ c) (t : ℕ) :
    Reachable S w₀ (c.advance answer t) := by
  rw [Config.advance]
  split
  · next op k hcall => exact h.tail (.call t op k _ hcall (hanswer t _ op))
  · exact h

/-- **What is computed is reached.** -/
theorem Reachable.advances {answer : ℕ → W → (op : Op) → Except ε (Ans op)}
    (hanswer : ∀ t w op, S.answers t w op (answer t w op)) (h : Reachable S w₀ c) (t calls : ℕ) :
    Reachable S w₀ (c.advances answer t calls) := by
  induction calls generalizing c with
  | zero => exact h
  | succ calls ih => exact ih (h.advance hanswer t)

/-- Answers leave the world alone. -/
theorem Config.world_advances {answer : ℕ → W → (op : Op) → Except ε (Ans op)} (t calls : ℕ) :
    (c.advances answer t calls).world = c.world := by
  induction calls generalizing c with
  | zero => rfl
  | succ calls ih =>
    rw [Config.advances, ih, Config.advance]
    split <;> rfl

end Threads

end Effects
