import Mathlib.Algebra.Order.Group.Nat
import Mathlib.Tactic.Abel
import Mathlib.Tactic.GCongr

/-!
# Heartbeats

One party watches another by the clock. It notes when it has last heard from it, asks for a sign of
life when it has heard nothing for some time, and gives it up if the answer does not come in time.
That it hears anything at all is not an answer: what is waited for is the answer itself.

It looks at the clock when it ticks, and at no other time, so what is due is done late by as much as
two ticks are apart. How long the other party may be silent is a matter of both.

## Main definitions

* `Rhythm`, `Pulse` — when to ask and when to give up; what is noted of a party
* `Pulse.verdict` — what a tick makes of it
* `Timely` — what holds of a party between two ticks

## Main results

* `Timely.asks`, `Timely.passes`, `Timely.hears` — whatever happens keeps it
* `Timely.silence` — for how long a party that is not given up has been silent at most
-/

namespace Heartbeat

variable {T : Type*} [AddCommMonoid T] [LinearOrder T]

/-- How long a party may be silent before it is asked, and how long its answer may take. -/
structure Rhythm (T : Type*) [AddCommMonoid T] [LinearOrder T] where
  interval : T
  timeout : T
  interval_nonneg : 0 ≤ interval
  timeout_pos : 0 < timeout

/-- What is noted of a party: when it was last heard from, when it was last asked, and whether its
answer is waited for. -/
@[ext] structure Pulse (T : Type*) where
  heardAt : T
  askedAt : T
  waiting : Bool

/-- What a tick makes of a party. -/
inductive Verdict where
  | fine
  | ask
  | giveUp
  deriving DecidableEq

namespace Pulse

/-- It is asked. -/
def ask (pulse : Pulse T) (now : T) : Pulse T :=
  { pulse with askedAt := now, waiting := true }

/-- What a tick makes of it. -/
def verdict (rhythm : Rhythm T) (pulse : Pulse T) (now : T) : Verdict :=
  if pulse.waiting = true ∧ pulse.askedAt + rhythm.timeout ≤ now then .giveUp
  else if pulse.waiting = false ∧ pulse.heardAt + rhythm.interval < now then .ask
  else .fine

/-- **It may have been heard from** between two times: if it has been, it may have answered, too. -/
def Hears (low high : T) (pulse pulse' : Pulse T) : Prop :=
  pulse' = pulse ∨ low ≤ pulse'.heardAt ∧ pulse'.heardAt ≤ high ∧
    pulse'.askedAt = pulse.askedAt ∧ (pulse'.waiting = true → pulse.waiting = true)

end Pulse

/-- **What holds between two ticks**, `tick` being the last of them: a party that is not waited for
had not been silent for too long at that tick, and one that is had time left to answer. -/
structure Timely (rhythm : Rhythm T) (period tick now : T) (pulse : Pulse T) : Prop where
  heard : pulse.heardAt ≤ now
  unasked : pulse.waiting = false → tick ≤ pulse.heardAt + rhythm.interval
  asked : pulse.waiting = true → tick < pulse.askedAt + rhythm.timeout ∧
    pulse.askedAt ≤ pulse.heardAt + (rhythm.interval + period)

namespace Timely

variable {rhythm : Rhythm T} {period tick now now' : T} {pulse pulse' : Pulse T}

theorem later (h : Timely rhythm period tick now pulse) (hle : now ≤ now') :
    Timely rhythm period tick now' pulse :=
  ⟨h.heard.trans hle, h.unasked, h.asked⟩

/-- A tick has nothing to do about it. -/
theorem passes (h : Timely rhythm period tick now pulse) (hle : now ≤ now')
    (hverdict : pulse.verdict rhythm now' = .fine) : Timely rhythm period now' now' pulse := by
  rw [Pulse.verdict] at hverdict
  split_ifs at hverdict with hgiveUp hask
  refine ⟨h.heard.trans hle, fun hwaiting => ?_, fun hwaiting => ⟨?_, (h.asked hwaiting).2⟩⟩
  · exact not_lt.1 fun hlt => hask ⟨hwaiting, hlt⟩
  · exact not_le.1 fun hle => hgiveUp ⟨hwaiting, hle⟩

variable [IsOrderedCancelAddMonoid T]

/-- A party that has just turned up. -/
theorem fresh {heardAt askedAt : T} (hlow : tick ≤ heardAt) (hhigh : heardAt ≤ now) :
    Timely rhythm period tick now ⟨heardAt, askedAt, false⟩ where
  heard := hhigh
  unasked := fun _ => hlow.trans (le_add_of_nonneg_right rhythm.interval_nonneg)
  asked := fun h => by cases h

/-- It is heard from. -/
theorem hears (h : Timely rhythm period tick now pulse) (htick : tick ≤ now) (hle : now ≤ now')
    (hhears : pulse.Hears now now' pulse') : Timely rhythm period tick now' pulse' := by
  rcases hhears with rfl | ⟨hlow, hhigh, hasked, hwaiting⟩
  · exact h.later hle
  · refine ⟨hhigh, fun _ => ?_, fun hstill => ?_⟩
    · calc tick ≤ pulse'.heardAt := htick.trans hlow
        _ ≤ pulse'.heardAt + rhythm.interval := le_add_of_nonneg_right rhythm.interval_nonneg
    · obtain ⟨htime, hsilent⟩ := h.asked (hwaiting hstill)
      rw [hasked]
      refine ⟨htime, hsilent.trans ?_⟩
      gcongr
      exact h.heard.trans hlow

/-- **A tick asks it**, and it comes within a period of the last one: it is not long after the
interval was over. -/
theorem asks (h : Timely rhythm period tick now pulse) (hle : now ≤ now')
    (hperiod : now' ≤ tick + period) (hverdict : pulse.verdict rhythm now' = .ask) :
    Timely rhythm period now' now' (pulse.ask now') := by
  rw [Pulse.verdict] at hverdict
  split_ifs at hverdict with hgiveUp hask
  refine ⟨h.heard.trans hle, fun hwaiting => ?_, fun _ => ⟨?_, ?_⟩⟩
  · cases hwaiting
  · exact lt_add_of_pos_right now' rhythm.timeout_pos
  · show now' ≤ pulse.heardAt + (rhythm.interval + period)
    calc now' ≤ tick + period := hperiod
      _ ≤ pulse.heardAt + rhythm.interval + period := by
        gcongr
        exact h.unasked hask.1
      _ = pulse.heardAt + (rhythm.interval + period) := add_assoc _ _ _

/-- A party that has not been asked for an answer has not been silent for long. -/
theorem silence_unasked (h : Timely rhythm period tick now pulse) (hperiod : now ≤ tick + period)
    (hwaiting : pulse.waiting = false) : now ≤ pulse.heardAt + (rhythm.interval + period) := by
  calc now ≤ tick + period := hperiod
    _ ≤ pulse.heardAt + rhythm.interval + period := by
      gcongr
      exact h.unasked hwaiting
    _ = pulse.heardAt + (rhythm.interval + period) := add_assoc _ _ _

/-- **No party is silent for longer** than the interval, the timeout and twice what the ticks are
apart. -/
theorem silence (h : Timely rhythm period tick now pulse) (hnonneg : 0 ≤ period)
    (hperiod : now ≤ tick + period) :
    now ≤ pulse.heardAt + (rhythm.interval + rhythm.timeout + (period + period)) := by
  cases hwaiting : pulse.waiting with
  | false =>
    refine (h.silence_unasked hperiod hwaiting).trans ?_
    gcongr
    · exact le_add_of_nonneg_right rhythm.timeout_pos.le
    · exact le_add_of_nonneg_right hnonneg
  | true =>
    obtain ⟨htime, hsilent⟩ := h.asked hwaiting
    calc now ≤ tick + period := hperiod
      _ ≤ pulse.askedAt + rhythm.timeout + period := by
        gcongr
      _ ≤ pulse.heardAt + (rhythm.interval + period) + rhythm.timeout + period := by
        gcongr
      _ = pulse.heardAt + (rhythm.interval + rhythm.timeout + (period + period)) := by
        abel

end Timely

end Heartbeat
