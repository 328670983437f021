import Mathlib.Data.List.Infix

/-!
# Reading page by page

A client reads a sequence of items from a server that gives it a page at a time. A request says where
the client is; with each page the client moves on. If every page is an initial segment of what is
left, is all of it when the server says so, and is not empty otherwise, then the client reads all the
items in order, each of them once, unless it is refused on the way.

## Main definitions

* `Answer`, `drain` — the client's loop
* `Pages` — what is asked of the server and of the client's move

## Main results

* `drain_eq` — the loop ends, with everything or with a refusal
-/

namespace Paging

variable {κ α ρ : Type}

/-- The answer to one request. -/
inductive Answer (α ρ : Type) where
  | page (items : List α) (hasMore : Bool)
  | refused (reason : ρ)
  deriving DecidableEq

/-- Where the loop ended: the pages it received, and the refusal if there was one. -/
structure Download (α ρ : Type) where
  pages : List (List α)
  refusal : Option ρ
  deriving DecidableEq

/-- Request a page, move on, repeat while there is more; for so many requests at most. -/
def drain (serve : κ → Answer α ρ) (advance : κ → List α → κ) : (fuel : ℕ) → κ → Option (Download α ρ)
  | 0, _ => none
  | fuel + 1, request => match serve request with
    | .refused reason => some ⟨[], some reason⟩
    | .page items false => some ⟨[items], none⟩
    | .page items true => (drain serve advance fuel (advance request items)).map fun rest =>
      ⟨items :: rest.pages, rest.refusal⟩

/-- A page, and then a refusal. -/
theorem drain_refused {serve : κ → Answer α ρ} {advance : κ → List α → κ} {request : κ}
    {items : List α} {reason : ρ} (hpage : serve request = .page items true)
    (hrefused : serve (advance request items) = .refused reason) :
    drain serve advance 2 request = some ⟨[items], some reason⟩ := by
  simp [drain, hpage, hrefused]

/-- Every page is an initial segment of what is left, and moving on leaves what comes after it. -/
structure Pages (serve : κ → Answer α ρ) (advance : κ → List α → κ) (left : κ → List α)
    (valid : κ → Prop) : Prop where
  /-- A page starts what is left. -/
  initial : ∀ request items more, valid request → serve request = .page items more →
    items <+: left request
  /-- A last page is all that is left. -/
  last : ∀ request items, valid request → serve request = .page items false → items = left request
  /-- Another page is not empty. -/
  progress : ∀ request items, valid request → serve request = .page items true → items ≠ []
  /-- Moving on. -/
  moves : ∀ request items, valid request → items <+: left request →
    valid (advance request items) ∧ left request = items ++ left (advance request items)
  /-- Moving on twice is moving on by both. -/
  moves_append : ∀ request items items',
    advance (advance request items) items' = advance request (items ++ items')
  /-- Not moving. -/
  moves_nil : ∀ request, advance request [] = request

variable {serve : κ → Answer α ρ} {advance : κ → List α → κ} {left : κ → List α}
  {valid : κ → Prop}

/-- What the loop has achieved when it ends. -/
structure Drained (serve : κ → Answer α ρ) (advance : κ → List α → κ) (left : κ → List α)
    (request : κ) (d : Download α ρ) : Prop where
  /-- What was received is an initial segment of what there was. -/
  initial : d.pages.flatten <+: left request
  /-- Without a refusal, it is everything. -/
  complete : d.refusal = none → d.pages.flatten = left request
  /-- The refusal is the answer to a request at the place where the loop stands. -/
  refused : ∀ reason, d.refusal = some reason →
    serve (advance request d.pages.flatten) = .refused reason

/-- **The loop ends**, after at most one more request than there are items. -/
theorem drain_eq (h : Pages serve advance left valid) {request : κ} (hv : valid request) :
    ∃ d, Drained serve advance left request d ∧
      ∀ fuel, (left request).length < fuel → drain serve advance fuel request = some d := by
  generalize hn : (left request).length = n
  induction n using Nat.strong_induction_on generalizing request with
  | _ n ih =>
    cases hs : serve request with
    | refused reason =>
      refine ⟨⟨[], some reason⟩, ⟨List.nil_prefix, by simp, ?_⟩, fun fuel hfuel => ?_⟩
      · rintro _ ⟨⟩
        rwa [List.flatten_nil, h.moves_nil]
      · obtain ⟨fuel, rfl⟩ := Nat.exists_eq_succ_of_ne_zero (Nat.ne_of_gt (Nat.zero_lt_of_lt hfuel))
        simp [drain, hs]
    | page items more =>
      have hinitial := h.initial request items more hv hs
      cases more with
      | false =>
        have hall := h.last request items hv hs
        refine ⟨⟨[items], none⟩, ⟨by simpa using hinitial, fun _ => by simpa using hall, by simp⟩,
          fun fuel hfuel => ?_⟩
        obtain ⟨fuel, rfl⟩ := Nat.exists_eq_succ_of_ne_zero (Nat.ne_of_gt (Nat.zero_lt_of_lt hfuel))
        simp [drain, hs]
      | true =>
        obtain ⟨hv', hleft⟩ := h.moves request items hv hinitial
        -- the page is not empty, so fewer items are left
        have hpos := List.length_pos_iff.mpr (h.progress request items hv hs)
        have hlen := congrArg List.length hleft
        rw [List.length_append, hn] at hlen
        obtain ⟨d, hd, hfuel⟩ := ih (left (advance request items)).length (by omega) hv' rfl
        refine ⟨⟨items :: d.pages, d.refusal⟩, ⟨?_, fun hr => ?_, fun reason hr => ?_⟩,
          fun fuel hlt => ?_⟩
        · rw [List.flatten_cons, hleft]
          exact (List.prefix_append_right_inj items).mpr hd.initial
        · rw [List.flatten_cons, hd.complete hr, ← hleft]
        · rw [List.flatten_cons, ← h.moves_append]
          exact hd.refused reason hr
        · obtain ⟨fuel, rfl⟩ := Nat.exists_eq_succ_of_ne_zero (Nat.ne_of_gt (Nat.zero_lt_of_lt hlt))
          simp [drain, hs, hfuel fuel (by omega)]

end Paging
