import Mathlib.Data.Int.Order.Basic
import Mathlib.Data.List.Basic
import Mathlib.Data.Set.Basic
import Mathlib.Data.Sym.Sym2
import Mathlib.Order.Basic

/-!
# Conversations

Parties send each other messages. What two of them have sent is one list for both, and the place of a
message in it, from one on, is its number. Its sender gives it a key. A key that the sender has used
before in this conversation adds nothing: the message is known if what is kept under the key is what is
sent now, and in conflict with it otherwise. Not all of a message need be kept. A message that is kept
has a name, by which whoever it is addressed to says that it has been received.

A party reads, in pages, what others have sent to it, with a cursor for each of them above which it
wants to know.

## Main definitions

* `Book`, `Book.post` — the conversations of everybody, and one more message
* `Book.Unread`, `Book.IsPage` — what is above the cursors, and a page of it
* `Archive` — the conversations, and what has been received of them

## Main results

* `Book.post_eq_new`, `Book.post_eq_known`, `Book.post_eq_conflict` — the answers
* `Book.isPage_of_prefix` — what comes first is a page
* `Archive.le_post`, `Archive.le_receive` — an archive only grows
-/

namespace Conversation

variable {A K M I : Type}

/-- A message that is kept. -/
structure Entry (A K M I : Type) where
  id : I
  sender : A
  key : K
  content : M

/-- **The conversations of everybody**, by the two parties. -/
abbrev Book (A K M I : Type) := Sym2 A → List (Entry A K M I)

/-- What becomes of a message that is sent. -/
inductive Answer (I : Type) where
  | new (id : I) (number : ℕ)
  | known (id : I) (number : ℕ)
  | conflict

/-- A message with its number. -/
structure Item (A K M I : Type) where
  number : ℕ
  entry : Entry A K M I

section Posting

variable [DecidableEq A] [DecidableEq K] [DecidableEq M]

/-- Is it what this sender has sent under this key? -/
def Entry.isFrom (sender : A) (key : K) (entry : Entry A K M I) : Bool :=
  entry.sender = sender ∧ entry.key = key

/-- **Sending a message**, of which `kept content` is kept, under the name `id` if it is new. -/
def Book.post (kept : M → M) (book : Book A K M I) (sender recipient : A) (key : K) (content : M)
    (id : I) : Answer I × Book A K M I :=
  let talk := book s(sender, recipient)
  match talk.findIdx? (Entry.isFrom sender key) with
  | none => (.new id (talk.length + 1),
    Function.update book s(sender, recipient) (talk ++ [⟨id, sender, key, kept content⟩]))
  | some i =>
    match talk[i]? with
    | some entry => if entry.content = content then (.known entry.id (i + 1), book) else (.conflict, book)
    | none => (.conflict, book)

variable {kept : M → M} {book : Book A K M I} {sender recipient : A} {key : K} {content : M} {id : I}
  {entry : Entry A K M I} {i : ℕ}

theorem Book.post_eq_new
    (h : ∀ entry ∈ book s(sender, recipient), entry.isFrom sender key = false) :
    book.post kept sender recipient key content id =
      (.new id ((book s(sender, recipient)).length + 1), Function.update book s(sender, recipient)
        (book s(sender, recipient) ++ [⟨id, sender, key, kept content⟩])) := by
  simp only [Book.post, List.findIdx?_eq_none_iff.mpr h]

theorem Book.post_eq_known
    (hfound : (book s(sender, recipient)).findIdx? (Entry.isFrom sender key) = some i)
    (hentry : (book s(sender, recipient))[i]? = some entry) (hsame : entry.content = content) :
    book.post kept sender recipient key content id = (.known entry.id (i + 1), book) := by
  simp [Book.post, hfound, hentry, hsame]

theorem Book.post_eq_conflict
    (hfound : (book s(sender, recipient)).findIdx? (Entry.isFrom sender key) = some i)
    (hentry : (book s(sender, recipient))[i]? = some entry) (hother : entry.content ≠ content) :
    book.post kept sender recipient key content id = (.conflict, book) := by
  simp [Book.post, hfound, hentry, hother]

/-- Sending a message adds to one conversation, if to any. -/
theorem Book.prefix_post (kept : M → M) (book : Book A K M I) (sender recipient : A) (key : K)
    (content : M) (id : I) (pair : Sym2 A) :
    book pair <+: (book.post kept sender recipient key content id).2 pair := by
  rw [Book.post]
  split
  · dsimp only
    by_cases hpair : pair = s(sender, recipient)
    · subst hpair
      rw [Function.update_self]
      exact List.prefix_append _ _
    · rw [Function.update_of_ne hpair]
  · split
    · split <;> exact List.prefix_rfl
    · exact List.prefix_rfl

/-- What is found first has a place. -/
theorem exists_findIdx?_of_find? {α : Type} {p : α → Bool} {l : List α} {a : α}
    (h : l.find? p = some a) : ∃ i, l.findIdx? p = some i ∧ l[i]? = some a := by
  obtain ⟨hp, i, hi, rfl, hbefore⟩ := List.find?_eq_some_iff_getElem.mp h
  exact ⟨i, List.findIdx?_eq_some_iff_getElem.mpr ⟨hi, hp, fun j hj => by simpa using hbefore j hj⟩,
    List.getElem?_eq_getElem hi⟩

end Posting

/-! ### Reading -/

/-- **What the reader has not read**: it is addressed to the reader, and its number is above the
cursor of its sender. -/
def Book.Unread (book : Book A K M I) (reader : A) (cursor : A → ℤ) (x : Item A K M I) : Prop :=
  (∃ i, x.number = i + 1 ∧ (book s(x.entry.sender, reader))[i]? = some x.entry) ∧
    cursor x.entry.sender < x.number

/-- The order of a page: by senders, and by numbers for each. -/
def Item.Before [LT A] (x y : Item A K M I) : Prop :=
  x.entry.sender < y.entry.sender ∨ x.entry.sender = y.entry.sender ∧ x.number < y.number

/-- **A page**: the first of what is unread, without a gap, and whether there is more. -/
structure Book.IsPage [LT A] (book : Book A K M I) (reader : A) (cursor : A → ℤ)
    (page : List (Item A K M I)) (more : Bool) : Prop where
  sorted : page.Pairwise Item.Before
  unread : ∀ x ∈ page, book.Unread reader cursor x
  gapless : ∀ y ∈ page, ∀ x, book.Unread reader cursor x → x.Before y → x ∈ page
  more : more = true ↔ ∃ x, book.Unread reader cursor x ∧ x ∉ page

section Pages

variable [Preorder A] {book : Book A K M I} {reader : A} {cursor : A → ℤ}
  {page all : List (Item A K M I)} {more : Bool}

theorem Item.Before.asymm {x y : Item A K M I} (h : x.Before y) : ¬ y.Before x := by
  rintro (hlt | ⟨heq, hlt⟩)
  · rcases h with hlt' | ⟨heq', -⟩
    · exact lt_asymm hlt hlt'
    · exact hlt.ne heq'.symm
  · rcases h with hlt' | ⟨-, hlt'⟩
    · exact hlt'.ne heq.symm
    · exact lt_asymm hlt hlt'

/-- **What comes first is a page**, of a list of all that is unread. -/
theorem Book.isPage_of_prefix (hsorted : all.Pairwise Item.Before)
    (hall : ∀ x, x ∈ all ↔ book.Unread reader cursor x) (hinitial : page <+: all)
    (hmore : more = true ↔ page ≠ all) : book.IsPage reader cursor page more := by
  obtain ⟨rest, rfl⟩ := hinitial
  obtain ⟨hpage, hrest, hbefore⟩ := List.pairwise_append.mp hsorted
  refine ⟨hpage, fun x hx => (hall x).mp (List.mem_append_left _ hx), fun y hy x hx hxy => ?_, ?_⟩
  · rcases List.mem_append.mp ((hall x).mpr hx) with hx | hx
    · exact hx
    · exact absurd hxy (hbefore y hy x hx).asymm
  · rw [hmore]
    constructor
    · intro hne
      obtain ⟨x, hx⟩ := List.exists_mem_of_ne_nil rest fun hnil => hne (by rw [hnil, List.append_nil])
      exact ⟨x, (hall x).mp (List.mem_append_right _ hx), fun hpage =>
        (hbefore x hpage x hx).asymm (hbefore x hpage x hx)⟩
    · rintro ⟨x, hx, hnot⟩ hsame
      exact hnot (hsame ▸ (hall x).mpr hx)

end Pages

/-! ### Receipts -/

/-- **An archive**: the conversations of everybody, and which messages have been received. -/
@[ext]
structure Archive (A K M I : Type) where
  book : Book A K M I
  receipts : Set I

namespace Archive

/-- Some message of this name is addressed to the reader. -/
def Addressed (archive : Archive A K M I) (reader : A) (id : I) : Prop :=
  ∃ sender, ∃ entry ∈ archive.book s(sender, reader), entry.sender = sender ∧ entry.id = id

/-- No message has this name. -/
def Free (archive : Archive A K M I) (id : I) : Prop :=
  ∀ pair, ∀ entry ∈ archive.book pair, entry.id ≠ id

/-- These messages have been received, now if not before. -/
def receive (archive : Archive A K M I) (ids : List I) : Archive A K M I :=
  { archive with receipts := archive.receipts ∪ {id | id ∈ ids} }

/-- A later archive has all that an earlier one has, conversations in the same order. -/
instance : Preorder (Archive A K M I) where
  le a b := (∀ pair, a.book pair <+: b.book pair) ∧ a.receipts ⊆ b.receipts
  le_refl a := ⟨fun _ => List.prefix_rfl, fun _ h => h⟩
  le_trans a b c hab hbc := ⟨fun pair => (hab.1 pair).trans (hbc.1 pair), fun _ h => hbc.2 (hab.2 h)⟩

theorem le_iff {a b : Archive A K M I} :
    a ≤ b ↔ (∀ pair, a.book pair <+: b.book pair) ∧ a.receipts ⊆ b.receipts := Iff.rfl

theorem le_post [DecidableEq A] [DecidableEq K] [DecidableEq M] (kept : M → M)
    (archive : Archive A K M I) (sender recipient : A) (key : K) (content : M) (id : I) :
    archive ≤ { archive with book := (archive.book.post kept sender recipient key content id).2 } :=
  le_iff.mpr ⟨archive.book.prefix_post kept sender recipient key content id, fun _ h => h⟩

theorem le_receive (archive : Archive A K M I) (ids : List I) : archive ≤ archive.receive ids :=
  le_iff.mpr ⟨fun _ => List.prefix_rfl, fun _ h => Or.inl h⟩

end Archive

end Conversation
