import Mathlib.Data.List.Basic
import Mathlib.Data.List.TakeWhile
import Mathlib.Data.Nat.Digits.Defs
import Mathlib.Tactic.SplitIfs

/-!
# Reading compact JSON

A reader for JSON text without blanks: objects, strings in ASCII with all the escapes, integers and
booleans. What it accepts is JSON, so a writer whose output it accepts writes JSON, and the reader says
what the output stands for. The rules build the text of a value from the texts of its parts.

## Main definitions

* `Value` — the values, with strings as their code units
* `read`
* `Escapes`, `Reads`, `ReadsMember` — a text stands for characters, a value, a member of an object

## Main results

* `escapes_flatMap`, `reads_string`, `reads_integer`, `reads_boolean`, `reads_object`
* `read_of_reads`
-/

namespace JsonReader

/-- A JSON value. -/
inductive Value where
  | boolean (value : Bool)
  | integer (value : ℤ)
  | string (units : List ℕ)
  | object (members : List (List ℕ × Value))

/-! ### The reader -/

/-- The value of a hexadecimal digit. -/
def hexDigitValue (c : Char) : Option ℕ :=
  if '0' ≤ c ∧ c ≤ '9' then some (c.toNat - '0'.toNat)
  else if 'a' ≤ c ∧ c ≤ 'f' then some (c.toNat - 'a'.toNat + 10)
  else if 'A' ≤ c ∧ c ≤ 'F' then some (c.toNat - 'A'.toNat + 10)
  else none

/-- The four digits after a backslash and a `u`. -/
def hexUnit (a b c d : Char) : Option ℕ := do
  let a ← hexDigitValue a
  let b ← hexDigitValue b
  let c ← hexDigitValue c
  let d ← hexDigitValue d
  return ((a * 16 + b) * 16 + c) * 16 + d

/-- What a backslash and a single character stand for. -/
def escapedUnit (c : Char) : Option ℕ :=
  if c = '"' ∨ c = '\\' ∨ c = '/' then some c.toNat
  else if c = 'b' then some 8
  else if c = 'f' then some 12
  else if c = 'n' then some 10
  else if c = 'r' then some 13
  else if c = 't' then some 9
  else none

/-- More units at the front. -/
def prependUnits (units : List ℕ) (r : List ℕ × List Char) : List ℕ × List Char :=
  (units ++ r.1, r.2)

/-- A string after its first quote, and what comes after it. -/
def readString : List Char → Option (List ℕ × List Char)
  | [] => none
  | c :: cs =>
    if c = '"' then some ([], cs)
    else if c = '\\' then match cs with
      | 'u' :: h₁ :: h₂ :: h₃ :: h₄ :: cs =>
        (hexUnit h₁ h₂ h₃ h₄).bind fun unit => (readString cs).map (prependUnits [unit])
      | e :: cs => (escapedUnit e).bind fun unit => (readString cs).map (prependUnits [unit])
      | [] => none
    else if ' ' ≤ c ∧ c ≤ '~' then (readString cs).map (prependUnits [c.toNat])
    else none

/-- A natural number without superfluous zeros, and what comes after it. -/
def readNatural (cs : List Char) : Option (ℕ × List Char) :=
  let digits := cs.takeWhile Char.isDigit
  if digits = [] ∨ digits.head? = some '0' ∧ digits ≠ ['0'] then none
  else some (Nat.ofDigitChars 10 digits 0, cs.dropWhile Char.isDigit)

/-- An integer, and what comes after it. -/
def readInteger : List Char → Option (ℤ × List Char)
  | '-' :: cs => (readNatural cs).map fun r => (-r.1, r.2)
  | cs => (readNatural cs).map fun r => (r.1, r.2)

/-- What comes after a character that must be there. -/
def expect (c : Char) (cs : List Char) : Option (List Char) :=
  if cs.head? = some c then some cs.tail else none

mutual

/-- A value, and what comes after it; the fuel bounds its length. -/
def readValue : ℕ → List Char → Option (Value × List Char)
  | 0, _ => none
  | fuel + 1, cs =>
    if cs.head? = some '"' then (readString cs.tail).map fun r => (.string r.1, r.2)
    else if cs.head? = some '\x7b' then
      if cs.tail.head? = some '\x7d' then some (.object [], cs.tail.tail)
      else (readMembers fuel cs.tail).map fun r => (.object r.1, r.2)
    else if "true".toList.isPrefixOf cs then some (.boolean true, cs.drop 4)
    else if "false".toList.isPrefixOf cs then some (.boolean false, cs.drop 5)
    else (readInteger cs).map fun r => (.integer r.1, r.2)

/-- The members of an object, to the closing brace. -/
def readMembers : ℕ → List Char → Option (List (List ℕ × Value) × List Char)
  | 0, _ => none
  | fuel + 1, cs => do
    let cs ← expect '"' cs
    let name ← readString cs
    let cs ← expect ':' name.2
    let value ← readValue fuel cs
    if value.2.head? = some ',' then
      let members ← readMembers fuel value.2.tail
      return ((name.1, value.1) :: members.1, members.2)
    else do
      let cs ← expect '\x7d' value.2
      return ([(name.1, value.1)], cs)

end

/-- **The value of a whole text.** -/
def read (text : List Char) : Option Value :=
  match readValue text.length text with
  | some (value, []) => some value
  | _ => none

/-! ### Strings -/

/-- The text stands for these units inside a string. -/
def Escapes (text : List Char) (units : List ℕ) : Prop :=
  ∀ rest, readString (text ++ rest) = (readString rest).map (prependUnits units)

theorem escapes_nil : Escapes [] [] := by
  intro rest
  have hnil : prependUnits [] = id := rfl
  rw [hnil, Option.map_id, List.nil_append, id]

theorem Escapes.append {a b : List Char} {u w : List ℕ} (ha : Escapes a u) (hb : Escapes b w) :
    Escapes (a ++ b) (u ++ w) := by
  intro rest
  rw [List.append_assoc, ha, hb, Option.map_map]
  refine congrArg (Option.map · _) (funext fun r => ?_)
  simp [prependUnits]

theorem escapes_flatMap {α : Type} {f : α → List Char} {g : α → ℕ} {xs : List α}
    (h : ∀ x ∈ xs, Escapes (f x) [g x]) : Escapes (xs.flatMap f) (xs.map g) := by
  induction xs with
  | nil => exact escapes_nil
  | cons x xs ih =>
    obtain ⟨hx, hxs⟩ := List.forall_mem_cons.mp h
    exact hx.append (ih hxs)

/-- A printable character other than the quote and the backslash stands for itself. -/
theorem escapes_plain {c : Char} (h : ' ' ≤ c ∧ c ≤ '~') (hquote : c ≠ '"') (hslash : c ≠ '\\') :
    Escapes [c] [c.toNat] := by
  intro rest
  rw [List.singleton_append, readString.eq_def]
  simp only [hquote, hslash, h, if_false, and_self, if_true]

theorem escapes_plains {cs : List Char}
    (h : ∀ c ∈ cs, (' ' ≤ c ∧ c ≤ '~') ∧ c ≠ '"' ∧ c ≠ '\\') : Escapes cs (cs.map Char.toNat) := by
  have hmap : cs.flatMap (fun c => [c]) = cs := List.flatMap_singleton' cs
  have hescapes : Escapes (cs.flatMap fun c => [c]) (cs.map Char.toNat) :=
    escapes_flatMap fun c hc => escapes_plain (h c hc).1 (h c hc).2.1 (h c hc).2.2
  rwa [hmap] at hescapes

/-- A backslash before a quote or a backslash. -/
theorem escapes_escaped {c : Char} (h : c = '"' ∨ c = '\\') : Escapes ['\\', c] [c.toNat] := by
  intro rest
  rcases h with rfl | rfl <;> simp [readString, escapedUnit]

/-- Four hexadecimal digits. -/
theorem escapes_unit {a b c d : Char} {unit : ℕ} (h : hexUnit a b c d = some unit) :
    Escapes ['\\', 'u', a, b, c, d] [unit] := by
  intro rest
  simp [readString, h]

/-- A string up to its last quote. -/
theorem Escapes.readString {text : List Char} {units : List ℕ} (h : Escapes text units)
    (rest : List Char) : readString (text ++ '"' :: rest) = some (units, rest) := by
  have hquote : JsonReader.readString ('"' :: rest) = some ([], rest) := by
    rw [JsonReader.readString.eq_def]
    rfl
  rw [h, hquote]
  simp [prependUnits]

/-! ### Values -/

/-- What follows is not a part of a number. -/
def Delimited (rest : List Char) : Prop := ∀ c ∈ rest.head?, c.isDigit = false

/-- The text stands for the value. -/
def Reads (text : List Char) (value : Value) : Prop :=
  ∀ fuel rest, text.length ≤ fuel → Delimited rest → readValue fuel (text ++ rest) = some (value, rest)

theorem reads_string {text : List Char} {units : List ℕ} (h : Escapes text units) :
    Reads ('"' :: text ++ ['"']) (.string units) := by
  intro fuel rest hlen _
  cases fuel with
  | zero => cases hlen
  | succ fuel =>
    have htext : ('"' :: text ++ ['"']) ++ rest = '"' :: (text ++ '"' :: rest) := by simp
    rw [htext, readValue]
    simp [h.readString]

theorem reads_boolean (value : Bool) : Reads (toString value).toList (.boolean value) := by
  intro fuel rest hlen _
  cases fuel with
  | zero => cases value <;> cases hlen
  | succ fuel => cases value <;> rfl

/-- Only zero begins with a zero. -/
theorem head?_toDigits {n : ℕ} (h : 0 < n) : (Nat.toDigits 10 n).head? ≠ some '0' := by
  induction n using Nat.strong_induction_on with
  | _ n ih =>
    by_cases hlt : n < 10
    · rw [Nat.toDigits_of_lt_base hlt]
      have hall : ∀ k < 10, 0 < k → [k.digitChar].head? ≠ some '0' := by decide
      exact hall n hlt h
    · rw [Nat.toDigits_of_base_le (by decide) (not_lt.mp hlt),
        List.head?_append_of_ne_nil _ Nat.toDigits_ne_nil]
      exact ih (n / 10) (by omega) (by omega)

/-- The digits of a number are read. -/
theorem readNatural_toDigits (n : ℕ) {rest : List Char} (h : Delimited rest) :
    readNatural (Nat.toDigits 10 n ++ rest) = some (n, rest) := by
  have hdigits : ∀ c ∈ Nat.toDigits 10 n, c.isDigit = true :=
    fun c hc => Nat.isDigit_of_mem_toDigits (by decide) (by decide) hc
  have htake : (Nat.toDigits 10 n ++ rest).takeWhile Char.isDigit = Nat.toDigits 10 n := by
    rw [List.takeWhile_append_of_pos hdigits]
    cases rest with
    | nil => simp
    | cons c rest => simp [h c rfl]
  have hdrop : (Nat.toDigits 10 n ++ rest).dropWhile Char.isDigit = rest := by
    rw [List.dropWhile_append_of_pos hdigits]
    cases rest with
    | nil => rfl
    | cons c rest => simp [h c rfl]
  have hzero : ¬ (Nat.toDigits 10 n = [] ∨
      (Nat.toDigits 10 n).head? = some '0' ∧ Nat.toDigits 10 n ≠ ['0']) := by
    rw [not_or, not_and]
    refine ⟨Nat.toDigits_ne_nil, fun hhead hne => ?_⟩
    rcases Nat.eq_zero_or_pos n with rfl | hpos
    · exact hne rfl
    · exact head?_toDigits hpos hhead
  rw [readNatural, htake, hdrop]
  simp only [if_neg hzero, Nat.ofDigitChars_ten_toDigits]

/-- Digits are not the beginning of anything else. -/
theorem ne_of_isDigit {c d : Char} (hc : c.isDigit = true) (hd : d.isDigit = false) : c ≠ d := by
  rintro rfl
  rw [hc] at hd
  cases hd

theorem readInteger_toDigits (n : ℕ) {rest : List Char} (h : Delimited rest) :
    readInteger (Nat.toDigits 10 n ++ rest) = some ((n : ℤ), rest) := by
  have hread := readNatural_toDigits n h
  obtain ⟨c, cs, hcs⟩ := List.exists_cons_of_ne_nil (Nat.toDigits_ne_nil (n := n) (b := 10))
  have hc : c.isDigit = true := Nat.isDigit_of_mem_toDigits (by decide) (by decide)
    (hcs ▸ List.mem_cons_self ..)
  rw [hcs, List.cons_append] at hread ⊢
  rw [readInteger, hread]
  · rfl
  · intro cs' he
    exact ne_of_isDigit hc (by decide) (List.cons.inj he).1

/-- What begins with a digit or a minus sign is a number. -/
theorem readValue_number {c : Char} (hc : c.isDigit = true ∨ c = '-') (fuel : ℕ) (cs : List Char) :
    readValue (fuel + 1) (c :: cs) = (readInteger (c :: cs)).map fun r => (.integer r.1, r.2) := by
  have hne : c ≠ '"' ∧ c ≠ '\x7b' ∧ c ≠ 't' ∧ c ≠ 'f' := by
    rcases hc with hc | rfl
    · exact ⟨ne_of_isDigit hc (by decide), ne_of_isDigit hc (by decide), ne_of_isDigit hc (by decide),
        ne_of_isDigit hc (by decide)⟩
    · decide
  obtain ⟨hquote, hbrace, ht, hf⟩ := hne
  rw [readValue]
  simp [hquote, hbrace, Ne.symm ht, Ne.symm hf]

theorem toList_ofNat (n : ℕ) : (toString (Int.ofNat n)).toList = Nat.toDigits 10 n := Nat.toList_repr

theorem toList_negSucc (n : ℕ) :
    (toString (Int.negSucc n)).toList = '-' :: Nat.toDigits 10 (n + 1) := by
  have hrepr : toString (Int.negSucc n) = "-" ++ (n + 1).repr := rfl
  rw [hrepr, String.toList_append, Nat.toList_repr]
  rfl

/-- The characters of a decimal text. -/
theorem isDigit_or_of_mem {n : ℤ} {c : Char} (h : c ∈ (toString n).toList) :
    c.isDigit = true ∨ c = '-' := by
  cases n with
  | ofNat n =>
    rw [toList_ofNat] at h
    exact .inl (Nat.isDigit_of_mem_toDigits (by decide) (by decide) h)
  | negSucc n =>
    rw [toList_negSucc] at h
    rcases List.mem_cons.mp h with rfl | h
    · exact .inr rfl
    · exact .inl (Nat.isDigit_of_mem_toDigits (by decide) (by decide) h)

/-- **The decimal text of an integer.** -/
theorem reads_integer (n : ℤ) : Reads (toString n).toList (.integer n) := by
  intro fuel rest hlen hrest
  cases n with
  | ofNat n =>
    rw [toList_ofNat] at hlen ⊢
    obtain ⟨c, cs, hcs⟩ := List.exists_cons_of_ne_nil (Nat.toDigits_ne_nil (n := n) (b := 10))
    have hc : c.isDigit = true := Nat.isDigit_of_mem_toDigits (by decide) (by decide)
      (hcs ▸ List.mem_cons_self ..)
    have hread := readInteger_toDigits n hrest
    rw [hcs] at hlen
    rw [hcs, List.cons_append] at hread ⊢
    cases fuel with
    | zero => cases hlen
    | succ fuel =>
      rw [readValue_number (.inl hc), hread]
      rfl
  | negSucc n =>
    rw [toList_negSucc] at hlen ⊢
    cases fuel with
    | zero => cases hlen
    | succ fuel =>
      rw [List.cons_append, readValue_number (.inr rfl), readInteger, readNatural_toDigits _ hrest]
      rfl

/-! ### Objects -/

/-- The text stands for a member of an object. -/
def ReadsMember (text : List Char) (member : List ℕ × Value) : Prop :=
  ∃ name value, text = '"' :: name ++ '"' :: ':' :: value ∧ Escapes name member.1 ∧
    Reads value member.2

theorem delimited_cons {c : Char} {rest : List Char} (h : c.isDigit = false) :
    Delimited (c :: rest) := by
  intro d hd
  obtain rfl := Option.some.inj hd
  exact h

/-- A member is read, up to what follows it. -/
theorem readMembers_member {text : List Char} {member : List ℕ × Value} (h : ReadsMember text member)
    {fuel : ℕ} {rest : List Char} (hlen : text.length ≤ fuel) (hrest : Delimited rest) :
    readMembers (fuel + 1) (text ++ rest) =
      if rest.head? = some ',' then
        (readMembers fuel rest.tail).map fun r => (member :: r.1, r.2)
      else (expect '\x7d' rest).map fun cs => ([member], cs) := by
  obtain ⟨name, value, rfl, hname, hvalue⟩ := h
  obtain ⟨units, v⟩ := member
  have htext : ('"' :: name ++ '"' :: ':' :: value) ++ rest =
      '"' :: (name ++ '"' :: (':' :: (value ++ rest))) := by simp
  have hquote : expect '"' ('"' :: (name ++ '"' :: (':' :: (value ++ rest)))) =
      some (name ++ '"' :: (':' :: (value ++ rest))) := rfl
  have hcolon : expect ':' (':' :: (value ++ rest)) = some (value ++ rest) := rfl
  have hread : readValue fuel (value ++ rest) = some (v, rest) := by
    refine hvalue fuel rest ?_ hrest
    simp only [List.length_append, List.length_cons] at hlen
    omega
  rw [htext, readMembers, hquote]
  simp only [bind, Option.bind, pure, hname.readString, hcolon, hread]
  split_ifs
  · cases readMembers fuel rest.tail <;> rfl
  · cases expect '\x7d' rest <;> rfl

/-- The members of an object, to its closing brace. -/
theorem readMembers_intercalate {texts : List (List Char)} {members : List (List ℕ × Value)}
    (h : List.Forall₂ ReadsMember texts members) (hne : texts ≠ []) {fuel : ℕ}
    (hlen : (List.intercalate [','] texts).length < fuel) (rest : List Char) :
    readMembers fuel (List.intercalate [','] texts ++ '\x7d' :: rest) = some (members, rest) := by
  induction h generalizing fuel with
  | nil => exact absurd rfl hne
  | @cons text member texts members hmember htexts ih =>
    cases fuel with
    | zero => cases hlen
    | succ fuel =>
      cases htexts with
      | nil =>
        rw [List.intercalate_singleton] at hlen ⊢
        rw [readMembers_member hmember (Nat.le_of_lt_succ hlen) (delimited_cons (by decide))]
        simp [expect]
      | cons hmember' htexts' =>
        rw [List.intercalate_cons_cons] at hlen ⊢
        simp only [List.length_append, List.length_singleton] at hlen
        have hlength : text.length ≤ fuel := by omega
        rw [List.append_assoc, List.append_assoc, List.singleton_append,
          readMembers_member hmember hlength (delimited_cons (by decide))]
        simp only [List.head?_cons, if_true, List.tail_cons]
        rw [ih (List.cons_ne_nil _ _) (by omega)]
        rfl

/-- **The text of an object.** -/
theorem reads_object {texts : List (List Char)} {members : List (List ℕ × Value)}
    (h : List.Forall₂ ReadsMember texts members) :
    Reads ('\x7b' :: List.intercalate [','] texts ++ ['\x7d']) (.object members) := by
  intro fuel rest hlen _
  cases fuel with
  | zero => cases hlen
  | succ fuel =>
    have htext : ('\x7b' :: List.intercalate [','] texts ++ ['\x7d']) ++ rest =
        '\x7b' :: (List.intercalate [','] texts ++ '\x7d' :: rest) := by simp
    rw [htext, readValue]
    by_cases hne : texts = []
    · subst hne
      cases h
      rfl
    · have hlen' : (List.intercalate [','] texts).length < fuel := by
        simp only [List.length_append, List.length_cons, List.length_nil] at hlen
        omega
      have hmembers := readMembers_intercalate h hne hlen' rest
      have hquote : (List.intercalate [','] texts ++ '\x7d' :: rest).head? ≠ some '\x7d' := by
        obtain ⟨text, texts', rfl⟩ := List.exists_cons_of_ne_nil hne
        cases h with
        | cons hmember htexts =>
          obtain ⟨name, value, rfl, -⟩ := hmember
          cases texts' <;> simp
      have hbrace : ('\x7b' :: (List.intercalate [','] texts ++ '\x7d' :: rest)).head? ≠ some '"' := by
        simp
      rw [if_neg hbrace, if_pos (List.head?_cons ..), List.tail_cons, if_neg hquote, hmembers]
      rfl

/-- **A text that stands for a value is read.** -/
theorem read_of_reads {text : List Char} {value : Value} (h : Reads text value) :
    read text = some value := by
  have hread := h text.length [] le_rfl (by simp [Delimited])
  rw [List.append_nil] at hread
  rw [read, hread]

end JsonReader
