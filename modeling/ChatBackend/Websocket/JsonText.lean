import ChatBackend.Websocket.Json
import Mathlib.Data.String.Basic
import Mathlib.Tactic.Linarith

/-!
# The text of a JSON value

`nlohmann::json::dump` as the workers call it, without indentation and leaving all but ASCII control
characters, quotes and backslashes as they are. An object is a `std::map`: it keeps the first value
of a key and is written in the order of its keys.

## Main definitions

* `Json.dump`
* `utf8Length` — the bytes of a text

## Main results

* `Json.utf8Length_quote_le` — a quoted text is at most six times as long
* `Json.utf8Length_dump_object_le` — an object is no longer than its fields
-/

namespace ChatBackend

namespace Json

/-! ### Writing -/

/-- One character of a string, by `dump_escaped`. -/
def escapeChar (c : Char) : List Char :=
  match c.toNat with
  | 0x08 => "\\b".toList
  | 0x09 => "\\t".toList
  | 0x0A => "\\n".toList
  | 0x0C => "\\f".toList
  | 0x0D => "\\r".toList
  | 0x22 => "\\\"".toList
  | 0x5C => "\\\\".toList
  | n => if n ≤ 0x1F then "\\u00".toList ++ hexOfByte (UInt8.ofNat n) else [c]

/-- A string in quotes. -/
def quote (text : String) : List Char := '"' :: (text.toList.flatMap escapeChar ++ ['"'])

/-- `std::map::emplace`: an entry at the place of its key, unless there is one. -/
def emplace (entry : String × List Char) : List (String × List Char) → List (String × List Char)
  | [] => [entry]
  | first :: rest =>
    if entry.1 < first.1 then entry :: first :: rest
    else if entry.1 = first.1 then first :: rest
    else first :: emplace entry rest

/-- The object built from a list of entries. -/
def mapOf (entries : List (String × List Char)) : List (String × List Char) :=
  entries.foldl (fun map entry => emplace entry map) []

/-- An entry of an object. -/
def member (entry : String × List Char) : List Char := quote entry.1 ++ ':' :: entry.2

mutual

/-- `dump`; `dtoa` is the text of a `double`. -/
def dump (dtoa : UInt64 → String) : Json → List Char
  | null => "null".toList
  | boolean value => if value then "true".toList else "false".toList
  | unsigned value => (toString value.toNat).toList
  | integer value => (toString value.toInt).toList
  | double bits => (dtoa bits).toList
  | string value => quote value
  | array elements => '[' :: (List.intercalate [','] (dumpAll dtoa elements) ++ [']'])
  | object fields =>
    '{' :: (List.intercalate [','] ((mapOf (dumpFields dtoa fields)).map member) ++ ['}'])

/-- The texts of the elements of an array. -/
def dumpAll (dtoa : UInt64 → String) : List Json → List (List Char)
  | [] => []
  | element :: elements => dump dtoa element :: dumpAll dtoa elements

/-- The texts of the values of an object. -/
def dumpFields (dtoa : UInt64 → String) : List (String × Json) → List (String × List Char)
  | [] => []
  | (field, value) :: fields => (field, dump dtoa value) :: dumpFields dtoa fields

end

/-! ### Lengths -/

end Json

/-- The bytes of a text. -/
def utf8Length (cs : List Char) : ℕ := (cs.map Char.utf8Size).sum

theorem length_utf8 (text : String) : (utf8 text).length = utf8Length text.toList := by
  rw [utf8, utf8Length, List.length_flatMap]
  simp only [String.length_utf8EncodeChar]

@[simp] theorem utf8Length_nil : utf8Length [] = 0 := rfl

@[simp] theorem utf8Length_cons (c : Char) (cs : List Char) :
    utf8Length (c :: cs) = c.utf8Size + utf8Length cs := by
  simp [utf8Length]

@[simp] theorem utf8Length_append (cs cs' : List Char) :
    utf8Length (cs ++ cs') = utf8Length cs + utf8Length cs' := by
  simp [utf8Length]

/-- ASCII text has a byte for each character. -/
theorem utf8Length_of_ascii {cs : List Char} (h : ∀ c ∈ cs, c.utf8Size = 1) :
    utf8Length cs = cs.length := by
  induction cs with
  | nil => rfl
  | cons c cs ih =>
    obtain ⟨hc, hcs⟩ := List.forall_mem_cons.mp h
    rw [utf8Length_cons, hc, ih hcs, List.length_cons, add_comm]

namespace Json

/-- The longest escape has six characters, all of them ASCII. -/
theorem utf8Length_escapeChar_le (c : Char) : utf8Length (escapeChar c) ≤ 6 * c.utf8Size := by
  have hpos : 0 < c.utf8Size := c.utf8Size_pos
  have escape : ∀ cs : List Char, (∀ c ∈ cs, c.utf8Size = 1) → cs.length ≤ 6 →
      utf8Length cs ≤ 6 * c.utf8Size := by
    intro cs hcs hlen
    rw [utf8Length_of_ascii hcs]
    omega
  unfold escapeChar
  split
  · exact escape _ (forall_mem_of_all (by decide)) (by decide)
  · exact escape _ (forall_mem_of_all (by decide)) (by decide)
  · exact escape _ (forall_mem_of_all (by decide)) (by decide)
  · exact escape _ (forall_mem_of_all (by decide)) (by decide)
  · exact escape _ (forall_mem_of_all (by decide)) (by decide)
  · exact escape _ (forall_mem_of_all (by decide)) (by decide)
  · exact escape _ (forall_mem_of_all (by decide)) (by decide)
  · split_ifs
    · refine escape _ (fun c hc => ?_) (by rfl)
      rcases List.mem_append.mp hc with hc | hc
      · exact (forall_mem_of_all (by decide) : ∀ c ∈ "\\u00".toList, c.utf8Size = 1) c hc
      · simp only [hexOfByte, List.mem_cons, List.not_mem_nil, or_false] at hc
        rcases hc with rfl | rfl <;> exact utf8Size_hexDigit _
    · rw [utf8Length_cons, utf8Length_nil]
      omega

theorem utf8Length_flatMap_escapeChar_le (cs : List Char) :
    utf8Length (cs.flatMap escapeChar) ≤ 6 * utf8Length cs := by
  induction cs with
  | nil => rfl
  | cons c cs ih =>
    have hc := utf8Length_escapeChar_le c
    rw [List.flatMap_cons, utf8Length_append, utf8Length_cons]
    omega

theorem utf8Length_quote (text : String) :
    utf8Length (quote text) = utf8Length (text.toList.flatMap escapeChar) + 2 := by
  have hquote : ('"' : Char).utf8Size = 1 := rfl
  rw [quote, utf8Length_cons, utf8Length_append, utf8Length_cons, utf8Length_nil, hquote]
  omega

/-- **Escaping makes a text at most six times as long.** -/
theorem utf8Length_quote_le (text : String) :
    utf8Length (quote text) ≤ 6 * (utf8 text).length + 2 := by
  rw [utf8Length_quote, length_utf8]
  exact Nat.add_le_add_right (utf8Length_flatMap_escapeChar_le _) 2

/-- Text that needs no escapes gets none. -/
theorem utf8Length_quote_of_plain {text : String} (h : ∀ c ∈ text.toList, escapeChar c = [c]) :
    utf8Length (quote text) = (utf8 text).length + 2 := by
  have hsame : text.toList.flatMap escapeChar = text.toList :=
    (List.flatMap_congr h).trans (List.flatMap_singleton' _)
  rw [utf8Length_quote, hsame, length_utf8]

/-- Elements and the commas between them. -/
theorem utf8Length_intercalate_le (texts : List (List Char)) :
    utf8Length (List.intercalate [','] texts) ≤ (texts.map fun text => utf8Length text + 1).sum := by
  have hcomma : (',' : Char).utf8Size = 1 := rfl
  induction texts with
  | nil => exact Nat.zero_le _
  | cons text texts ih =>
    rcases texts with _ | ⟨text', texts⟩
    · simp [List.intercalate]
    · have hstep : List.intercalate [','] (text :: text' :: texts) =
          text ++ ',' :: List.intercalate [','] (text' :: texts) := by
        simp [List.intercalate]
      rw [hstep, utf8Length_append, utf8Length_cons, hcomma, List.map_cons, List.sum_cons]
      omega

/-- The length of an entry and its comma. -/
def memberLength (entry : String × List Char) : ℕ := utf8Length (member entry) + 1

theorem sum_emplace_le (entry : String × List Char) (map : List (String × List Char)) :
    ((emplace entry map).map memberLength).sum ≤ memberLength entry + (map.map memberLength).sum := by
  induction map with
  | nil => exact le_rfl
  | cons first rest ih =>
    rw [emplace]
    split_ifs
    · exact le_rfl
    · exact Nat.le_add_left _ _
    · simp only [List.map_cons, List.sum_cons]
      omega

theorem sum_mapOf_le (entries : List (String × List Char)) :
    ((mapOf entries).map memberLength).sum ≤ (entries.map memberLength).sum := by
  have grow : ∀ (entries map : List (String × List Char)),
      ((entries.foldl (fun map entry => emplace entry map) map).map memberLength).sum ≤
        (entries.map memberLength).sum + (map.map memberLength).sum := by
    intro entries
    induction entries with
    | nil => exact fun map => Nat.le_add_left _ _
    | cons entry entries ih =>
      intro map
      have hrest := ih (emplace entry map)
      have hentry := sum_emplace_le entry map
      rw [List.foldl_cons, List.map_cons, List.sum_cons]
      omega
  exact grow entries []

/-- **An object is no longer than its fields.** -/
theorem utf8Length_dump_object_le (dtoa : UInt64 → String) (fields : List (String × Json)) :
    utf8Length (dump dtoa (object fields)) ≤
      ((dumpFields dtoa fields).map memberLength).sum + 2 := by
  have hopen : ('\x7b' : Char).utf8Size = 1 := rfl
  have hclose : ('\x7d' : Char).utf8Size = 1 := rfl
  have htexts := utf8Length_intercalate_le ((mapOf (dumpFields dtoa fields)).map member)
  rw [List.map_map] at htexts
  have hmap : _ ≤ _ := sum_mapOf_le (dumpFields dtoa fields)
  have hlength : (fun text => utf8Length text + 1) ∘ member = memberLength := rfl
  rw [hlength] at htexts
  rw [dump, utf8Length_cons, utf8Length_append, utf8Length_cons, utf8Length_nil, hopen, hclose]
  omega

theorem memberLength_eq (entry : String × List Char) :
    memberLength entry = utf8Length (quote entry.1) + utf8Length entry.2 + 2 := by
  have hcolon : (':' : Char).utf8Size = 1 := rfl
  rw [memberLength, member, utf8Length_append, utf8Length_cons, hcolon]
  omega

/-- A decimal digit is one byte. -/
theorem utf8Size_of_isDigit {c : Char} (h : c.isDigit = true) : c.utf8Size = 1 := by
  rw [Char.isDigit, Bool.and_eq_true, decide_eq_true_eq, decide_eq_true_eq] at h
  rw [Char.utf8Size, if_pos]
  exact UInt32.le_trans h.2 (by decide)

theorem utf8Length_repr_le {n : ℕ} (h : n < 10 ^ 19) : utf8Length n.repr.toList ≤ 19 := by
  have hlen := Nat.length_repr_le_iff (n := n) (k := 19) (by decide)
  rw [utf8Length_of_ascii, String.length_toList]
  · exact hlen.mpr h
  · intro c hc
    rw [Nat.toList_repr] at hc
    exact utf8Size_of_isDigit (Nat.isDigit_of_mem_toDigits (by decide) (by decide) hc)

/-- An `int64` has at most 20 characters. -/
theorem utf8Length_toString_le {n : ℤ} (h₀ : -2 ^ 63 ≤ n) (h₁ : n < 2 ^ 63) :
    utf8Length (toString n).toList ≤ 20 := by
  rcases n with k | k
  · have hk : (toString (Int.ofNat k)).toList = k.repr.toList := rfl
    rw [hk]
    refine (utf8Length_repr_le ?_).trans (by decide)
    rw [Int.ofNat_eq_natCast] at h₁
    omega
  · have hk : toString (Int.negSucc k) = "-" ++ (k + 1).repr := rfl
    have hneg : -2 ^ 63 ≤ -((k : ℤ) + 1) := Int.negSucc_eq k ▸ h₀
    have hlen := utf8Length_repr_le (n := k + 1) (by omega)
    have hdash : utf8Length "-".toList = 1 := rfl
    rw [hk, String.toList_append, utf8Length_append, hdash]
    omega

end Json

end ChatBackend
