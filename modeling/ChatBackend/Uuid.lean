import ChatBackend.Domain
import Mathlib.Algebra.Group.Defs
import Mathlib.Tactic.NormNum

/-!
# Uuid text

`boost::uuids::to_string`, which is also how PostgreSQL prints a uuid, and
`boost::uuids::string_generator`, which reads the canonical form in either case, the same without
any dashes, and both of these in braces.

## Main results

* `Uuid.ofString_toString` — the text of a uuid reads back as that uuid
* `Uuid.toString_injective`
-/

namespace ChatBackend

namespace Uuid

/-- The two digits of byte `k` of a number, counted from its least significant byte. -/
def byteChars (n k : ℕ) : List Char := hexOfByte (UInt8.ofNat (n / 256 ^ k))

/-- The digits of some bytes of a number. -/
def bytesChars (n : ℕ) (ks : List ℕ) : List Char := ks.flatMap (byteChars n)

/-- The 36 characters of a uuid. -/
def chars (u : Uuid) : List Char :=
  bytesChars u [15, 14, 13, 12] ++ '-' :: (bytesChars u [11, 10] ++ '-' :: (bytesChars u [9, 8] ++
    '-' :: (bytesChars u [7, 6] ++ '-' :: bytesChars u [5, 4, 3, 2, 1, 0])))

/-- `boost::uuids::to_string`. -/
def toString (u : Uuid) : String := String.ofList u.chars

/-- The dash before the byte that has `left` bytes after it: whether there is one before byte 4
decides whether there must be one before bytes 6, 8 and 10. -/
def skipDash (left : ℕ) (dashes : Bool) (cs : List Char) : Option (Bool × List Char) :=
  if left = 11 then
    if cs.head? = some '-' then some (true, cs.tail) else some (false, cs)
  else if dashes ∧ (left = 9 ∨ left = 7 ∨ left = 5) then
    if cs.head? = some '-' then some (true, cs.tail) else none
  else some (dashes, cs)

/-- The last `left` bytes of a uuid. -/
def getBytes : (left : ℕ) → (dashes : Bool) → (value : ℕ) → List Char → Option (ℕ × List Char)
  | 0, _, value, cs => some (value, cs)
  | left + 1, dashes, value, cs => match skipDash left dashes cs with
    | some (dashes, high :: low :: rest) => do
      let byte ← byteOfHex high low
      getBytes left dashes (256 * value + byte.toNat) rest
    | _ => none

/-- `boost::uuids::string_generator`, on the characters. -/
def ofChars (cs : List Char) : Option Uuid :=
  match cs with
  | '{' :: rest => match getBytes 16 false 0 rest with
    | some (value, ['}']) => some (Fin.ofNat _ value)
    | _ => none
  | cs => match getBytes 16 false 0 cs with
    | some (value, []) => some (Fin.ofNat _ value)
    | _ => none

/-- `boost::uuids::string_generator`. -/
def ofString (text : String) : Option Uuid := ofChars text.toList

/-! ### Round trip -/

theorem hexDigit_ne_of_lt {n : ℕ} (h : n < 16) {c : Char} (hc : c = '-' ∨ c = '{') :
    hexDigit n ≠ c := by
  have all : ∀ n < 16, hexDigit n ≠ '-' ∧ hexDigit n ≠ '{' := by decide
  rcases hc with rfl | rfl
  · exact (all n h).1
  · exact (all n h).2

theorem high_lt (byte : UInt8) : byte.toNat / 16 < 16 := by
  have := byte.toNat_lt
  omega

theorem value_step (n k : ℕ) :
    256 * (n / 256 ^ (k + 1)) + (UInt8.ofNat (n / 256 ^ k)).toNat = n / 256 ^ k := by
  rw [pow_succ, ← Nat.div_div_eq_div_mul, UInt8.toNat_ofNat']
  exact Nat.div_add_mod _ _

theorem getBytes_succ {n k : ℕ} {dashes dashes' : Bool} {cs rest : List Char}
    (h : skipDash k dashes cs = some (dashes', byteChars n k ++ rest)) :
    getBytes (k + 1) dashes (n / 256 ^ (k + 1)) cs = getBytes k dashes' (n / 256 ^ k) rest := by
  simp only [getBytes, h, byteChars, hexOfByte, List.cons_append, byteOfHex_hexDigit]
  exact congrArg (getBytes k dashes' · rest) (value_step n k)

/-- One byte is read, where no dash is looked for. -/
theorem getBytes_byteChars {n k : ℕ} {dashes : Bool} {rest : List Char}
    (h : k ≠ 11 ∧ k ≠ 9 ∧ k ≠ 7 ∧ k ≠ 5 := by decide) :
    getBytes (k + 1) dashes (n / 256 ^ (k + 1)) (byteChars n k ++ rest) =
      getBytes k dashes (n / 256 ^ k) rest :=
  getBytes_succ (by simp [skipDash, h])

/-- The first dash. -/
theorem getBytes_firstDash {n : ℕ} {dashes : Bool} {rest : List Char} :
    getBytes 12 dashes (n / 256 ^ 12) ('-' :: (byteChars n 11 ++ rest)) =
      getBytes 11 true (n / 256 ^ 11) rest :=
  getBytes_succ (by simp [skipDash])

/-- Another dash. -/
theorem getBytes_dash {n k : ℕ} {rest : List Char} (h : k = 9 ∨ k = 7 ∨ k = 5 := by decide) :
    getBytes (k + 1) true (n / 256 ^ (k + 1)) ('-' :: (byteChars n k ++ rest)) =
      getBytes k true (n / 256 ^ k) rest := by
  have hk : k ≠ 11 := by omega
  exact getBytes_succ (by simp [skipDash, h, hk])

theorem getBytes_chars (u : Uuid) : getBytes 16 false 0 u.chars = some (u.val, []) := by
  have hzero : u.val / 256 ^ (15 + 1) = 0 := Nat.div_eq_of_lt (u.isLt.trans_eq (by norm_num))
  have hstart : ∀ cs, getBytes 16 false 0 cs = getBytes (15 + 1) false (u.val / 256 ^ (15 + 1)) cs :=
    fun cs => by rw [hzero]
  have hlast : getBytes (0 + 1) true (u.val / 256 ^ (0 + 1)) (byteChars u.val 0 ++ []) =
      getBytes 0 true (u.val / 256 ^ 0) [] := getBytes_byteChars
  rw [List.append_nil] at hlast
  simp only [chars, bytesChars, List.flatMap_cons, List.flatMap_nil, List.append_nil,
    List.append_assoc]
  rw [hstart, getBytes_byteChars, getBytes_byteChars, getBytes_byteChars, getBytes_byteChars,
    getBytes_firstDash, getBytes_byteChars, getBytes_dash, getBytes_byteChars, getBytes_dash,
    getBytes_byteChars, getBytes_dash, getBytes_byteChars, getBytes_byteChars, getBytes_byteChars,
    getBytes_byteChars, hlast, getBytes, pow_zero, Nat.div_one]

/-- **The text of a uuid reads back as that uuid.** -/
@[simp] theorem ofString_toString (u : Uuid) : ofString u.toString = some u := by
  have hhead : ∀ rest, u.chars ≠ '{' :: rest := by
    intro rest h
    refine hexDigit_ne_of_lt (high_lt (UInt8.ofNat (u.val / 256 ^ 15))) (Or.inr rfl) ?_
    simpa [chars, bytesChars, byteChars, hexOfByte] using congrArg List.head? h
  rw [ofString, toString, String.toList_ofList, ofChars]
  · rw [getBytes_chars]
    simp
  · exact hhead

theorem toString_injective : Function.Injective toString := fun a b h => by
  simpa using congrArg ofString h

theorem length_chars (u : Uuid) : u.chars.length = 36 := by
  simp [chars, bytesChars, byteChars, hexOfByte]

end Uuid

end ChatBackend
