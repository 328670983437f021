import ChatBackend.Uuid

/-!
# Array literals

`EnvelopeRepository::ackEnvelopes` hands its identifiers to the server as the text of an array,
assembled by hand. The server reads it as `uuid[]`: the elements between the braces, separated by
commas, each of them a uuid. It also knows quotes, escapes, nested arrays and blanks, none of which
the text of a uuid contains; texts with these are outside this model.

## Main definitions

* `arrayLiteral` — the text
* `uuidIn`, `uuidArrayIn` — PostgreSQL's input functions

## Main results

* `uuidArrayIn_arrayLiteral`
-/

namespace ChatBackend

/-! ### Writing -/

/-- The loop of `ackEnvelopes` over the identifiers, which appends to `ids`. -/
def appendIds : (ids : List Char) → List Uuid → List Char
  | ids, [] => ids
  | ids, id :: rest => appendIds ((if 1 < ids.length then ids ++ [','] else ids) ++ id.chars) rest

/-- The array literal of the identifiers. -/
def arrayLiteral (ids : List Uuid) : List Char := appendIds ['{'] ids ++ ['}']

/-- The elements are separated by commas. -/
theorem arrayLiteral_eq (ids : List Uuid) :
    arrayLiteral ids = '{' :: (List.intercalate [','] (ids.map Uuid.chars) ++ ['}']) := by
  have later : ∀ (ids : List Uuid) (text : List Char), 1 < text.length →
      appendIds text ids = text ++ ids.flatMap fun id => ',' :: id.chars := by
    intro ids
    induction ids with
    | nil => exact fun text _ => (List.append_nil text).symm
    | cons id ids ih =>
      intro text h
      have hlen : 1 < ((text ++ [',']) ++ id.chars).length := by
        simp only [List.length_append]
        omega
      rw [appendIds, if_pos h, ih _ hlen, List.flatMap_cons]
      simp
  have joined : ∀ (id : Uuid) (ids : List Uuid), List.intercalate [','] ((id :: ids).map Uuid.chars) =
      id.chars ++ ids.flatMap fun id => ',' :: id.chars := by
    intro id ids
    induction ids generalizing id with
    | nil => simp [List.intercalate]
    | cons id' ids ih =>
      have hrest := ih id'
      simp only [List.intercalate, List.map_cons, List.intersperse_cons_cons, List.flatten_cons] at hrest ⊢
      rw [hrest, List.flatMap_cons]
      simp
  rw [arrayLiteral]
  rcases ids with _ | ⟨id, ids⟩
  · rfl
  · have hlen : 1 < (['{'] ++ id.chars).length := by
      rw [List.length_append, Uuid.length_chars]
      decide
    rw [joined, appendIds, if_neg (by decide), later ids _ hlen]
    simp

/-! ### Reading -/

/-- The bytes of a uuid, of which `left` are still to come; a dash may follow every second byte but
the last. -/
def uuidBytes : (left : ℕ) → (value : ℕ) → List Char → Option (ℕ × List Char)
  | 0, value, cs => some (value, cs)
  | left + 1, value, high :: low :: rest => do
    let byte ← byteOfHex high low
    let rest := if left % 2 = 0 ∧ 0 < left ∧ rest.head? = some '-' then rest.tail else rest
    uuidBytes left (256 * value + byte.toNat) rest
  | _, _, _ => none

/-- PostgreSQL's `uuid_in`. -/
def uuidIn (cs : List Char) : Option Uuid :=
  match cs with
  | '{' :: rest => match uuidBytes 16 0 rest with
    | some (value, ['}']) => some (Fin.ofNat _ value)
    | _ => none
  | cs => match uuidBytes 16 0 cs with
    | some (value, []) => some (Fin.ofNat _ value)
    | _ => none

/-- What an element without quotes must not contain. -/
def arraySpecials : List Char := ['{', '}', ',', '"', '\\', ' ', '\t', '\n', '\r', '\x0b', '\x0c']

/-- PostgreSQL's `array_in`, of `uuid[]` and elements without quotes. -/
def uuidArrayIn : List Char → Option (List Uuid)
  | '{' :: rest =>
    if rest = ['}'] then some []
    else if rest.getLast? = some '}' then
      (rest.dropLast.splitOn ',').mapM fun element =>
        if element.all fun c => c ∉ arraySpecials then uuidIn element else none
    else none
  | _ => none

/-! ### Round trip -/

open Uuid

theorem uuidBytes_byteChars {n k : ℕ} {rest rest' : List Char}
    (h : (if k % 2 = 0 ∧ 0 < k ∧ rest.head? = some '-' then rest.tail else rest) = rest') :
    uuidBytes (k + 1) (n / 256 ^ (k + 1)) (byteChars n k ++ rest) = uuidBytes k (n / 256 ^ k) rest' := by
  simp only [uuidBytes, byteChars, hexOfByte, List.cons_append, List.nil_append,
    byteOfHex_hexDigit, Option.bind_eq_bind, Option.bind_some, h]
  exact congrArg (uuidBytes k · rest') (value_step n k)

/-- A byte that is followed by another one. -/
theorem uuidBytes_next {n k j : ℕ} {rest : List Char} :
    uuidBytes (k + 1) (n / 256 ^ (k + 1)) (byteChars n k ++ (byteChars n j ++ rest)) =
      uuidBytes k (n / 256 ^ k) (byteChars n j ++ rest) := by
  refine uuidBytes_byteChars (if_neg ?_)
  rintro ⟨-, -, hdash⟩
  exact hexDigit_ne_of_lt (high_lt _) (Or.inl rfl) (Option.some.inj hdash)

/-- A byte that is followed by a dash. -/
theorem uuidBytes_dash {n k : ℕ} {rest : List Char} (h : k % 2 = 0 ∧ 0 < k := by decide) :
    uuidBytes (k + 1) (n / 256 ^ (k + 1)) (byteChars n k ++ '-' :: rest) =
      uuidBytes k (n / 256 ^ k) rest :=
  uuidBytes_byteChars (if_pos ⟨h.1, h.2, rfl⟩)

theorem uuidBytes_chars (u : Uuid) : uuidBytes 16 0 u.chars = some (u.val, []) := by
  have hzero : u.val / 256 ^ (15 + 1) = 0 := Nat.div_eq_of_lt (u.isLt.trans_eq (by norm_num))
  have hstart : ∀ cs, uuidBytes 16 0 cs = uuidBytes (15 + 1) (u.val / 256 ^ (15 + 1)) cs :=
    fun cs => by rw [hzero]
  have hlast : uuidBytes (0 + 1) (u.val / 256 ^ (0 + 1)) (byteChars u.val 0 ++ []) =
      uuidBytes 0 (u.val / 256 ^ 0) [] := uuidBytes_byteChars rfl
  rw [List.append_nil] at hlast
  simp only [chars, bytesChars, List.flatMap_cons, List.flatMap_nil, List.append_nil,
    List.append_assoc]
  rw [hstart, uuidBytes_next, uuidBytes_next, uuidBytes_next, uuidBytes_dash, uuidBytes_next,
    uuidBytes_dash, uuidBytes_next, uuidBytes_dash, uuidBytes_next, uuidBytes_dash, uuidBytes_next,
    uuidBytes_next, uuidBytes_next, uuidBytes_next, ← List.append_nil (byteChars u.val 0),
    uuidBytes_next, List.append_nil, hlast, uuidBytes, pow_zero, Nat.div_one]

/-- The text of a uuid is a string of digits and dashes. -/
theorem mem_chars {u : Uuid} {c : Char} (h : c ∈ u.chars) : c = '-' ∨ ∃ n < 16, c = hexDigit n := by
  have hbytes : ∀ ks, c ∈ bytesChars u ks → c = '-' ∨ ∃ n < 16, c = hexDigit n := by
    intro ks hc
    obtain ⟨k, -, hk⟩ := List.mem_flatMap.mp hc
    simp only [byteChars, hexOfByte, List.mem_cons, List.not_mem_nil, or_false] at hk
    rcases hk with rfl | rfl
    · exact Or.inr ⟨_, high_lt _, rfl⟩
    · exact Or.inr ⟨_, Nat.mod_lt _ (by decide), rfl⟩
  simp only [chars, List.mem_append, List.mem_cons] at h
  rcases h with h | h | h | h | h | h | h | h | h
  all_goals first | exact Or.inl h | exact hbytes _ h

theorem chars_plain (u : Uuid) : ∀ c ∈ u.chars, c ∉ arraySpecials := by
  have digits : ∀ n < 16, hexDigit n ∉ arraySpecials := by decide
  intro c hc
  rcases mem_chars hc with rfl | ⟨n, hn, rfl⟩
  · decide
  · exact digits n hn

theorem uuidIn_chars (u : Uuid) : uuidIn u.chars = some u := by
  have hhead : ∀ rest, u.chars ≠ '{' :: rest := by
    intro rest h
    refine chars_plain u '{' ?_ (List.mem_cons_self ..)
    rw [h]
    exact List.mem_cons_self ..
  rw [uuidIn]
  · rw [uuidBytes_chars]
    simp
  · exact hhead

/-- Elements that are read one by one are read together. -/
theorem mapM_map_chars {f : List Char → Option Uuid} (h : ∀ u : Uuid, f u.chars = some u)
    (ids : List Uuid) : (ids.map Uuid.chars).mapM f = some ids := by
  induction ids with
  | nil => rfl
  | cons id ids ih =>
    rw [List.map_cons, List.mapM_cons, h, ih]
    rfl

/-- **The server reads the identifiers that were written.** -/
theorem uuidArrayIn_arrayLiteral (ids : List Uuid) :
    uuidArrayIn (arrayLiteral ids) = some ids := by
  rw [arrayLiteral_eq]
  rcases ids with _ | ⟨id, ids⟩
  · rfl
  · have helements : ∀ l ∈ (id :: ids).map Uuid.chars, ',' ∉ l := by
      intro l hl hcomma
      obtain ⟨u, -, rfl⟩ := List.mem_map.mp hl
      exact chars_plain u ',' hcomma (by decide)
    have hsplit := List.splitOn_intercalate ',' helements (List.cons_ne_nil _ _)
    have hne : List.intercalate [','] ((id :: ids).map Uuid.chars) ++ ['}'] ≠ ['}'] := by
      intro h
      have hnil := List.append_cancel_right (h.trans (List.nil_append _).symm)
      rw [hnil] at hsplit
      have hone := List.cons.inj hsplit
      have hlen := congrArg List.length hone.1
      rw [Uuid.length_chars] at hlen
      cases hlen
    rw [uuidArrayIn, if_neg hne, if_pos (by simp), List.dropLast_concat, hsplit]
    refine mapM_map_chars (fun u => ?_) _
    rw [if_pos, uuidIn_chars]
    exact List.all_eq_true.mpr fun c hc => decide_eq_true (chars_plain u c hc)

end ChatBackend
