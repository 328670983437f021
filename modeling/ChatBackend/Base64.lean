import Mathlib.Data.List.GetD
import Mathlib.Data.Nat.Init
import Mathlib.Tactic.SplitIfs

/-!
# Base64

The original alphabet with padding. Three bytes are four sextets; one or two bytes at the end are
padded to four characters, and the bits that the padding leaves over are zero. `decode` accepts
nothing else, so a text stands for bytes in one way only.

## Main definitions

* `charOf`, `valueOf` — the alphabet
* `encode`, `decode`

## Main results

* `decode_encode`, `encode_of_decode` — each undoes the other
-/

namespace Base64

/-! ### The alphabet -/

/-- The character of a sextet. -/
def charOf (n : ℕ) : Char :=
  "ABCDEFGHIJKLMNOPQRSTUVWXYZabcdefghijklmnopqrstuvwxyz0123456789+/".toList.getD n '='

/-- The sextet of a character; padding has none. -/
def valueOf (c : Char) : Option ℕ :=
  if 'A' ≤ c ∧ c ≤ 'Z' then some (c.toNat - 'A'.toNat)
  else if 'a' ≤ c ∧ c ≤ 'z' then some (c.toNat - 'a'.toNat + 26)
  else if '0' ≤ c ∧ c ≤ '9' then some (c.toNat - '0'.toNat + 52)
  else if c = '+' then some 62
  else if c = '/' then some 63
  else none

theorem valueOf_charOf {n : ℕ} (h : n < 64) : valueOf (charOf n) = some n := by
  have all : ∀ n < 64, valueOf (charOf n) = some n := by decide +kernel
  exact all n h

theorem charOf_ne_padding {n : ℕ} (h : n < 64) : charOf n ≠ '=' := by
  intro heq
  have hvalue := valueOf_charOf h
  rw [heq] at hvalue
  cases hvalue

/-- The characters of the alphabet are ASCII. -/
theorem toNat_lt_of_valueOf {c : Char} {n : ℕ} (h : valueOf c = some n) : c.toNat < 128 := by
  unfold valueOf at h
  split_ifs at h with hupper hlower hdigit hplus hslash
  · exact Nat.lt_of_le_of_lt (show c.toNat ≤ 90 from hupper.2) (by decide)
  · exact Nat.lt_of_le_of_lt (show c.toNat ≤ 122 from hlower.2) (by decide)
  · exact Nat.lt_of_le_of_lt (show c.toNat ≤ 57 from hdigit.2) (by decide)
  · rw [hplus]
    decide
  · rw [hslash]
    decide

/-- A character with a sextet is the sextet's character. -/
theorem charOf_of_valueOf {c : Char} {n : ℕ} (h : valueOf c = some n) :
    n < 64 ∧ charOf n = c := by
  have all : ∀ k < 128, ∀ n ∈ valueOf (Char.ofNat k), n < 64 ∧ charOf n = Char.ofNat k := by
    decide +kernel
  have hc := all c.toNat (toNat_lt_of_valueOf h)
  rw [Char.ofNat_toNat] at hc
  exact hc n h

/-! ### Encoding -/

/-- The text of a byte string. -/
def encode : List UInt8 → List Char
  | [] => []
  | [a] => [charOf (a.toNat / 4), charOf (a.toNat % 4 * 16), '=', '=']
  | [a, b] =>
    [charOf (a.toNat / 4), charOf (a.toNat % 4 * 16 + b.toNat / 16), charOf (b.toNat % 16 * 4), '=']
  | a :: b :: c :: rest =>
    charOf (a.toNat / 4) :: charOf (a.toNat % 4 * 16 + b.toNat / 16) ::
      charOf (b.toNat % 16 * 4 + c.toNat / 64) :: charOf (c.toNat % 64) :: encode rest

/-- Every three bytes make four characters, and so do the one or two at the end. -/
theorem length_encode (bytes : List UInt8) :
    (encode bytes).length = 4 * ((bytes.length + 2) / 3) := by
  fun_induction encode bytes with
  | case1 => rfl
  | case2 a => simp
  | case3 a b => simp
  | case4 a b c rest ih =>
    simp only [List.length_cons, ih]
    omega

theorem encode_ne_nil {bytes : List UInt8} (h : bytes ≠ []) : encode bytes ≠ [] := by
  intro hnil
  have hlength := length_encode bytes
  have hpos := List.length_pos_iff.mpr h
  rw [hnil, List.length_nil] at hlength
  omega

/-- A text consists of padding and characters of the alphabet. -/
theorem mem_encode {bytes : List UInt8} {c : Char} (h : c ∈ encode bytes) :
    c = '=' ∨ ∃ n < 64, c = charOf n := by
  have hbyte : ∀ byte : UInt8, byte.toNat < 256 := UInt8.toNat_lt
  have sextet : ∀ {n}, n < 64 → c = charOf n → c = '=' ∨ ∃ n < 64, c = charOf n :=
    fun hn hc => Or.inr ⟨_, hn, hc⟩
  fun_induction encode bytes with
  | case1 => cases h
  | case2 a =>
    have ha := hbyte a
    simp only [List.mem_cons, List.not_mem_nil, or_false] at h
    rcases h with hc | hc | hc | hc
    · exact sextet (by omega) hc
    · exact sextet (by omega) hc
    · exact Or.inl hc
    · exact Or.inl hc
  | case3 a b =>
    have ha := hbyte a
    have hb := hbyte b
    simp only [List.mem_cons, List.not_mem_nil, or_false] at h
    rcases h with hc | hc | hc | hc
    · exact sextet (by omega) hc
    · exact sextet (by omega) hc
    · exact sextet (by omega) hc
    · exact Or.inl hc
  | case4 a b d rest ih =>
    have ha := hbyte a
    have hb := hbyte b
    have hd := hbyte d
    simp only [List.mem_cons] at h
    rcases h with hc | hc | hc | hc | hc
    · exact sextet (by omega) hc
    · exact sextet (by omega) hc
    · exact sextet (by omega) hc
    · exact sextet (by omega) hc
    · exact ih hc

/-! ### Decoding -/

/-- The bytes of four sextets. -/
def ofSextets (x y z w : ℕ) : List UInt8 :=
  [UInt8.ofNat (x * 4 + y / 16), UInt8.ofNat (y % 16 * 16 + z / 4), UInt8.ofNat (z % 4 * 64 + w)]

/-- The bytes of four characters without padding. -/
def decodeFull (a b c d : Char) : Option (List UInt8) := do
  let x ← valueOf a
  let y ← valueOf b
  let z ← valueOf c
  let w ← valueOf d
  some (ofSextets x y z w)

/-- The bytes of the last four characters. With padding, the bits that are left over are zero. -/
def decodeLast (a b c d : Char) : Option (List UInt8) :=
  if c = '=' ∧ d = '=' then do
    let x ← valueOf a
    let y ← valueOf b
    if y % 16 = 0 then some ((ofSextets x y 0 0).take 1) else none
  else if d = '=' then do
    let x ← valueOf a
    let y ← valueOf b
    let z ← valueOf c
    if z % 4 = 0 then some ((ofSextets x y z 0).take 2) else none
  else decodeFull a b c d

/-- The bytes of a text. -/
def decode : List Char → Option (List UInt8)
  | a :: b :: c :: d :: rest =>
    if rest = [] then decodeLast a b c d
    else do
      let bytes ← decodeFull a b c d
      let more ← decode rest
      some (bytes ++ more)
  | [] => some []
  | _ => none

/-- The sextets of three bytes have the three bytes. -/
theorem ofSextets_of_bytes (a b c : UInt8) :
    ofSextets (a.toNat / 4) (a.toNat % 4 * 16 + b.toNat / 16) (b.toNat % 16 * 4 + c.toNat / 64)
      (c.toNat % 64) = [a, b, c] := by
  have ha := a.toNat_lt
  have hb := b.toNat_lt
  have hc := c.toNat_lt
  have h₁ : a.toNat / 4 * 4 + (a.toNat % 4 * 16 + b.toNat / 16) / 16 = a.toNat := by omega
  have h₂ : (a.toNat % 4 * 16 + b.toNat / 16) % 16 * 16 + (b.toNat % 16 * 4 + c.toNat / 64) / 4 =
      b.toNat := by omega
  have h₃ : (b.toNat % 16 * 4 + c.toNat / 64) % 4 * 64 + c.toNat % 64 = c.toNat := by omega
  rw [ofSextets, h₁, h₂, h₃, UInt8.ofNat_toNat, UInt8.ofNat_toNat, UInt8.ofNat_toNat]

theorem decodeFull_charOf {x y z w : ℕ} (hx : x < 64) (hy : y < 64) (hz : z < 64) (hw : w < 64) :
    decodeFull (charOf x) (charOf y) (charOf z) (charOf w) = some (ofSextets x y z w) := by
  rw [decodeFull, valueOf_charOf hx, valueOf_charOf hy, valueOf_charOf hz, valueOf_charOf hw]
  rfl

theorem decodeLast_charOf_one {x y : ℕ} (hx : x < 64) (hy : y < 64) (h : y % 16 = 0) :
    decodeLast (charOf x) (charOf y) '=' '=' = some ((ofSextets x y 0 0).take 1) := by
  rw [decodeLast, if_pos ⟨rfl, rfl⟩, valueOf_charOf hx, valueOf_charOf hy]
  exact if_pos h

theorem decodeLast_charOf_two {x y z : ℕ} (hx : x < 64) (hy : y < 64) (hz : z < 64)
    (h : z % 4 = 0) : decodeLast (charOf x) (charOf y) (charOf z) '=' =
      some ((ofSextets x y z 0).take 2) := by
  rw [decodeLast, if_neg fun hpad => charOf_ne_padding hz hpad.1, if_pos rfl, valueOf_charOf hx,
    valueOf_charOf hy, valueOf_charOf hz]
  exact if_pos h

theorem decodeLast_of_ne {a b c d : Char} (h : d ≠ '=') :
    decodeLast a b c d = decodeFull a b c d := by
  rw [decodeLast, if_neg fun hpad => h hpad.2, if_neg h]

/-- **Decoding undoes encoding.** -/
theorem decode_encode (bytes : List UInt8) : decode (encode bytes) = some bytes := by
  fun_induction encode bytes with
  | case1 => rfl
  | case2 a =>
    have ha := a.toNat_lt
    have hlast := decodeLast_charOf_one (x := a.toNat / 4) (y := a.toNat % 4 * 16) (by omega)
      (by omega) (by omega)
    have hbytes : ofSextets (a.toNat / 4) (a.toNat % 4 * 16) 0 0 = [a, 0, 0] :=
      ofSextets_of_bytes a 0 0
    rw [decode, if_pos rfl, hlast, hbytes]
    rfl
  | case3 a b =>
    have ha := a.toNat_lt
    have hb := b.toNat_lt
    have hlast := decodeLast_charOf_two (x := a.toNat / 4) (y := a.toNat % 4 * 16 + b.toNat / 16)
      (z := b.toNat % 16 * 4) (by omega) (by omega) (by omega) (by omega)
    have hbytes : ofSextets (a.toNat / 4) (a.toNat % 4 * 16 + b.toNat / 16) (b.toNat % 16 * 4) 0 =
        [a, b, 0] := ofSextets_of_bytes a b 0
    rw [decode, if_pos rfl, hlast, hbytes]
    rfl
  | case4 a b c rest ih =>
    have ha := a.toNat_lt
    have hb := b.toNat_lt
    have hc := c.toNat_lt
    have hfull := decodeFull_charOf (x := a.toNat / 4) (y := a.toNat % 4 * 16 + b.toNat / 16)
      (z := b.toNat % 16 * 4 + c.toNat / 64) (w := c.toNat % 64) (by omega) (by omega) (by omega)
      (by omega)
    rw [ofSextets_of_bytes] at hfull
    rw [decode]
    by_cases hrest : rest = []
    · subst hrest
      rw [encode, if_pos rfl, decodeLast_of_ne (charOf_ne_padding (by omega)), hfull]
    · rw [if_neg (encode_ne_nil hrest), hfull, ih]
      rfl

theorem toNat_ofNat {n : ℕ} (h : n < 256) : (UInt8.ofNat n).toNat = n := UInt8.toNat_ofNat_of_lt' h

/-- The bytes of four sextets are spelled by the four characters. -/
theorem encode_ofSextets {x y z w : ℕ} (hx : x < 64) (hy : y < 64) (hz : z < 64) (hw : w < 64)
    (rest : List UInt8) : encode (ofSextets x y z w ++ rest) =
      charOf x :: charOf y :: charOf z :: charOf w :: encode rest := by
  rw [ofSextets, List.cons_append, List.cons_append, List.cons_append, List.nil_append, encode,
    toNat_ofNat (by omega), toNat_ofNat (by omega), toNat_ofNat (by omega)]
  have h₁ : (x * 4 + y / 16) / 4 = x := by omega
  have h₂ : (x * 4 + y / 16) % 4 * 16 + (y % 16 * 16 + z / 4) / 16 = y := by omega
  have h₃ : (y % 16 * 16 + z / 4) % 16 * 4 + (z % 4 * 64 + w) / 64 = z := by omega
  have h₄ : (z % 4 * 64 + w) % 64 = w := by omega
  rw [h₁, h₂, h₃, h₄]

theorem exists_of_decodeFull {a b c d : Char} {bytes : List UInt8}
    (h : decodeFull a b c d = some bytes) :
    ∃ x y z w, valueOf a = some x ∧ valueOf b = some y ∧ valueOf c = some z ∧ valueOf d = some w ∧
      bytes = ofSextets x y z w := by
  simp only [decodeFull, Option.bind_eq_bind, Option.bind_eq_some_iff, Option.some.injEq] at h
  obtain ⟨x, hx, y, hy, z, hz, w, hw, rfl⟩ := h
  exact ⟨x, y, z, w, hx, hy, hz, hw, rfl⟩

/-- Four characters without padding are the text of their bytes. -/
theorem encode_of_decodeFull {a b c d : Char} {bytes : List UInt8}
    (h : decodeFull a b c d = some bytes) (rest : List UInt8) :
    encode (bytes ++ rest) = a :: b :: c :: d :: encode rest := by
  obtain ⟨x, y, z, w, hx, hy, hz, hw, rfl⟩ := exists_of_decodeFull h
  obtain ⟨hxlt, rfl⟩ := charOf_of_valueOf hx
  obtain ⟨hylt, rfl⟩ := charOf_of_valueOf hy
  obtain ⟨hzlt, rfl⟩ := charOf_of_valueOf hz
  obtain ⟨hwlt, rfl⟩ := charOf_of_valueOf hw
  exact encode_ofSextets hxlt hylt hzlt hwlt rest

/-- The last four characters are the text of their bytes: this is where zero bits are needed. -/
theorem encode_of_decodeLast {a b c d : Char} {bytes : List UInt8}
    (h : decodeLast a b c d = some bytes) : encode bytes = [a, b, c, d] := by
  unfold decodeLast at h
  split_ifs at h with hone htwo
  · obtain ⟨rfl, rfl⟩ := hone
    simp only [Option.bind_eq_bind, Option.bind_eq_some_iff] at h
    obtain ⟨x, hx, y, hy, hbytes⟩ := h
    split_ifs at hbytes with hzero
    obtain rfl := Option.some.inj hbytes
    obtain ⟨hxlt, rfl⟩ := charOf_of_valueOf hx
    obtain ⟨hylt, rfl⟩ := charOf_of_valueOf hy
    have h₁ : (x * 4 + y / 16) / 4 = x := by omega
    have h₂ : (x * 4 + y / 16) % 4 * 16 = y := by omega
    rw [ofSextets, List.take_succ_cons, List.take_zero, encode, toNat_ofNat (by omega), h₁, h₂]
  · subst htwo
    simp only [Option.bind_eq_bind, Option.bind_eq_some_iff] at h
    obtain ⟨x, hx, y, hy, z, hz, hbytes⟩ := h
    split_ifs at hbytes with hzero
    obtain rfl := Option.some.inj hbytes
    obtain ⟨hxlt, rfl⟩ := charOf_of_valueOf hx
    obtain ⟨hylt, rfl⟩ := charOf_of_valueOf hy
    obtain ⟨hzlt, rfl⟩ := charOf_of_valueOf hz
    have h₁ : (x * 4 + y / 16) / 4 = x := by omega
    have h₂ : (x * 4 + y / 16) % 4 * 16 + (y % 16 * 16 + z / 4) / 16 = y := by omega
    have h₃ : (y % 16 * 16 + z / 4) % 16 * 4 = z := by omega
    rw [ofSextets, List.take_succ_cons, List.take_succ_cons, List.take_zero, encode,
      toNat_ofNat (by omega), toNat_ofNat (by omega), h₁, h₂, h₃]
  · have hfull := encode_of_decodeFull h []
    rwa [List.append_nil, encode] at hfull

/-- **Encoding undoes decoding**: a text that is accepted is the text of its bytes. -/
theorem encode_of_decode {text : List Char} {bytes : List UInt8} (h : decode text = some bytes) :
    encode bytes = text := by
  fun_induction decode text generalizing bytes with
  | case1 a b c d => exact encode_of_decodeLast h
  | case2 a b c d rest hrest ih =>
    simp only [Option.bind_eq_bind, Option.bind_eq_some_iff, Option.some.injEq] at h
    obtain ⟨first, hfirst, more, hmore, rfl⟩ := h
    rw [encode_of_decodeFull hfirst, ih hmore]
  | case3 =>
    obtain rfl := Option.some.inj h
    rfl
  | case4 => cases h

/-- The accepted texts are those of bytes. -/
theorem decode_eq_some {text : List Char} {bytes : List UInt8} :
    decode text = some bytes ↔ encode bytes = text :=
  ⟨encode_of_decode, fun h => h ▸ decode_encode bytes⟩

end Base64
