import ChatBackend.Websocket.Requests

/-!
# Canonical uuid texts

A field that holds a uuid is accepted if it has 36 bytes, dashes in the right places, and the uuid
generator reads it. This module says what these texts are: those whose lower-case form is the text
of a uuid, which is then the one that is read.

## Main definitions

* `IsUuidText` — a text is the canonical text of a uuid, in any letter case

## Main results

* `requireUuid_ok_iff`
-/

namespace ChatBackend

/-- The text is the canonical text of the uuid, in any letter case. -/
def IsUuidText (text : String) (u : Uuid) : Prop := text.toList.map Char.toLower = u.chars

/-! ### Letter case -/

/-- Facts about characters, by cases on whether they are ASCII. -/
theorem char_cases {p : Char → Prop} (hascii : ∀ n < 128, p (Char.ofNat n))
    (hother : ∀ c : Char, 128 ≤ c.toNat → p c) (c : Char) : p c := by
  by_cases h : c.toNat < 128
  · have hc := hascii c.toNat h
    rwa [Char.ofNat_toNat] at hc
  · exact hother c (Nat.le_of_not_lt h)

theorem toLower_of_le {c : Char} (h : 128 ≤ c.toNat) : c.toLower = c :=
  dif_neg fun hupper => by
    have hle := hupper.2
    simp only [Char.toNat, UInt32.le_iff_toNat_le] at h hle
    exact absurd (h.trans hle) (by decide)

theorem hexValue_of_le {c : Char} (h : 128 ≤ c.toNat) : hexValue c = none := by
  have hlt : ∀ d : Char, d.toNat < 128 → ¬ c ≤ d := by
    intro d hd hle
    have := UInt32.le_iff_toNat_le.mp hle
    simp only [Char.toNat] at h hd
    omega
  rw [hexValue, if_neg fun hc => hlt _ (by decide) hc.2, if_neg fun hc => hlt _ (by decide) hc.2,
    if_neg fun hc => hlt _ (by decide) hc.2]

/-- A hexadecimal digit has a value below 16, and that value's digit in lower case. -/
theorem toLower_of_hexValue {c : Char} {n : ℕ} (h : hexValue c = some n) :
    n < 16 ∧ c.toLower = hexDigit n ∧ c.utf8Size = 1 := by
  refine @char_cases (fun c => ∀ n, hexValue c = some n →
    n < 16 ∧ c.toLower = hexDigit n ∧ c.utf8Size = 1) ?_ ?_ c n h
  · intro k hk
    have all : ∀ k < 128, ∀ n ∈ hexValue (Char.ofNat k), n < 16 ∧
        (Char.ofNat k).toLower = hexDigit n ∧ (Char.ofNat k).utf8Size = 1 := by decide
    exact fun n hn => all k hk n hn
  · intro c hc n hn
    rw [hexValue_of_le hc] at hn
    cases hn

/-- The letter case of a digit does not matter. -/
theorem hexValue_toLower (c : Char) : hexValue c.toLower = hexValue c := by
  refine char_cases (p := fun c => hexValue c.toLower = hexValue c) ?_ ?_ c
  · decide
  · intro c hc
    rw [toLower_of_le hc]

/-- Only a dash, a brace or a small letter of ASCII has that lower-case form. -/
theorem toLower_eq_iff {d : Char} (hd : d ∈ ['-', '{', '}']) (c : Char) :
    c.toLower = d ↔ c = d := by
  refine char_cases (p := fun c => c.toLower = d ↔ c = d) ?_ ?_ c
  · have all : ∀ d ∈ ['-', '{', '}'], ∀ k < 128,
        (Char.ofNat k).toLower = d ↔ Char.ofNat k = d := forall_mem_of_all (by decide)
    exact all d hd
  · intro c hc
    rw [toLower_of_le hc]

/-- A character whose lower-case form is one byte is one byte. -/
theorem utf8Size_of_toLower {c : Char} (h : c.toLower.utf8Size = 1) : c.utf8Size = 1 := by
  refine @char_cases (fun c => c.toLower.utf8Size = 1 → c.utf8Size = 1) ?_ ?_ c h
  · decide
  · intro c hc h
    rwa [toLower_of_le hc] at h

namespace Uuid

/-! ### Reading -/

/-- The text of the last `left` bytes of a number, with the dashes of a uuid before bytes 4, 6, 8
and 10. -/
def dashedChars (n : ℕ) : (left : ℕ) → List Char
  | 0 => []
  | left + 1 =>
    (if left = 11 ∨ left = 9 ∨ left = 7 ∨ left = 5 then ['-'] else []) ++ byteChars n left ++
      dashedChars n left

theorem dashedChars_sixteen (u : Uuid) : dashedChars u 16 = u.chars := by
  simp [dashedChars, chars, bytesChars, List.append_assoc]

/-- One step of the generator. -/
theorem getBytes_step {left value : ℕ} {dashes : Bool} {cs rest : List Char} {result : ℕ}
    (h : getBytes (left + 1) dashes value cs = some (result, rest)) :
    ∃ dashes' high low cs' byte, skipDash left dashes cs = some (dashes', high :: low :: cs') ∧
      byteOfHex high low = some byte ∧
      getBytes left dashes' (256 * value + byte.toNat) cs' = some (result, rest) := by
  rw [getBytes] at h
  split at h
  · next dashes' high low cs' hskip =>
    obtain ⟨byte, hbyte, h⟩ := Option.bind_eq_some_iff.mp h
    exact ⟨dashes', high, low, cs', byte, hskip, hbyte, h⟩
  · cases h

/-- Two digits that are read are those of their byte. -/
theorem toLower_of_byteOfHex {high low : Char} {byte : UInt8} (h : byteOfHex high low = some byte) :
    [high, low].map Char.toLower = hexOfByte byte ∧ high.utf8Size = 1 ∧ low.utf8Size = 1 := by
  rw [byteOfHex] at h
  obtain ⟨a, ha, h⟩ := Option.bind_eq_some_iff.mp h
  obtain ⟨b, hb, h⟩ := Option.bind_eq_some_iff.mp h
  obtain rfl : UInt8.ofNat (16 * a + b) = byte := Option.some.inj h
  obtain ⟨ha16, halow, hasize⟩ := toLower_of_hexValue ha
  obtain ⟨hb16, hblow, hbsize⟩ := toLower_of_hexValue hb
  have hvalue : (UInt8.ofNat (16 * a + b)).toNat = 16 * a + b := by
    rw [UInt8.toNat_ofNat']
    omega
  refine ⟨?_, hasize, hbsize⟩
  rw [hexOfByte, hvalue, List.map_cons, List.map_singleton, halow, hblow]
  congr 2
  · omega
  · congr 1
    omega

/-- What is read so far is what the value is made of. -/
theorem byteChars_of_step {left value result : ℕ} {byte : UInt8}
    (h : result / 256 ^ left = 256 * value + byte.toNat) :
    result / 256 ^ (left + 1) = value ∧ byteChars result left = hexOfByte byte := by
  have hbyte := byte.toNat_lt
  constructor
  · rw [pow_succ, ← Nat.div_div_eq_div_mul, h]
    omega
  · rw [byteChars, h]
    congr 1
    apply UInt8.toNat_inj.mp
    rw [UInt8.toNat_ofNat']
    omega

/-- **What the generator reads with dashes**: the bytes' text. -/
theorem dashedChars_of_getBytes {left value result : ℕ} {cs rest : List Char} (hleft : left ≤ 11)
    (h : getBytes left true value cs = some (result, rest)) :
    result / 256 ^ left = value ∧
      cs.map Char.toLower = dashedChars result left ++ rest.map Char.toLower := by
  induction left generalizing value cs with
  | zero =>
    obtain ⟨rfl, rfl⟩ := Prod.ext_iff.mp (Option.some.inj h)
    simp [dashedChars]
  | succ left ih =>
    obtain ⟨dashes', high, low, cs', byte, hskip, hbyte, h⟩ := getBytes_step h
    have hne : left ≠ 11 := by omega
    have hsplit : dashes' = true ∧ cs.map Char.toLower =
        (if left = 11 ∨ left = 9 ∨ left = 7 ∨ left = 5 then ['-'] else []) ++
          ([high, low] ++ cs').map Char.toLower := by
      rw [skipDash, if_neg hne] at hskip
      by_cases hdash : left = 9 ∨ left = 7 ∨ left = 5
      · rw [if_pos ⟨rfl, hdash⟩] at hskip
        split_ifs at hskip with hhead
        obtain ⟨rest', rfl⟩ := List.head?_eq_some_iff.mp hhead
        simp only [List.tail_cons, Option.some.injEq, Prod.mk.injEq] at hskip
        obtain ⟨rfl, rfl⟩ := hskip
        rw [if_pos (Or.inr hdash)]
        exact ⟨rfl, rfl⟩
      · rw [if_neg fun hd => hdash hd.2] at hskip
        simp only [Option.some.injEq, Prod.mk.injEq] at hskip
        obtain ⟨rfl, rfl⟩ := hskip
        rw [if_neg fun hd => hdash (hd.resolve_left hne)]
        exact ⟨rfl, rfl⟩
    obtain ⟨rfl, htext⟩ := hsplit
    obtain ⟨hvalue, hrest⟩ := ih (by omega) h
    obtain ⟨hvalue', hchars⟩ := byteChars_of_step hvalue
    refine ⟨hvalue', ?_⟩
    rw [htext, List.map_append, hrest, (toLower_of_byteOfHex hbyte).1, dashedChars, hchars]
    simp only [List.append_assoc]

/-- Before byte 4 there is no dash to skip. -/
theorem getBytes_step_false {j value result : ℕ} {cs rest : List Char}
    (h : getBytes (12 + j + 1) false value cs = some (result, rest)) :
    ∃ high low cs' byte, cs = high :: low :: cs' ∧ byteOfHex high low = some byte ∧
      getBytes (12 + j) false (256 * value + byte.toNat) cs' = some (result, rest) := by
  obtain ⟨dashes', high, low, cs', byte, hskip, hbyte, hnext⟩ := getBytes_step h
  have hne : ¬ (false = true ∧ (12 + j = 9 ∨ 12 + j = 7 ∨ 12 + j = 5)) := fun hd => by cases hd.1
  rw [skipDash, if_neg (by omega), if_neg hne] at hskip
  simp only [Option.some.injEq, Prod.mk.injEq] at hskip
  obtain ⟨rfl, rfl⟩ := hskip
  exact ⟨high, low, cs', byte, rfl, hbyte, hnext⟩

/-- **What the generator reads**, if there is a dash before byte 4. -/
theorem dashedChars_of_getBytes_false {j value result : ℕ} {cs rest : List Char}
    (h : getBytes (12 + j) false value cs = some (result, rest)) (hdash : cs[2 * j]? = some '-') :
    result / 256 ^ (12 + j) = value ∧
      cs.map Char.toLower = dashedChars result (12 + j) ++ rest.map Char.toLower := by
  induction j generalizing value cs with
  | zero =>
    have hhead : cs.head? = some '-' := by rwa [List.head?_eq_getElem?]
    obtain ⟨rest', rfl⟩ := List.head?_eq_some_iff.mp hhead
    obtain ⟨dashes', high, low, cs', byte, hskip, hbyte, hnext⟩ := getBytes_step h
    rw [skipDash, if_pos rfl, if_pos hhead] at hskip
    simp only [List.tail_cons, Option.some.injEq, Prod.mk.injEq] at hskip
    obtain ⟨rfl, rfl⟩ := hskip
    obtain ⟨hvalue, hrest⟩ := dashedChars_of_getBytes le_rfl hnext
    obtain ⟨hvalue', hchars⟩ := byteChars_of_step hvalue
    refine ⟨hvalue', ?_⟩
    calc ('-' :: high :: low :: cs').map Char.toLower
        = '-' :: ([high, low].map Char.toLower ++ cs'.map Char.toLower) := rfl
      _ = dashedChars result (12 + 0) ++ rest.map Char.toLower := by
          rw [(toLower_of_byteOfHex hbyte).1, hrest, ← hchars]
          simp [dashedChars]
  | succ j ih =>
    obtain ⟨high, low, cs', byte, rfl, hbyte, hnext⟩ := getBytes_step_false h
    have hdash' : cs'[2 * j]? = some '-' := hdash
    obtain ⟨hvalue, hrest⟩ := ih hnext hdash'
    obtain ⟨hvalue', hchars⟩ := byteChars_of_step hvalue
    have hne : ¬ (12 + j = 11 ∨ 12 + j = 9 ∨ 12 + j = 7 ∨ 12 + j = 5) := by omega
    refine ⟨hvalue', ?_⟩
    calc (high :: low :: cs').map Char.toLower
        = [high, low].map Char.toLower ++ cs'.map Char.toLower := rfl
      _ = dashedChars result (12 + (j + 1)) ++ rest.map Char.toLower := by
          rw [(toLower_of_byteOfHex hbyte).1, hrest, ← hchars, ← Nat.add_assoc, dashedChars,
            if_neg hne, List.nil_append, List.append_assoc]

/-- The first bytes are digits. -/
theorem hexValue_of_getBytes {j value result : ℕ} {cs rest : List Char}
    (h : getBytes (12 + j) false value cs = some (result, rest)) {i : ℕ} (hi : i < 2 * j) {c : Char}
    (hc : cs[i]? = some c) : hexValue c ≠ none := by
  induction j generalizing value cs i with
  | zero => omega
  | succ j ih =>
    obtain ⟨high, low, cs', byte, rfl, hbyte, hnext⟩ := getBytes_step_false h
    rw [byteOfHex] at hbyte
    obtain ⟨a, ha, hbyte⟩ := Option.bind_eq_some_iff.mp hbyte
    obtain ⟨b, hb, -⟩ := Option.bind_eq_some_iff.mp hbyte
    match i with
    | 0 =>
      obtain rfl : high = c := by simpa using hc
      simp [ha]
    | 1 =>
      obtain rfl : low = c := by simpa using hc
      simp [hb]
    | i + 2 =>
      have hi' : i < 2 * j := by omega
      exact ih hnext hi' hc

/-- What is read is ASCII. -/
theorem utf8Size_of_getBytes {left value result : ℕ} {dashes : Bool} {cs rest : List Char}
    (h : getBytes left dashes value cs = some (result, rest)) (hrest : ∀ c ∈ rest, c.utf8Size = 1) :
    ∀ c ∈ cs, c.utf8Size = 1 := by
  induction left generalizing dashes value cs with
  | zero =>
    obtain ⟨-, rfl⟩ := Prod.ext_iff.mp (Option.some.inj h)
    exact hrest
  | succ left ih =>
    obtain ⟨dashes', high, low, cs', byte, hskip, hbyte, hnext⟩ := getBytes_step h
    obtain ⟨-, hhigh, hlow⟩ := toLower_of_byteOfHex hbyte
    have hpair : ∀ c ∈ high :: low :: cs', c.utf8Size = 1 :=
      List.forall_mem_cons.mpr ⟨hhigh, List.forall_mem_cons.mpr ⟨hlow, ih hnext⟩⟩
    -- a dash may have been skipped before the pair
    have hcs : cs = high :: low :: cs' ∨ cs = '-' :: high :: low :: cs' := by
      rw [skipDash] at hskip
      split_ifs at hskip with h₁ hhead h₂ hhead
      · obtain ⟨rest', rfl⟩ := List.head?_eq_some_iff.mp hhead
        simp only [List.tail_cons, Option.some.injEq, Prod.mk.injEq] at hskip
        exact Or.inr (by rw [hskip.2])
      · simp only [Option.some.injEq, Prod.mk.injEq] at hskip
        exact Or.inl hskip.2
      · obtain ⟨rest', rfl⟩ := List.head?_eq_some_iff.mp hhead
        simp only [List.tail_cons, Option.some.injEq, Prod.mk.injEq] at hskip
        exact Or.inr (by rw [hskip.2])
      · simp only [Option.some.injEq, Prod.mk.injEq] at hskip
        exact Or.inl hskip.2
    rcases hcs with rfl | rfl
    · exact hpair
    · exact List.forall_mem_cons.mpr ⟨rfl, hpair⟩

/-! ### Any letter case -/

theorem byteOfHex_toLower (high low : Char) :
    byteOfHex high.toLower low.toLower = byteOfHex high low := by
  rw [byteOfHex, byteOfHex, hexValue_toLower, hexValue_toLower]

theorem head?_map_toLower (cs : List Char) :
    (cs.map Char.toLower).head? = some '-' ↔ cs.head? = some '-' := by
  cases cs with
  | nil => simp
  | cons c cs =>
    simp only [List.map_cons, List.head?_cons, Option.some.injEq]
    exact toLower_eq_iff (by decide) c

theorem skipDash_map_toLower (left : ℕ) (dashes : Bool) (cs : List Char) :
    skipDash left dashes (cs.map Char.toLower) =
      (skipDash left dashes cs).map fun r => (r.1, r.2.map Char.toLower) := by
  simp only [skipDash, head?_map_toLower]
  split_ifs <;> simp

theorem getBytes_map_toLower (left value : ℕ) (dashes : Bool) (cs : List Char) :
    getBytes left dashes value (cs.map Char.toLower) =
      (getBytes left dashes value cs).map fun r => (r.1, r.2.map Char.toLower) := by
  induction left generalizing value dashes cs with
  | zero => rfl
  | succ left ih =>
    rw [getBytes, getBytes, skipDash_map_toLower]
    rcases skipDash left dashes cs with _ | ⟨dashes', _ | ⟨high, _ | ⟨low, rest⟩⟩⟩
    · rfl
    · rfl
    · rfl
    · simp only [Option.map_some, List.map_cons, byteOfHex_toLower]
      cases byteOfHex high low with
      | none => rfl
      | some byte => exact ih _ _ _

theorem head_chars_ne (u : Uuid) (rest : List Char) : u.chars ≠ '{' :: rest := by
  intro h
  refine hexDigit_ne_of_lt (high_lt (UInt8.ofNat (u.val / 256 ^ 15))) (Or.inr rfl) ?_
  simpa [chars, bytesChars, byteChars, hexOfByte] using congrArg List.head? h

end Uuid

/-- The generator reads the text of a uuid in any letter case. -/
theorem IsUuidText.ofString {text : String} {u : Uuid} (h : IsUuidText text u) :
    Uuid.ofString text = some u := by
  have hread := Uuid.getBytes_chars u
  rw [← h, Uuid.getBytes_map_toLower] at hread
  obtain ⟨⟨value, rest⟩, hcs, heq⟩ := Option.map_eq_some_iff.mp hread
  obtain ⟨rfl, hrest⟩ := Prod.ext_iff.mp heq
  obtain rfl : rest = [] := List.map_eq_nil_iff.mp hrest
  rw [Uuid.ofString, Uuid.ofChars]
  · rw [hcs]
    simp
  · intro rest hbrace
    rw [IsUuidText, hbrace, List.map_cons] at h
    exact Uuid.head_chars_ne u _ h.symm

/-! ### The check of the bytes -/

/-- A byte of an ASCII text is its character. -/
theorem getElem?_of_utf8 {text : String} (hascii : ∀ c ∈ text.toList, c.utf8Size = 1) {k : ℕ}
    (h : (utf8 text)[k]? = some '-'.toUInt8) : text.toList[k]? = some '-' := by
  have hbytes : utf8 text = text.toList.map Char.toUInt8 := by
    have := utf8_ofList hascii
    rwa [String.ofList_toList] at this
  rw [hbytes, List.getElem?_map] at h
  obtain ⟨c, hc, hbyte⟩ := Option.map_eq_some_iff.mp h
  have hsize := hascii c (List.mem_of_getElem? hc)
  rw [hc]
  congr 1
  refine @char_cases (fun c => c.utf8Size = 1 → c.toUInt8 = '-'.toUInt8 → c = '-') ?_ ?_ c hsize hbyte
  · decide
  · intro c hle hsize _
    rw [Char.utf8Size_eq_one_iff] at hsize
    have := UInt32.le_iff_toNat_le.mp hsize
    simp only [Char.toNat] at hle
    exact absurd (hle.trans this) (by decide)

namespace WebSocketDispatcher

/-- **What the check of the bytes and the generator accept together** is a canonical text. -/
theorem isUuidText_of_ofString {text : String} {u : Uuid} (hdashes : hasDashes text = true)
    (hread : Uuid.ofString text = some u) : IsUuidText text u := by
  obtain ⟨-, hpositions⟩ := of_decide_eq_true hdashes
  have heighth : (utf8 text)[8]? = some '-'.toUInt8 :=
    of_decide_eq_true (List.all_eq_true.mp hpositions 8 (by decide))
  rw [Uuid.ofString] at hread
  unfold Uuid.ofChars at hread
  split at hread
  · next rest hcs =>
    split at hread
    · next value hbytes =>
      -- in braces, the eighth byte is a digit
      have hascii : ∀ c ∈ text.toList, c.utf8Size = 1 := by
        rw [hcs]
        exact List.forall_mem_cons.mpr ⟨rfl, Uuid.utf8Size_of_getBytes hbytes (forall_mem_of_all (by decide))⟩
      have hdash := getElem?_of_utf8 hascii heighth
      rw [hcs] at hdash
      exact absurd (by decide) (Uuid.hexValue_of_getBytes (j := 4) (i := 7) hbytes (by decide) hdash)
    · cases hread
  · split at hread
    · next value hbytes =>
      obtain rfl := Option.some.inj hread
      have hascii := Uuid.utf8Size_of_getBytes hbytes (forall_mem_of_all (by decide))
      have hdash := getElem?_of_utf8 hascii heighth
      obtain ⟨hvalue, htext⟩ := Uuid.dashedChars_of_getBytes_false (j := 4) hbytes hdash
      have hlt : value < 256 ^ 16 := by
        rcases Nat.div_eq_zero_iff.mp hvalue with h | h
        · cases h
        · exact h
      have hval : (Fin.ofNat _ value : Uuid).val = value := Nat.mod_eq_of_lt (hlt.trans_eq (by norm_num))
      rw [IsUuidText, htext, ← Uuid.dashedChars_sixteen, hval, List.map_nil, List.append_nil]
    · cases hread

/-- A canonical text passes the check of the bytes. -/
theorem hasDashes_of_isUuidText {text : String} {u : Uuid} (h : IsUuidText text u) :
    hasDashes text = true := by
  have hascii : ∀ c ∈ text.toList, c.utf8Size = 1 := by
    intro c hc
    refine utf8Size_of_toLower (utf8Size_of_mem_chars u _ ?_)
    rw [← h]
    exact List.mem_map_of_mem hc
  have hbytes : utf8 text = text.toList.map Char.toUInt8 := by
    have := utf8_ofList hascii
    rwa [String.ofList_toList] at this
  have hlength : text.toList.length = 36 := by
    rw [← List.length_map (f := Char.toLower), h, u.length_chars]
  have hpositions : ∀ k ∈ [8, 13, 18, 23], u.chars[k]? = some '-' := by
    intro k hk
    simp only [List.mem_cons, List.not_mem_nil, or_false] at hk
    rcases hk with rfl | rfl | rfl | rfl <;>
      simp [Uuid.chars, Uuid.bytesChars, Uuid.byteChars, hexOfByte]
  refine decide_eq_true ⟨by rw [hbytes, List.length_map, hlength], List.all_eq_true.mpr fun k hk => ?_⟩
  have hdash := hpositions k hk
  rw [← h, List.getElem?_map] at hdash
  obtain ⟨c, hc, hlower⟩ := Option.map_eq_some_iff.mp hdash
  obtain rfl := (toLower_eq_iff (by decide) c).mp hlower
  exact decide_eq_true (by rw [hbytes, List.getElem?_map, hc]; rfl)

/-- The text that is written for a uuid is one of its texts. -/
theorem isUuidText_toString (u : Uuid) : IsUuidText u.toString u :=
  isUuidText_of_ofString (hasDashes_toString u) u.ofString_toString

/-- **The uuids of a field**: exactly the canonical texts are read, in any letter case. -/
theorem requireUuid_ok_iff {body : Json} {field : String} {u : Uuid} :
    requireUuid body field = .ok u ↔
      ∃ text, body.find field = some (.string text) ∧ IsUuidText text u := by
  rw [requireUuid, bind_eq_ok]
  constructor
  · rintro ⟨text, hstring, h⟩
    split_ifs at h with hdashes
    split at h
    · next id hread =>
      obtain rfl := Except.ok.inj h
      exact ⟨text, (requireString_ok_iff.mp hstring).1,
        isUuidText_of_ofString (by simpa using hdashes) hread⟩
    · cases h
  · rintro ⟨text, hfind, h⟩
    have hne : text ≠ "" := by
      rintro rfl
      have hlen := congrArg List.length h
      rw [u.length_chars] at hlen
      cases hlen
    refine ⟨text, requireString_ok_iff.mpr ⟨hfind, hne⟩, ?_⟩
    rw [if_neg (by rw [hasDashes_of_isUuidText h]; decide), h.ofString]

end WebSocketDispatcher

end ChatBackend
