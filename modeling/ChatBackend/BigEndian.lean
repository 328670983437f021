import Mathlib.Data.Nat.Bitwise
import Mathlib.Tactic.Ring

/-!
# Big-endian numbers

Writing a number as a fixed count of bytes, most significant first, and reading it back, with the
shifts and masks of the usual C loops.

## Main definitions

* `beBytes`, `beNat`

## Main results

* `beNat_beBytes`, `beBytes_beNat` — each undoes the other, the first up to the bytes there are
-/

namespace BigEndian

/-- The `count` low bytes of a number, most significant first. -/
def beBytes : ℕ → ℕ → List UInt8
  | 0, _ => []
  | count + 1, n => UInt8.ofNat ((n >>> (8 * count)) &&& 0xFF) :: beBytes count n

/-- One more byte at the low end. -/
def pushByte (n : ℕ) (byte : UInt8) : ℕ := (n <<< 8) ||| byte.toNat

/-- The number that bytes spell, most significant first. -/
def beNat (bytes : List UInt8) : ℕ := bytes.foldl pushByte 0

@[simp] theorem length_beBytes (count n : ℕ) : (beBytes count n).length = count := by
  induction count with
  | zero => rfl
  | succ count ih => rw [beBytes, List.length_cons, ih]

theorem pushByte_eq (n : ℕ) (byte : UInt8) : pushByte n byte = n * 256 + byte.toNat := by
  have hbyte : byte.toNat < 2 ^ 8 := byte.toNat_lt
  rw [pushByte, ← Nat.shiftLeft_add_eq_or_of_lt hbyte, Nat.shiftLeft_eq]

theorem foldl_pushByte (bytes : List UInt8) (n : ℕ) :
    bytes.foldl pushByte n = n * 256 ^ bytes.length + beNat bytes := by
  induction bytes generalizing n with
  | nil => simp [beNat]
  | cons byte bytes ih =>
    rw [beNat, List.foldl_cons, List.foldl_cons, ih, ih (pushByte 0 byte), pushByte_eq, pushByte_eq,
      List.length_cons]
    ring

theorem beNat_cons (byte : UInt8) (bytes : List UInt8) :
    beNat (byte :: bytes) = byte.toNat * 256 ^ bytes.length + beNat bytes := by
  rw [beNat, List.foldl_cons, foldl_pushByte, pushByte_eq]
  ring

theorem beNat_lt (bytes : List UInt8) : beNat bytes < 256 ^ bytes.length := by
  induction bytes with
  | nil => decide
  | cons byte bytes ih =>
    have hbyte : byte.toNat + 1 ≤ 256 := byte.toNat_lt
    have hscale := Nat.mul_le_mul_right (256 ^ bytes.length) hbyte
    rw [beNat_cons, List.length_cons, pow_succ]
    rw [Nat.add_mul, Nat.one_mul] at hscale
    omega

theorem beNat_injective {xs ys : List UInt8} (hlength : xs.length = ys.length)
    (h : beNat xs = beNat ys) : xs = ys := by
  induction xs generalizing ys with
  | nil => exact (List.length_eq_zero_iff.1 hlength.symm).symm
  | cons x xs ih =>
    obtain _ | ⟨y, ys⟩ := ys
    · cases hlength
    · have htail : xs.length = ys.length := by simpa using hlength
      have hx := beNat_lt xs
      have hy := beNat_lt ys
      rw [beNat_cons, beNat_cons, ← htail] at h
      rw [← htail] at hy
      have hpos : 0 < 256 ^ xs.length := Nat.pow_pos (by decide)
      have hdiv : (x.toNat * 256 ^ xs.length + beNat xs) / 256 ^ xs.length = x.toNat := by
        rw [Nat.mul_comm, Nat.mul_add_div hpos, Nat.div_eq_of_lt hx, Nat.add_zero]
      have hdiv' : (y.toNat * 256 ^ xs.length + beNat ys) / 256 ^ xs.length = y.toNat := by
        rw [Nat.mul_comm, Nat.mul_add_div hpos, Nat.div_eq_of_lt hy, Nat.add_zero]
      have hhead : x.toNat = y.toNat := by rw [← hdiv, ← hdiv', h]
      rw [hhead] at h
      rw [UInt8.toNat_inj.1 hhead, ih htail (Nat.add_left_cancel h)]

theorem toNat_byteAt (n shift : ℕ) :
    (UInt8.ofNat ((n >>> shift) &&& 0xFF)).toNat = n / 2 ^ shift % 256 := by
  have hmask : (0xFF : ℕ) = 2 ^ 8 - 1 := rfl
  rw [hmask, Nat.and_two_pow_sub_one_eq_mod, Nat.shiftRight_eq_div_pow, UInt8.toNat_ofNat',
    Nat.mod_mod]

/-- Reading back what was written gives the part of the number that fits. -/
theorem beNat_beBytes (count n : ℕ) : beNat (beBytes count n) = n % 256 ^ count := by
  induction count with
  | zero => rw [pow_zero, Nat.mod_one, beBytes]; rfl
  | succ count ih =>
    have hscale : (2 : ℕ) ^ (8 * count) = 256 ^ count := by rw [Nat.pow_mul]
    rw [beBytes, beNat_cons, length_beBytes, ih, toNat_byteAt, hscale, Nat.pow_succ,
      Nat.mod_mul, Nat.add_comm, Nat.mul_comm]

/-- Writing back what was read gives the same bytes. -/
theorem beBytes_beNat (bytes : List UInt8) : beBytes bytes.length (beNat bytes) = bytes := by
  refine beNat_injective (length_beBytes _ _) ?_
  rw [beNat_beBytes, Nat.mod_eq_of_lt (beNat_lt bytes)]

end BigEndian
