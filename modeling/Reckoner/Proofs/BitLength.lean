import Mathlib.Algebra.Order.Ring.Nat
import Mathlib.Algebra.Ring.Int.Defs
import Reckoner.Arithmetic

/-!
# Bit lengths

The bit length of an integer counts the binary digits of its magnitude, so it tells between which
powers of two the magnitude lies. All that is said of the bit lengths of results comes from this:
a sum, a difference and a product have no more bits than their operands have together, a quotient
has no more than its dividend, and a power has about as many as its base has, times the exponent.

Results:
* `bitLength_le_iff`, `lt_bitLength_iff`: what a bit length says of the magnitude.
* `bitLength_add_le`, `bitLength_sub_le`, `bitLength_mul_le`, `bitLength_tdiv_le`: results in terms
  of their operands.
* `bitLength_pow_le`, `lt_bitLength_pow`: a power from above and from below.
-/
namespace Reckoner

theorem bitLength_le_iff {z : Int} {n : Nat} : bitLength z ≤ n ↔ z.natAbs < 2 ^ n := by
  unfold bitLength
  split
  · subst_vars
    simp
  · rename_i nonzero
    exact Nat.succ_le_iff.trans (Nat.log2_lt (Int.natAbs_ne_zero.2 nonzero))

theorem lt_bitLength_iff {z : Int} {n : Nat} : n < bitLength z ↔ 2 ^ n ≤ z.natAbs := by
  rw [← Nat.not_le, bitLength_le_iff, Nat.not_lt]

theorem natAbs_lt_two_pow_bitLength (z : Int) : z.natAbs < 2 ^ bitLength z :=
  bitLength_le_iff.1 (Nat.le_refl _)

theorem bitLength_mono {a b : Int} (h : a.natAbs ≤ b.natAbs) : bitLength a ≤ bitLength b :=
  bitLength_le_iff.2 (Nat.lt_of_le_of_lt h (natAbs_lt_two_pow_bitLength b))

@[simp]
theorem bitLength_zero : bitLength 0 = 0 := rfl

@[simp]
theorem bitLength_neg (z : Int) : bitLength (-z) = bitLength z := by
  simp [bitLength]

theorem bitLength_pos {z : Int} (h : z ≠ 0) : 0 < bitLength z := by
  simp [bitLength, h]

theorem bitLength_add_le (a b : Int) : bitLength (a + b) ≤ bitLength a + bitLength b := by
  by_cases ha : a = 0
  · simp [ha]
  · by_cases hb : b = 0
    · simp [hb]
    · -- a carry takes one more bit than the longer operand has, and the shorter one has that bit
      have twoA : 2 ≤ 2 ^ bitLength a := Nat.le_self_pow (bitLength_pos ha).ne' 2
      have twoB : 2 ≤ 2 ^ bitLength b := Nat.le_self_pow (bitLength_pos hb).ne' 2
      have belowA := natAbs_lt_two_pow_bitLength a
      have belowB := natAbs_lt_two_pow_bitLength b
      rw [bitLength_le_iff, Nat.pow_add]
      calc (a + b).natAbs ≤ a.natAbs + b.natAbs := Int.natAbs_add_le a b
        _ < 2 ^ bitLength a + 2 ^ bitLength b := by omega
        _ ≤ 2 ^ bitLength a * 2 ^ bitLength b := Nat.add_le_mul twoA twoB

theorem bitLength_sub_le (a b : Int) : bitLength (a - b) ≤ bitLength a + bitLength b := by
  have sum := bitLength_add_le a (-b)
  rwa [bitLength_neg, ← Int.sub_eq_add_neg] at sum

theorem bitLength_mul_le (a b : Int) : bitLength (a * b) ≤ bitLength a + bitLength b := by
  rw [bitLength_le_iff, Int.natAbs_mul, Nat.pow_add]
  exact Nat.mul_lt_mul'' (natAbs_lt_two_pow_bitLength a) (natAbs_lt_two_pow_bitLength b)

theorem bitLength_tdiv_le (a b : Int) : bitLength (a.tdiv b) ≤ bitLength a := by
  apply bitLength_mono
  rw [Int.natAbs_tdiv]
  exact Nat.div_le_self _ _

theorem bitLength_pow_le (a : Int) {e : Nat} (h : e ≠ 0) :
    bitLength (a ^ e) ≤ bitLength a * e := by
  rw [bitLength_le_iff, Int.natAbs_pow, Nat.pow_mul]
  exact Nat.pow_lt_pow_left (natAbs_lt_two_pow_bitLength a) h

theorem lt_bitLength_pow {a : Int} (h : a ≠ 0) (e : Nat) :
    (bitLength a - 1) * e < bitLength (a ^ e) := by
  have base : 2 ^ (bitLength a - 1) ≤ a.natAbs :=
    lt_bitLength_iff.1 (Nat.sub_one_lt (bitLength_pos h).ne')
  rw [lt_bitLength_iff, Int.natAbs_pow, Nat.pow_mul]
  exact Nat.pow_le_pow_left base e

end Reckoner
