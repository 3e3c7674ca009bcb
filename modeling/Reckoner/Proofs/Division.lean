import Mathlib.Algebra.Ring.Int.Defs
import Reckoner.Arithmetic
import Reckoner.Proofs.Outcome

/-!
# Division

A quotient is judged by what it leaves over. When it is rounded toward zero the remainder is
smaller than the divisor, and has the sign of the dividend unless it is zero; and that leaves no
choice, for two such remainders differ by less than the divisor, and by a multiple of it.

Main definition:
* `Truncates`: the rule for a quotient, said without division.

Results:
* `Truncates.unique`: no two integers keep the rule.
* `Truncates.neg_left`, `Truncates.neg_right`: what the rule says of opposite operands.
* `truncates_tdiv`, `tdiv_eq_signed`: the quotient keeps the rule; how it is found from magnitudes.
* `divide_eq_ok`, `divide_eq_error`: a division gives what keeps the rule, or divides by zero.
* `divide_truncates`: all that is said of a division.
-/
namespace Reckoner

open Outcome

/-- `q` is the quotient of `left` by `right` rounded toward zero, judged by the remainder. -/
structure Truncates (left right q : Int) : Prop where
  small : (left - q * right).natAbs < right.natAbs
  sided : left - q * right = 0 ∨ (left - q * right).sign = left.sign

namespace Truncates

variable {left right p q : Int}

/-- Nothing is smaller than zero in magnitude. -/
theorem divisor_ne_zero (h : Truncates left right q) : right ≠ 0 := by
  rintro rfl
  exact absurd h.small (Nat.not_lt_zero _)

theorem neg_left (h : Truncates left right q) : Truncates (-left) right (-q) := by
  have opposite : -left - -q * right = -(left - q * right) := by
    rw [Int.neg_mul]
    omega
  refine ⟨?_, ?_⟩
  · rw [opposite, Int.natAbs_neg]
    exact h.small
  · rw [opposite, Int.sign_neg, Int.sign_neg, Int.neg_eq_zero, Int.neg_inj]
    exact h.sided

theorem neg_right (h : Truncates left right q) : Truncates left (-right) (-q) := by
  have same : left - -q * -right = left - q * right := by rw [Int.neg_mul_neg]
  refine ⟨?_, ?_⟩
  · rw [same, Int.natAbs_neg]
    exact h.small
  · rw [same]
    exact h.sided

theorem remainder_nonneg (h : Truncates left right q) (nonneg : 0 ≤ left) :
    0 ≤ left - q * right := by
  rcases h.sided with zero | same
  · omega
  · rw [← Int.sign_nonneg_iff, same]
    exact Int.sign_nonneg_iff.2 nonneg

/-- Remainders that are not negative are less than the divisor apart. -/
theorem unique_of_nonneg (h : Truncates left right p) (h' : Truncates left right q)
    (nonneg : 0 ≤ left) : p = q := by
  have apart : ((p - q) * right).natAbs < right.natAbs := by
    have below := h.remainder_nonneg nonneg
    have below' := h'.remainder_nonneg nonneg
    have small := h.small
    have small' := h'.small
    rw [Int.sub_mul]
    omega
  -- a multiple of the divisor that is smaller than the divisor is zero
  rw [Int.natAbs_mul] at apart
  have same : (p - q).natAbs = 0 := by
    by_contra differ
    have large := Nat.le_mul_of_pos_left right.natAbs (Nat.pos_of_ne_zero differ)
    omega
  omega

theorem unique (h : Truncates left right p) (h' : Truncates left right q) : p = q := by
  rcases Int.le_total 0 left with nonneg | nonpos
  · exact h.unique_of_nonneg h' nonneg
  · have opposite := h.neg_left.unique_of_nonneg h'.neg_left (Int.neg_nonneg_of_nonpos nonpos)
    exact Int.neg_inj.1 opposite

end Truncates

/-! ## The quotient -/

theorem truncates_tdiv (left : Int) {right : Int} (h : right ≠ 0) :
    Truncates left right (left.tdiv right) := by
  have remainder : left - left.tdiv right * right = left.tmod right := by
    rw [Int.tdiv_mul_self]
    omega
  refine ⟨?_, ?_⟩
  · rw [remainder, Int.natAbs_tmod]
    exact Nat.mod_lt _ (Int.natAbs_pos.2 h)
  · rw [remainder, Int.sign_tmod, ← Int.dvd_iff_tmod_eq_zero]
    split
    · exact .inl ‹_›
    · exact .inr rfl

/-- The quotient of the magnitudes, which is negative when just one of the operands is. -/
theorem tdiv_eq_signed (left right : Int) :
    left.tdiv right =
      if left < 0 ↔ right < 0 then ↑(left.natAbs / right.natAbs)
      else -↑(left.natAbs / right.natAbs) := by
  have magnitude : (left.tdiv right).natAbs = left.natAbs / right.natAbs := Int.natAbs_tdiv ..
  have sign : if left < 0 ↔ right < 0 then 0 ≤ left.tdiv right else left.tdiv right ≤ 0 := by
    rcases Int.lt_or_le left 0 with neg | nonneg <;> rcases Int.lt_or_le right 0 with neg' | nonneg'
    · rw [if_pos (by omega)]
      exact Int.tdiv_nonneg_of_nonpos_of_nonpos (by omega) (by omega)
    · rw [if_neg (by omega)]
      have opposite := Int.tdiv_nonneg (a := -left) (by omega) nonneg'
      rw [Int.neg_tdiv] at opposite
      omega
    · rw [if_neg (by omega)]
      exact Int.tdiv_nonpos_of_nonneg_of_nonpos nonneg (by omega)
    · rw [if_pos (by omega)]
      exact Int.tdiv_nonneg nonneg nonneg'
  split at sign <;> omega

/-! ## Divisions -/

theorem divide_eq_error {left right : Int} {f : Fault} :
    divide left right = .error f ↔ right = 0 ∧ f = .divisionByZero := by
  unfold divide
  split
  · simp_all [eq_comm]
  · simp_all

theorem divide_eq_ok {left right q : Int} :
    divide left right = .ok q ↔ Truncates left right q := by
  unfold divide
  constructor
  · intro h
    split at h
    · cases h
    · cases h
      exact truncates_tdiv left ‹_›
  · intro rule
    rw [if_neg rule.divisor_ne_zero]
    exact congrArg Except.ok ((truncates_tdiv left rule.divisor_ne_zero).unique rule)

/-- Opposite quotients belong to a dividend or a divisor that is the opposite; zero divides neither
a dividend nor its opposite. -/
theorem divide_neg_left (left right : Int) :
    divide (-left) right = (divide left right).map Neg.neg := by
  cases divided : divide left right with
  | error f => exact divide_eq_error.2 (divide_eq_error.1 divided)
  | ok q => exact divide_eq_ok.2 (divide_eq_ok.1 divided).neg_left

theorem divide_neg_right (left right : Int) :
    divide left (-right) = (divide left right).map Neg.neg := by
  cases divided : divide left right with
  | error f =>
    obtain ⟨rfl, rfl⟩ := divide_eq_error.1 divided
    rfl
  | ok q => exact divide_eq_ok.2 (divide_eq_ok.1 divided).neg_right

/-- A division by anything but zero gives the one integer that leaves a remainder which is smaller
than the divisor, and has the sign of the dividend unless it is zero: the magnitudes are divided,
and the signs of the operands compared. So the opposite of either operand gives the opposite
quotient, and the opposites of both give the same. A division by zero is refused as such, and no
other division is refused. -/
theorem divide_truncates (left right : Int) :
    (right ≠ 0 → ∃ q, divide left right = .ok q ∧ (∀ p, Truncates left right p ↔ p = q) ∧
      q = if left < 0 ↔ right < 0 then ↑(left.natAbs / right.natAbs)
        else -↑(left.natAbs / right.natAbs)) ∧
    divide (-left) right = (divide left right).map Neg.neg ∧
    divide left (-right) = (divide left right).map Neg.neg ∧
    divide (-left) (-right) = divide left right ∧
    ∀ f, divide left right = .error f ↔ right = 0 ∧ f = .divisionByZero := by
  refine ⟨fun nonzero => ?_, divide_neg_left left right, divide_neg_right left right, ?_,
    fun f => divide_eq_error⟩
  · have rule := truncates_tdiv left nonzero
    refine ⟨left.tdiv right, divide_eq_ok.2 rule, fun p => ⟨fun h => h.unique rule, ?_⟩,
      tdiv_eq_signed left right⟩
    rintro rfl
    exact rule
  · rw [divide_neg_left, divide_neg_right]
    cases divide left right with
    | error f => rfl
    | ok q => exact congrArg Except.ok (Int.neg_neg q)

/-- Rounding is toward zero on both sides of it. -/
example : divide (-7) 2 = .ok (-3) ∧ divide 7 (-2) = .ok (-3) := by decide

end Reckoner
