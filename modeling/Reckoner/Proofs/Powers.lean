import Reckoner.Proofs.BitLength
import Reckoner.Proofs.Outcome

/-!
# Powers and their guard

A power is computed only after a guard has let it pass, for it may be too large to be computed at
all. The guard does not know the size of the result. It estimates it, as the bits of the base times
the exponent. A power that passes has no more bits than the limit, and one that is refused for its
size would have more than half as many: the estimate refuses no result that is twice as small.

Results:
* `power_of_neg`, `power_natCast`: the guard, on natural exponents.
* `bitLength_pow_le_of_estimate`, `estimate_lt`: the estimate from both sides.
* `power_eq_ok`, `eq_resultTooLarge_of_power`: what passes the guard, and what is too large for it.
* `bitLength_power_le`: the size of a power that passes.
* `kind_power`: a limit that is too long to be named in a refusal makes another fault of it.
* `power_sound_tight`: all that is said of the guard.
-/
namespace Reckoner

open Outcome

theorem power_of_neg (limits : Limits) (left : Int) {right : Int} (h : right < 0) :
    power limits left right = .error (.expression .negativeExponent) := by
  simp only [power, if_pos h]

/-- On an exponent that is not negative the guard compares natural numbers. -/
theorem power_natCast (limits : Limits) (left : Int) (e : Nat) :
    power limits left e =
      if limits.maxExponent < e then
        .error (.ofLimit limits.maxExponent .exponentTooLarge)
      else if 1 < left.natAbs ∧ limits.maxResultBits < bitLength left * e then
        .error (.ofLimit limits.maxResultBits .resultTooLarge)
      else .ok (left ^ e) := by
  have natural : ¬(e : Int) < 0 := Int.not_lt.2 (Int.natCast_nonneg e)
  have estimate : (bitLength left * e : Int) = ((bitLength left * e : Nat) : Int) := by simp
  simp only [power, if_neg natural, gt_iff_lt, estimate, Int.ofNat_lt, Int.toNat_natCast,
    raise_eq_pow]
  -- `^` on integers stands for `Int.pow`
  rfl

theorem power_eq_ok {limits : Limits} {left right v : Int} :
    power limits left right = .ok v ↔
      ∃ e : Nat, right = e ∧ e ≤ limits.maxExponent ∧
        (left.natAbs ≤ 1 ∨ bitLength left * e ≤ limits.maxResultBits) ∧ v = left ^ e := by
  constructor
  · intro h
    by_cases negative : right < 0
    · rw [power_of_neg limits left negative] at h
      cases h
    · obtain ⟨e, rfl⟩ := Int.eq_ofNat_of_zero_le (Int.not_lt.1 negative)
      rw [power_natCast] at h
      split at h
      · cases h
      · split at h
        · cases h
        · cases h
          exact ⟨e, rfl, by omega, by omega, rfl⟩
  · rintro ⟨e, rfl, inRange, fits, rfl⟩
    rw [power_natCast, if_neg (by omega), if_neg (by omega)]

/-- An exponent within its limit leaves nothing to refuse but the size. -/
theorem eq_resultTooLarge_of_power {limits : Limits} {left : Int} {e : Nat} {f : Fault}
    (inRange : e ≤ limits.maxExponent) (h : power limits left e = .error f) :
    f = .ofLimit limits.maxResultBits .resultTooLarge ∧
      1 < left.natAbs ∧ limits.maxResultBits < bitLength left * e := by
  rw [power_natCast, if_neg (Nat.not_lt.2 inRange)] at h
  split at h
  · rename_i large
    cases h
    exact ⟨rfl, large⟩
  · cases h

/-! ## The estimate -/

/-- What is not estimated to be too large is not too large; a result may always have one bit. -/
theorem bitLength_pow_le_of_estimate {left : Int} {e bits : Nat} (one : 1 ≤ bits)
    (h : left.natAbs ≤ 1 ∨ bitLength left * e ≤ bits) : bitLength (left ^ e) ≤ bits := by
  by_cases zero : e = 0
  · subst zero
    rw [Int.pow_zero]
    exact one
  · rcases h with small | fits
    · have keeps : (left ^ e).natAbs ≤ (1 : Int).natAbs := by
        rw [Int.natAbs_pow, Int.natAbs_one]
        exact (Nat.pow_le_one_iff zero).2 small
      exact Nat.le_trans (bitLength_mono keeps) one
    · exact Nat.le_trans (bitLength_pow_le left zero) fits

/-- The estimate is less than twice the bits of the power. -/
theorem estimate_lt {left : Int} (h : 1 < left.natAbs) (e : Nat) :
    bitLength left * e < 2 * bitLength (left ^ e) := by
  have two : 2 ≤ bitLength left := lt_bitLength_iff.2 h
  have nonzero : left ≠ 0 := by
    rintro rfl
    simp at h
  have below := lt_bitLength_pow nonzero e
  have half : bitLength left * e ≤ 2 * (bitLength left - 1) * e :=
    Nat.mul_le_mul_right e (by omega)
  rw [Nat.mul_assoc] at half
  omega

theorem bitLength_power_le {limits : Limits} {left right v : Int}
    (h : power limits left right = .ok v) : bitLength v ≤ limits.maxResultBits := by
  obtain ⟨e, rfl, -, fits, rfl⟩ := power_eq_ok.1 h
  exact bitLength_pow_le_of_estimate limits.maxResultBits_pos fits

/-! ## Limits that cannot be named -/

theorem Fault.ofLimit_cases (limit : Nat) (cause : Decimal.Short → Malformed) :
    (∃ named : Decimal.Short, named.val = limit ∧
      ofLimit limit cause = expression (cause named)) ∨
      (ofLimit limit cause = unwritable ∧ Decimal.firstLong ≤ limit) := by
  by_cases short : limit < Decimal.firstLong
  · exact .inl ⟨⟨limit, short⟩, rfl, ofLimit_of_lt short cause⟩
  · have long : Decimal.firstLong ≤ limit := Nat.not_lt.1 short
    exact .inr ⟨ofLimit_of_le long cause, long⟩

/-- Only for a limit that is too long a power has another fault than a refusal. -/
theorem kind_power {limits : Limits} {left right : Int} {f : Fault}
    (h : power limits left right = .error f) :
    f.kind = .expression ∨
      (f = .unwritable ∧
        ((limits.maxExponent < right ∧ Decimal.firstLong ≤ limits.maxExponent) ∨
          (right ≤ limits.maxExponent ∧ Decimal.firstLong ≤ limits.maxResultBits))) := by
  by_cases negative : right < 0
  · rw [power_of_neg limits left negative] at h
    cases h
    exact .inl rfl
  · obtain ⟨e, rfl⟩ := Int.eq_ofNat_of_zero_le (Int.not_lt.1 negative)
    by_cases inRange : e ≤ limits.maxExponent
    · obtain ⟨rfl, -⟩ := eq_resultTooLarge_of_power inRange h
      rcases Fault.ofLimit_cases limits.maxResultBits .resultTooLarge with
        ⟨named, -, same⟩ | ⟨same, long⟩
      · exact .inl (congrArg Fault.kind same)
      · exact .inr ⟨same, .inr ⟨Int.ofNat_le.2 inRange, long⟩⟩
    · have above : limits.maxExponent < e := Nat.not_le.1 inRange
      rw [power_natCast, if_pos above] at h
      cases h
      rcases Fault.ofLimit_cases limits.maxExponent .exponentTooLarge with
        ⟨named, -, same⟩ | ⟨same, long⟩
      · exact .inl (congrArg Fault.kind same)
      · exact .inr ⟨same, .inl ⟨Int.ofNat_lt.2 above, long⟩⟩

/-- The guard is sound, and it is tight within a factor of two. A negative exponent and one above
its limit are refused, whatever the base. Any other exponent gives the power itself, which then has
no more bits than a result may have, or a refusal for size, and then the power has more than half as
many. The bases of magnitude at most one are never refused for size. Every refusal is that of an
expression, unless the limit that it is for is too long to be named. -/
theorem power_sound_tight (limits : Limits) (left right : Int) :
    (right < 0 → power limits left right = .error (.expression .negativeExponent)) ∧
    (limits.maxExponent < right → power limits left right =
      .error (.ofLimit limits.maxExponent .exponentTooLarge)) ∧
    (0 ≤ right → right ≤ limits.maxExponent →
      (∀ v, power limits left right = .ok v →
        v = left ^ right.toNat ∧ bitLength v ≤ limits.maxResultBits) ∧
      (∀ f, power limits left right = .error f →
        f = .ofLimit limits.maxResultBits .resultTooLarge ∧
        limits.maxResultBits < 2 * bitLength (left ^ right.toNat)) ∧
      (left = 0 ∨ left = 1 ∨ left = -1 →
        power limits left right = .ok (left ^ right.toNat))) ∧
    (∀ f, power limits left right = .error f →
      f.kind = .expression ∨
      (f = .unwritable ∧
        ((limits.maxExponent < right ∧ Decimal.firstLong ≤ limits.maxExponent) ∨
          (right ≤ limits.maxExponent ∧ Decimal.firstLong ≤ limits.maxResultBits)))) := by
  refine ⟨power_of_neg limits left, fun above => ?above, fun natural inRange => ?inRange,
    fun f => kind_power⟩
  case above =>
    obtain ⟨e, rfl⟩ := Int.eq_ofNat_of_zero_le (a := right) (by omega)
    rw [power_natCast, if_pos (by omega)]
  case inRange =>
    obtain ⟨e, rfl⟩ := Int.eq_ofNat_of_zero_le natural
    rw [Int.toNat_natCast]
    refine ⟨fun v passed => ?_, fun f refused => ?_, fun small => ?_⟩
    · obtain ⟨e', same, -, -, rfl⟩ := power_eq_ok.1 passed
      obtain rfl := Int.ofNat.inj same
      exact ⟨rfl, bitLength_power_le passed⟩
    · obtain ⟨cause, large, estimated⟩ := eq_resultTooLarge_of_power (by omega) refused
      exact ⟨cause, Nat.lt_trans estimated (estimate_lt large e)⟩
    · exact power_eq_ok.2 ⟨e, rfl, by omega, .inl (by omega), rfl⟩

/-- `2 ^ 2` has the three bits that it may have, but four are estimated. -/
example : power ⟨2, 3, by decide⟩ 2 2 = .error (.ofLimit 3 .resultTooLarge) := by decide +kernel

/-- The limit has one digit too many. -/
theorem power_exponent_unnamed :
    power ⟨10 ^ 4300, 1000000, by decide⟩ 1 (10 ^ 4300 + 1) = .error .unwritable ∧
      Fault.unwritable.kind ≠ .expression := by
  decide +kernel

end Reckoner
