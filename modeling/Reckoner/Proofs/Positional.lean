import Mathlib.Algebra.Order.Ring.Nat
import Reckoner.Proofs.Numerals
import Reckoner.Proofs.Scan

/-!
# Positional notation

In base ten a digit counts ten times as much with every place after it. That is how digits are
read, at any length and whatever the blocks. An integer is written with no zero in front, and
without a zero in front there is only one way to write it: digits that are added behind a number
other than zero are the digits of the greater number. So the blocks leave no trace in what is
written either, however wide they are, since each is padded with the zeros that it starts with.

Main definitions:
* `placeValue`: what digits denote, place by place.
* `Plain`: digits without a zero in front.
* `IsNumeral`: the numeral of an integer.

Results:
* `read_append`, `read_eq_placeValue`: reading a block of any width, and reading place by place.
* `toDigits_append`: digits behind the digits of a number.
* `Plain.toDigits_read`: digits without a zero in front are those of their value.
* `digits_eq_toDigits`: writing in blocks is writing digit by digit.
* `text_eq_iff`: the text of an integer is its numeral.
* `digits_read`: what is left of digits that are read and written again.
* `positional_notation`: all of it.
-/
namespace Reckoner.Decimal

/-- What digits denote: each counts its value, ten times for every place after it. -/
def placeValue : List Char → Nat
  | [] => 0
  | c :: cs => digitValue c * 10 ^ cs.length + placeValue cs

/-- A block moves what is before it as many places up as it is wide. -/
theorem read_append (high low : List Char) :
    read (high ++ low) = read high * 10 ^ low.length + read low := by
  simp only [read_eq_ofDigitChars]
  rw [Nat.ofDigitChars_append, Nat.ofDigitChars_eq_ofDigitChars_zero, Nat.mul_comm]

theorem read_singleton (c : Char) : read [c] = digitValue c := by
  rw [read_eq_ofDigitChars, Nat.ofDigitChars_cons, Nat.ofDigitChars_nil, digitValue]
  omega

theorem read_cons (c : Char) (cs : List Char) :
    read (c :: cs) = digitValue c * 10 ^ cs.length + read cs := by
  rw [← List.singleton_append, read_append, read_singleton]

theorem read_eq_placeValue (cs : List Char) : read cs = placeValue cs := by
  induction cs with
  | nil => rfl
  | cons c cs ih => rw [read_cons, ih, placeValue]

/-- Zeros in front say nothing. -/
theorem read_dropWhile_zero (cs : List Char) : read (cs.dropWhile (· == '0')) = read cs := by
  induction cs with
  | nil => rfl
  | cons c cs ih =>
    rw [List.dropWhile_cons]
    split
    · rename_i zero
      obtain rfl : c = '0' := beq_iff_eq.1 zero
      have nothing : digitValue '0' = 0 := rfl
      rw [ih, read_cons, nothing]
      omega
    · rfl

/-! ## Digits without a zero in front -/

/-- Digits without a zero in front; zero itself is written as one. -/
structure Plain (cs : List Char) : Prop where
  digits : ∀ c ∈ cs, c.isDigit = true
  nonempty : cs ≠ []
  leading : cs.head? = some '0' → cs = ['0']

theorem digitValue_lt {c : Char} (h : c.isDigit = true) : digitValue c < 10 := by
  have range := Text.isDigit_iff.1 h
  have zero : '0'.toNat = 48 := rfl
  unfold digitValue
  omega

theorem toDigits_digitValue {c : Char} (h : c.isDigit = true) :
    Nat.toDigits 10 (digitValue c) = [c] := by
  have range := Text.isDigit_iff.1 h
  have zero : '0'.toNat = 48 := rfl
  have same : Nat.digitChar (digitValue c) = c := by
    rw [← Char.toNat_inj, Nat.toNat_digitChar_of_lt_ten (digitValue_lt h), digitValue]
    omega
  rw [Nat.toDigits_of_lt_base (digitValue_lt h), same]

/-- Digits that are added behind a number other than zero are the last of a greater number. -/
theorem toDigits_append {n : Nat} (h : n ≠ 0) {cs : List Char}
    (digits : ∀ c ∈ cs, c.isDigit = true) :
    Nat.toDigits 10 n ++ cs = Nat.toDigits 10 (Nat.ofDigitChars 10 cs n) := by
  induction cs generalizing n with
  | nil => rw [List.append_nil, Nat.ofDigitChars_nil]
  | cons c cs ih =>
    obtain ⟨digit, others⟩ := List.forall_mem_cons.1 digits
    have greater : 10 * n + digitValue c ≠ 0 := by omega
    calc Nat.toDigits 10 n ++ c :: cs
        = Nat.toDigits 10 n ++ Nat.toDigits 10 (digitValue c) ++ cs := by
          rw [toDigits_digitValue digit, List.append_assoc, List.singleton_append]
      _ = Nat.toDigits 10 (10 * n + digitValue c) ++ cs := by
          rw [Nat.toDigits_append_toDigits (by decide) (Nat.pos_of_ne_zero h) (digitValue_lt digit)]
      _ = Nat.toDigits 10 (Nat.ofDigitChars 10 (c :: cs) n) := by
          rw [ih greater others, Nat.ofDigitChars_cons, digitValue]

theorem head?_toDigits {n : Nat} (h : n ≠ 0) : (Nat.toDigits 10 n).head? ≠ some '0' := by
  induction n using Nat.strongRecOn with
  | ind n ih =>
    rw [Nat.toDigits_eq_if (by decide)]
    split
    · simpa using h
    · rw [List.head?_append_of_ne_nil _ Nat.toDigits_ne_nil]
      exact ih (n / 10) (by omega) (by omega)

theorem plain_toDigits (n : Nat) : Plain (Nat.toDigits 10 n) where
  digits _ := Nat.isDigit_of_mem_toDigits (by decide) (by decide)
  nonempty := Nat.toDigits_ne_nil
  leading zero := by
    by_cases h : n = 0
    · rw [h, Nat.toDigits_zero]
    · exact absurd zero (head?_toDigits h)

/-- There is no other way to write a number without a zero in front. -/
theorem Plain.toDigits_read {cs : List Char} (h : Plain cs) : Nat.toDigits 10 (read cs) = cs := by
  cases cs with
  | nil => exact absurd rfl h.nonempty
  | cons c rest =>
    obtain ⟨digit, others⟩ := List.forall_mem_cons.1 h.digits
    by_cases zero : c = '0'
    · subst zero
      rw [h.leading rfl]
      rfl
    · have positive : digitValue c ≠ 0 := by
        intro nothing
        have single := toDigits_digitValue digit
        rw [nothing, Nat.toDigits_zero] at single
        exact zero (List.cons.inj single).1.symm
      rw [read_eq_ofDigitChars, Nat.ofDigitChars_cons, Nat.mul_zero, Nat.zero_add, ← digitValue,
        ← toDigits_append positive others, toDigits_digitValue digit, List.singleton_append]

/-! ## Writing -/

theorem writeOver_eq_toDigits (low : List Char) (blocks n : Nat) :
    writeOver low blocks n = Nat.toDigits 10 n ++ low := by
  induction blocks generalizing low n with
  | zero => rfl
  | succ blocks ih =>
    rw [writeOver]
    split
    · rfl
    · rename_i large
      have high : n / blockBase ≠ 0 := Nat.div_ne_zero_iff.2 ⟨blockBase_pos.ne', by omega⟩
      have small : n % blockBase < blockBase := Nat.mod_lt n blockBase_pos
      rw [ih, ← List.append_assoc, toDigits_append high fun _ => isDigit_of_mem_padded,
        ofDigitChars_padded small, Nat.div_add_mod]

/-- Writing in blocks is writing digit by digit. -/
theorem digits_eq_toDigits (n : Nat) : digits n = Nat.toDigits 10 n := by
  rw [digits, writeOver_eq_toDigits, List.append_nil]

theorem plain_digits (n : Nat) : Plain (digits n) := by
  rw [digits_eq_toDigits]
  exact plain_toDigits n

/-- Of digits that are read and written again the zeros in front are lost; a zero is left when there
is nothing else. -/
theorem digits_read {cs : List Char} (h : ∀ c ∈ cs, c.isDigit = true) :
    digits (read cs) =
      if cs.dropWhile (· == '0') = [] then ['0'] else cs.dropWhile (· == '0') := by
  rw [← read_dropWhile_zero]
  split
  · rename_i nothing
    rw [nothing]
    rfl
  · rename_i nonempty
    rw [digits_eq_toDigits]
    refine Plain.toDigits_read ⟨fun c mem => h c ?_, nonempty, fun zero => ?_⟩
    · exact (List.dropWhile_sublist _).subset mem
    · have notZero := List.head?_dropWhile_not (· == '0') cs
      rw [zero] at notZero
      cases notZero

/-! ## Integers -/

/-- The numeral of an integer: its magnitude without a zero in front, after a minus if the integer
is negative. -/
def IsNumeral (z : Int) (text : String) : Prop :=
  ∃ magnitude, Plain magnitude ∧ placeValue magnitude = z.natAbs ∧
    text.toList = if z < 0 then '-' :: magnitude else magnitude

theorem text_eq_iff {z : Int} {t : String} : text z = t ↔ IsNumeral z t := by
  constructor
  · rintro rfl
    refine ⟨digits z.natAbs, plain_digits _, ?_, toList_text z⟩
    rw [← read_eq_placeValue, read_digits]
  · rintro ⟨magnitude, plain, value, written⟩
    have same : digits z.natAbs = magnitude := by
      rw [digits_eq_toDigits, ← value, ← read_eq_placeValue, plain.toDigits_read]
    rw [← String.toList_inj, written, toList_text, chars, same]

theorem read_text {z : Int} (h : 0 ≤ z) : (read (text z).toList : Int) = z := by
  rw [toList_text, chars_of_nonneg h, read_digits, Int.natAbs_of_nonneg h]

/-- Digits are read as what they denote place by place, however many there are, with zeros in front
and even none at all. The text of an integer is its numeral: a minus just before a negative one, and
no zero in front of any but zero. So an integer that is not negative is read back from its text,
and of digits that are read and written again only the zeros in front are lost. -/
theorem positional_notation :
    (∀ cs : List Char, read cs = placeValue cs) ∧
    (∀ (z : Int) (t : String), text z = t ↔ IsNumeral z t) ∧
    (∀ z : Int, 0 ≤ z → (read (text z).toList : Int) = z) ∧
    (∀ cs : List Char, (∀ c ∈ cs, c.isDigit = true) → (text (read cs)).toList =
      if cs.dropWhile (· == '0') = [] then ['0'] else cs.dropWhile (· == '0')) := by
  refine ⟨read_eq_placeValue, fun z t => text_eq_iff, fun z => read_text, fun cs h => ?_⟩
  rw [toList_text, chars_of_nonneg (Int.natCast_nonneg _), Int.natAbs_natCast, digits_read h]

/-- A block that starts with zeros keeps them within a number, and loses them in front of it. -/
example : read "0070".toList = 70 ∧ text (-1070) = "-1070" := by decide +kernel

end Reckoner.Decimal
