import Reckoner.Decimal

/-!
# Numerals

Digits are read and written in blocks. Reading is positional whatever the blocks, for a full
block moves as many places up as it is wide; writing cuts the low blocks off in full width, with
the zeros that they start with. So a number is read back from its digits.

Results:
* `read_eq_ofDigitChars`: digits are read as their value in base ten.
* `read_lt`: the value has no more places than there are digits.
* `ofDigitChars_writeOver`: cutting blocks off changes no value.
* `read_digits`: the digits of a number are read as the number.
* `text_injective`: no two integers have the same text.
-/
namespace Reckoner.Decimal

theorem value_foldl_push (p : Progress) (cs : List Char) :
    (cs.foldl Progress.push p).value = Nat.ofDigitChars 10 cs p.value := by
  induction cs generalizing p with
  | nil => rfl
  | cons c cs ih => rw [List.foldl_cons, ih, p.value_push, Nat.ofDigitChars_cons, digitValue]

theorem read_eq_ofDigitChars (cs : List Char) : read cs = Nat.ofDigitChars 10 cs 0 := by
  have nothing : Progress.start.value = 0 := by simp [Progress.start, Progress.value]
  rw [read, value_foldl_push, nothing]

theorem length_toDigits_le {n places : Nat} (wide : 0 < places) (h : n < Nat.pow 10 places) :
    (Nat.toDigits 10 n).length ≤ places :=
  (Nat.length_toDigits_le_iff (by decide) wide).2 h

theorem blockBase_pos : 0 < blockBase := by
  unfold blockBase
  generalize blockDigits = width
  exact Nat.pow_pos (by decide)

/-- Digits with zeros in front up to some width take as many places, whatever stands before them. -/
theorem ofDigitChars_zeros {n width : Nat} (wide : 0 < width) (h : n < Nat.pow 10 width)
    (high : Nat) :
    Nat.ofDigitChars 10
        (List.replicate (width - (Nat.toDigits 10 n).length) '0' ++ Nat.toDigits 10 n) high =
      Nat.pow 10 width * high + n := by
  have fits : (Nat.toDigits 10 n).length ≤ width := length_toDigits_le wide h
  have all : width - (Nat.toDigits 10 n).length + (Nat.toDigits 10 n).length = width :=
    Nat.sub_add_cancel fits
  have places : 10 ^ (Nat.toDigits 10 n).length *
      (10 ^ (width - (Nat.toDigits 10 n).length) * high) = Nat.pow 10 width * high := by
    rw [← Nat.mul_assoc, ← Nat.pow_add, Nat.add_comm, all]
    rfl
  rw [Nat.ofDigitChars_append, Nat.ofDigitChars_replicate_zero,
    Nat.ofDigitChars_eq_ofDigitChars_zero, Nat.ofDigitChars_ten_toDigits, places]

theorem ofDigitChars_padded {block : Nat} (h : block < blockBase) (high : Nat) :
    Nat.ofDigitChars 10 (padded block) high = blockBase * high + block := by
  have wide : 0 < blockDigits := by decide
  unfold padded
  unfold blockBase at h ⊢
  generalize blockDigits = width at h wide ⊢
  exact ofDigitChars_zeros wide h high

theorem ofDigitChars_writeOver (low : List Char) (blocks n : Nat) :
    Nat.ofDigitChars 10 (writeOver low blocks n) 0 = Nat.ofDigitChars 10 low n := by
  have whole (low : List Char) (n : Nat) :
      Nat.ofDigitChars 10 (Nat.toDigits 10 n ++ low) 0 = Nat.ofDigitChars 10 low n := by
    rw [Nat.ofDigitChars_append, Nat.ofDigitChars_ten_toDigits]
  induction blocks generalizing low n with
  | zero => exact whole low n
  | succ blocks ih =>
    rw [writeOver]
    split
    · exact whole low n
    · rw [ih, Nat.ofDigitChars_append, ofDigitChars_padded (Nat.mod_lt n blockBase_pos),
        Nat.div_add_mod]

/-- A number is read back from its digits. -/
theorem read_digits (n : Nat) : read (digits n) = n := by
  rw [read_eq_ofDigitChars, digits, ofDigitChars_writeOver, Nat.ofDigitChars_nil]

theorem digits_injective {m n : Nat} (h : digits m = digits n) : m = n := by
  rw [← read_digits m, h, read_digits]

theorem isDigit_of_mem_padded {block : Nat} {c : Char} (h : c ∈ padded block) :
    c.isDigit = true := by
  rcases List.mem_append.1 h with zero | digit
  · rw [List.eq_of_mem_replicate zero]
    rfl
  · exact Nat.isDigit_of_mem_toDigits (by decide) (by decide) digit

theorem isDigit_of_mem_writeOver {low : List Char} (h : ∀ c ∈ low, c.isDigit = true)
    (blocks n : Nat) : ∀ c ∈ writeOver low blocks n, c.isDigit = true := by
  have whole {low : List Char} (h : ∀ c ∈ low, c.isDigit = true) (n : Nat) :
      ∀ c ∈ Nat.toDigits 10 n ++ low, c.isDigit = true :=
    List.forall_mem_append.2
      ⟨fun _ => Nat.isDigit_of_mem_toDigits (by decide) (by decide), h⟩
  induction blocks generalizing low n with
  | zero => exact whole h n
  | succ blocks ih =>
    rw [writeOver]
    split
    · exact whole h n
    · exact ih (List.forall_mem_append.2 ⟨fun _ => isDigit_of_mem_padded, h⟩) _

theorem isDigit_of_mem_digits {n : Nat} {c : Char} (h : c ∈ digits n) : c.isDigit = true :=
  isDigit_of_mem_writeOver (List.forall_mem_nil _) _ n c h

theorem writeOver_ne_nil (low : List Char) (blocks n : Nat) : writeOver low blocks n ≠ [] := by
  induction blocks generalizing low n with
  | zero => exact List.append_ne_nil_of_left_ne_nil Nat.toDigits_ne_nil _
  | succ blocks ih =>
    rw [writeOver]
    split
    · exact List.append_ne_nil_of_left_ne_nil Nat.toDigits_ne_nil _
    · exact ih _ _

theorem digits_ne_nil (n : Nat) : digits n ≠ [] := writeOver_ne_nil _ _ n

/-! ## Integers -/

theorem chars_of_nonneg {z : Int} (h : 0 ≤ z) : chars z = digits z.natAbs :=
  if_neg (Int.not_lt.2 h)

theorem chars_of_neg {z : Int} (h : z < 0) : chars z = '-' :: digits z.natAbs := if_pos h

theorem minus_notMem_digits (n : Nat) : '-' ∉ digits n := fun mem => by
  have digit := isDigit_of_mem_digits mem
  revert digit
  decide

/-- An integer is known from its characters: a digit is no sign. -/
theorem chars_injective {z w : Int} (h : chars z = chars w) : z = w := by
  rcases Int.lt_or_le z 0 with zNeg | zPos <;> rcases Int.lt_or_le w 0 with wNeg | wPos
  · rw [chars_of_neg zNeg, chars_of_neg wNeg] at h
    have magnitude := digits_injective (List.cons.inj h).2
    omega
  · rw [chars_of_neg zNeg, chars_of_nonneg wPos] at h
    exact absurd (h ▸ List.mem_cons_self ..) (minus_notMem_digits _)
  · rw [chars_of_nonneg zPos, chars_of_neg wNeg] at h
    exact absurd (h ▸ List.mem_cons_self ..) (minus_notMem_digits _)
  · rw [chars_of_nonneg zPos, chars_of_nonneg wPos] at h
    have magnitude := digits_injective h
    omega

theorem toList_text (z : Int) : (text z).toList = chars z := String.toList_ofList

theorem text_injective {z w : Int} (h : text z = text w) : z = w := by
  refine chars_injective ?_
  rw [← toList_text, h, toList_text]

theorem eq_minus_or_isDigit {z : Int} {c : Char} (h : c ∈ chars z) :
    c = '-' ∨ c.isDigit = true := by
  unfold chars at h
  split at h
  · exact (List.mem_cons.1 h).imp id isDigit_of_mem_digits
  · exact .inr (isDigit_of_mem_digits h)

/-- The text of an integer ends with a digit. -/
theorem getLast?_chars (z : Int) : ∃ c, (chars z).getLast? = some c ∧ c.isDigit = true := by
  have last := List.getLast?_eq_some_getLast (digits_ne_nil z.natAbs)
  have digit := isDigit_of_mem_digits (List.getLast_mem (digits_ne_nil z.natAbs))
  rcases Int.lt_or_le z 0 with neg | pos
  · rw [chars_of_neg neg, List.getLast?_cons, last]
    exact ⟨_, rfl, digit⟩
  · rw [chars_of_nonneg pos, last]
    exact ⟨_, rfl, digit⟩

end Reckoner.Decimal
