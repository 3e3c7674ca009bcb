import Reckoner.Proofs.ShortLimits

/-!
# Limits that are raised

Limits decide nothing but whether a power is refused. Under limits and under higher ones the same
expression is evaluated in the same steps, as long as no power is refused for the lower limits:
each value on the stack is the same, and each fault. So to raise the limits changes no answer but
those refusals, even where exponents are themselves the values of powers. A lower limit that is too
long to be named in a refusal makes another fault of it, which the higher limits need not have.

Main definitions:
* `Limits.Within`: limits that are nowhere above others.
* `Limits.Refuses`: the faults of powers that are too large for limits.
* `Limits.Lifts`: what an outcome becomes when limits are raised.

Results:
* `power_lifts`, `BinaryOp.apply_lifts`: one operator.
* `Rpn.step_lifts`, `Rpn.run_lifts`: one element, and then all by induction.
* `Expression.value_of_within`: values and faults of expressions.
-/
namespace Reckoner

namespace Limits

/-- Neither limit is above that of `high`. -/
structure Within (low high : Limits) : Prop where
  maxExponent : low.maxExponent ≤ high.maxExponent
  maxResultBits : low.maxResultBits ≤ high.maxResultBits

/-- The faults of a power that only the limits refuse, which name the limit. -/
def Refuses (limits : Limits) (f : Fault) : Prop :=
  (∃ limit : Decimal.Short, limit.val = limits.maxExponent ∧
    f = .expression (.exponentTooLarge limit)) ∨
  ∃ limit : Decimal.Short, limit.val = limits.maxResultBits ∧
    f = .expression (.resultTooLarge limit)

theorem refuses_ofLimit_exponent (limits : Limits) :
    limits.Refuses (.ofLimit limits.maxExponent .exponentTooLarge) ∨
      Fault.ofLimit limits.maxExponent .exponentTooLarge = .unwritable := by
  rcases Fault.ofLimit_cases limits.maxExponent .exponentTooLarge with
    ⟨named, value, same⟩ | ⟨same, -⟩
  · exact .inl (.inl ⟨named, value, same⟩)
  · exact .inr same

theorem refuses_ofLimit_bits (limits : Limits) :
    limits.Refuses (.ofLimit limits.maxResultBits .resultTooLarge) ∨
      Fault.ofLimit limits.maxResultBits .resultTooLarge = .unwritable := by
  rcases Fault.ofLimit_cases limits.maxResultBits .resultTooLarge with
    ⟨named, value, same⟩ | ⟨same, -⟩
  · exact .inl (.inr ⟨named, value, same⟩)
  · exact .inr same

variable {α β : Type}

/-- Of two outcomes under `limits` and under higher ones, the first is a refusal for the limits, if
it can be written, or they are the same. -/
inductive Lifts (limits : Limits) : Except Fault α → Except Fault α → Prop where
  | same (x : Except Fault α) : Lifts limits x x
  | refused {f : Fault} (h : limits.Refuses f ∨ f = .unwritable) (y : Except Fault α) :
    Lifts limits (.error f) y

namespace Lifts

variable {limits : Limits} {x y : Except Fault α}

theorem bind (h : limits.Lifts x y) {f g : α → Except Fault β}
    (next : ∀ a, limits.Lifts (f a) (g a)) : limits.Lifts (x >>= f) (y >>= g) := by
  cases h with
  | same x =>
    cases x with
    | error fault => exact .same _
    | ok a => exact next a
  | refused h y => exact .refused h _

theorem map (h : limits.Lifts x y) (f : α → β) : limits.Lifts (x.map f) (y.map f) := by
  cases h with
  | same x => exact .same _
  | refused h y => exact .refused h _

theorem eq_of_ok {a : α} (h : limits.Lifts (.ok a) y) : y = .ok a := by
  cases h with
  | same x => rfl

theorem eq_of_error {f : Fault} (h : limits.Lifts (.error f) y) (other : ¬limits.Refuses f)
    (written : f ≠ .unwritable) : y = .error f := by
  cases h with
  | same x => rfl
  | refused refused y => exact absurd refused (not_or.2 ⟨other, written⟩)

end Lifts

end Limits

variable {low high : Limits}

theorem power_lifts (h : low.Within high) (left right : Int) :
    low.Lifts (power low left right) (power high left right) := by
  by_cases negative : right < 0
  · rw [power_of_neg low left negative, power_of_neg high left negative]
    exact .same _
  · obtain ⟨e, rfl⟩ := Int.eq_ofNat_of_zero_le (Int.not_lt.1 negative)
    have exponent := h.maxExponent
    have bits := h.maxResultBits
    rw [power_natCast, power_natCast]
    split
    · exact .refused low.refuses_ofLimit_exponent _
    · -- what is not above the lower limit is not above the higher one
      rw [if_neg (show ¬high.maxExponent < e by omega)]
      split
      · exact .refused low.refuses_ofLimit_bits _
      · rw [if_neg (show ¬(1 < left.natAbs ∧ high.maxResultBits < bitLength left * e) by omega)]
        exact .same _

theorem BinaryOp.apply_lifts (h : low.Within high) (op : BinaryOp) (left right : Int) :
    low.Lifts (op.apply low left right) (op.apply high left right) := by
  cases op with
  | add => exact .same _
  | sub => exact .same _
  | mul => exact .same _
  | div => exact .same _
  | pow => exact power_lifts h left right

/-! ## Evaluation -/

namespace Rpn

theorem step_lifts (h : low.Within high) (store : Store) (stack : List Int) (e : Element) :
    low.Lifts (step low store stack e) (step high store stack e) := by
  cases e with
  | number v => exact .same _
  | var name => exact .same _
  | operator op =>
    cases op with
    | binary op p =>
      rcases stack with _ | ⟨right, _ | ⟨left, rest⟩⟩
      · exact .same _
      · exact .same _
      · exact (BinaryOp.apply_lifts h op left right).map (· :: rest)
    | unary op p => exact .same _
  | opening => exact .same _
  | closing => exact .same _

theorem run_lifts (h : low.Within high) (store : Store) (stack : List Int) (rpn : Rpn) :
    low.Lifts (run low store stack rpn) (run high store stack rpn) := by
  induction rpn generalizing stack with
  | nil => exact .same _
  | cons e rpn ih =>
    rw [run_cons, run_cons]
    exact (step_lifts h store stack e).bind fun next => ih next

theorem value_lifts (h : low.Within high) (store : Store) (rpn : Rpn) :
    low.Lifts (value low store rpn) (value high store rpn) := by
  rw [value_eq_run, value_eq_run]
  exact (run_lifts h store [] rpn).bind fun stack => .same _

end Rpn

theorem Token.value_lifts (h : low.Within high) (store : Store) (tokens : List Token) :
    low.Lifts (Token.value low store tokens) (Token.value high store tokens) :=
  (Limits.Lifts.same _).bind fun rpn => Rpn.value_lifts h store rpn

/-- To raise the limits changes no answer. A value stays the same value, and a fault the same fault,
with its kind and its detail, unless it is that of a power that the lower limits refuse, or cannot
refuse since the limit is too long to be named. Under limits that are short nothing is of the last
kind. -/
theorem Expression.value_of_within (h : low.Within high) (store : Store) (text : String) :
    (∀ v, value low store text = .ok v → value high store text = .ok v) ∧
    (∀ f, value low store text = .error f → ¬low.Refuses f → f ≠ .unwritable →
      value high store text = .error f) ∧
    (low.Short → value low store text ≠ .error .unwritable) := by
  have lifts := Token.value_lifts h store (Token.scan text)
  refine ⟨fun v valued => ?_, fun f faulty other written => ?_,
    fun short => Token.value_ne_unwritable short store (Token.scan text)⟩
  · rw [value] at valued
    rw [valued] at lifts
    exact lifts.eq_of_ok
  · rw [value] at faulty
    rw [faulty] at lifts
    exact lifts.eq_of_error other written

/-- An exponent that is a power itself, a fault after a power, and a power that is refused. -/
theorem Expression.value_of_within_nested :
    let low : Limits := ⟨9, 20, by decide⟩
    let store := Store.empty.set "a" 3
    low.Within {} ∧ low.Short ∧
      value low store "2 ^ (a ^ 2)" = .ok 512 ∧ value {} store "2 ^ (a ^ 2)" = .ok 512 ∧
      value low store "2 ^ a + b" = .error (.unknownVariable "b") ∧
      value {} store "2 ^ a + b" = .error (.unknownVariable "b") ∧
      (∃ f, value low store "2 ^ 10 / 0" = .error f ∧ low.Refuses f ∧ f ≠ .unwritable) ∧
      value {} store "2 ^ 10 / 0" = .error .divisionByZero := by
  intro low store
  have within : low.Within {} := ⟨by decide, by decide⟩
  have short : low.Short := ⟨by decide +kernel, by decide +kernel⟩
  have valued : value low store "2 ^ (a ^ 2)" = .ok 512 := by decide +kernel
  have faulty : value low store "2 ^ a + b" = .error (.unknownVariable "b") := by decide +kernel
  have refused : value low store "2 ^ 10 / 0" =
      .error (.expression (.exponentTooLarge ⟨9, by decide +kernel⟩)) := by decide +kernel
  refine ⟨within, short, valued, ?_, faulty, ?_, ⟨_, refused, .inl ⟨_, rfl, rfl⟩, ?_⟩,
    by decide +kernel⟩
  · exact (value_of_within within store _).1 512 valued
  · refine (value_of_within within store _).2.1 _ faulty ?_ Fault.noConfusion
    rintro (⟨limit, -, same⟩ | ⟨limit, -, same⟩) <;> cases same
  · exact fun escapes => (value_of_within within store _).2.2 short (escapes ▸ refused)

/-- Under the lower limit the exponent is refused, but the refusal cannot be written. -/
theorem Expression.value_of_raised_unnamed :
    let low : Limits := ⟨10 ^ 4300, 1000000, by decide⟩
    let high : Limits := ⟨10 ^ 4301, 1000000, by decide⟩
    let store := Store.empty.set "b" (10 ^ 4300 + 1)
    low.Within high ∧ value low store "1 ^ b" = .error .unwritable ∧
      ¬low.Refuses .unwritable ∧ value high store "1 ^ b" = .ok 1 := by
  refine ⟨⟨by decide +kernel, by decide⟩, by decide +kernel, ?_, by decide +kernel⟩
  rintro (⟨limit, -, same⟩ | ⟨limit, -, same⟩) <;> cases same

end Reckoner
