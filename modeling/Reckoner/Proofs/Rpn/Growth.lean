import Mathlib.Algebra.BigOperators.Group.List.Basic
import Mathlib.Algebra.Order.Group.Nat
import Reckoner.Proofs.Powers
import Reckoner.Proofs.Rpn.Stack

/-!
# Growth of values

No operator but the power makes more bits than its operands have, and the guard of powers limits
what a power makes. So the bits of all values on the stack are paid for: each operand pays its own
when it is put there, and each power as many as a result may have. The account holds after every
element, however operators are nested or chained, and so for the value that is left at the end.

Main definitions:
* `Rpn.stackBits`: the bits of all values on a stack.
* `Rpn.bitBudget`: the bits that elements pay for.

Results:
* `BinaryOp.bitLength_apply_le`, `UnaryOp.bitLength_apply`: one operator.
* `Steps.stackBits_le`, `run_stackBits_le`: one element, and then all by induction.
* `stackBits_le_bitBudget`: the stack at every moment, and the value.
-/
namespace Reckoner

open Outcome

namespace Element

/-- The bits that an element brings: those of the value of an operand. -/
def bits (store : Store) : Element → Nat
  | number v => bitLength v
  | var name => (store.get? name).elim 0 bitLength
  | _ => 0

def isPower : Element → Bool
  | operator (.binary .pow _) => true
  | _ => false

end Element

namespace Rpn

/-- The bits of all values on a stack. -/
def stackBits (stack : List Int) : Nat := (stack.map bitLength).sum

/-- The bits that elements pay for: those of each operand, at each of its places, and for each
power the most that a result may have. -/
def bitBudget (limits : Limits) (store : Store) (rpn : Rpn) : Nat :=
  (rpn.map (Element.bits store)).sum + limits.maxResultBits * rpn.countP Element.isPower

@[simp]
theorem stackBits_nil : stackBits [] = 0 := rfl

@[simp]
theorem stackBits_cons (v : Int) (stack : List Int) :
    stackBits (v :: stack) = bitLength v + stackBits stack := by
  simp [stackBits]

/-- Values that are taken off take their bits with them. -/
theorem stackBits_le_of_suffix {values stack : List Int} (h : values <:+ stack) :
    stackBits values ≤ stackBits stack := by
  obtain ⟨taken, rfl⟩ := h
  simp [stackBits]

variable {limits : Limits} {store : Store}

theorem bitBudget_cons (e : Element) (rpn : Rpn) :
    bitBudget limits store (e :: rpn) =
      bitBudget limits store [e] + bitBudget limits store rpn := by
  simp only [bitBudget, List.map_cons, List.sum_cons, List.map_nil, List.sum_nil,
    List.countP_cons, List.countP_nil, Nat.mul_add]
  omega

@[simp]
theorem bitBudget_number (v : Int) : bitBudget limits store [.number v] = bitLength v := by
  simp [bitBudget, Element.bits, Element.isPower]

theorem bitBudget_var {name : String} {v : Int} (h : store.get? name = some v) :
    bitBudget limits store [.var name] = bitLength v := by
  simp [bitBudget, Element.bits, Element.isPower, h]

theorem bitBudget_pow (p : Int) :
    bitBudget limits store [.operator (.binary .pow p)] = limits.maxResultBits := by
  simp [bitBudget, Element.bits, Element.isPower]

end Rpn

variable {limits : Limits} {store : Store}

theorem UnaryOp.bitLength_apply (op : UnaryOp) (a : Int) :
    bitLength (op.apply a) = bitLength a := by
  cases op with
  | plus => rfl
  | minus => exact bitLength_neg a

/-- An operator makes no more bits than its operands have, or than it pays for. -/
theorem BinaryOp.bitLength_apply_le {op : BinaryOp} {a b v : Int}
    (h : op.apply limits a b = .ok v) (store : Store) (p : Int) :
    bitLength v ≤
      bitLength a + bitLength b + Rpn.bitBudget limits store [.operator (.binary op p)] := by
  cases op with
  | add =>
    cases h
    exact Nat.le_add_right_of_le (bitLength_add_le a b)
  | sub =>
    cases h
    exact Nat.le_add_right_of_le (bitLength_sub_le a b)
  | mul =>
    cases h
    exact Nat.le_add_right_of_le (bitLength_mul_le a b)
  | div =>
    simp only [BinaryOp.apply, divide] at h
    split at h
    · cases h
    · cases h
      have quotient := bitLength_tdiv_le a b
      omega
  | pow =>
    have guarded := bitLength_power_le h
    rw [Rpn.bitBudget_pow]
    omega

namespace Rpn

/-! ## One element, and then all -/

theorem Steps.stackBits_le {stack stack' : List Int} {e : Element}
    (h : Steps limits store stack e stack') :
    stackBits stack' ≤ stackBits stack + bitBudget limits store [e] := by
  cases h with
  | number v =>
    rw [stackBits_cons, bitBudget_number]
    omega
  | var bound =>
    rw [stackBits_cons, bitBudget_var bound]
    omega
  | binary p applied rest =>
    have result := BinaryOp.bitLength_apply_le applied store p
    simp only [stackBits_cons]
    omega
  | unary op p a rest =>
    simp only [stackBits_cons, UnaryOp.bitLength_apply]
    omega

theorem run_stackBits_le {stack stack' : List Int} {rpn : Rpn}
    (h : run limits store stack rpn = .ok stack') :
    stackBits stack' ≤ stackBits stack + bitBudget limits store rpn := by
  induction rpn generalizing stack with
  | nil =>
    cases h
    omega
  | cons e rpn ih =>
    rw [run_cons] at h
    obtain ⟨next, stepped, rest⟩ := bind_eq_ok.1 h
    have first := (steps_of_step stepped).stackBits_le
    have others := ih rest
    rw [bitBudget_cons]
    omega

/-- At every moment of evaluation the values on the stack, even with some of them taken off for an
operator, have no more bits than the elements evaluated until then pay for. So a value that elements
have has no more bits than they pay for together. -/
theorem stackBits_le_bitBudget (limits : Limits) (store : Store) (rpn : Rpn) :
    (∀ (n : Nat) (stack values : List Int), run limits store [] (rpn.take n) = .ok stack →
      values <:+ stack →
      stackBits values ≤
        ((rpn.take n).map (Element.bits store)).sum +
          limits.maxResultBits * (rpn.take n).countP Element.isPower) ∧
    (∀ v, value limits store rpn = .ok v →
      bitLength v ≤ (rpn.map (Element.bits store)).sum +
        limits.maxResultBits * rpn.countP Element.isPower) := by
  constructor
  · intro n stack values ran taken
    have all := run_stackBits_le ran
    rw [stackBits_nil, Nat.zero_add] at all
    exact Nat.le_trans (stackBits_le_of_suffix taken) all
  · intro v valued
    have last := run_stackBits_le (value_eq_ok.1 valued)
    rwa [stackBits_cons, stackBits_nil, Nat.add_zero, Nat.zero_add] at last

end Rpn

end Reckoner
