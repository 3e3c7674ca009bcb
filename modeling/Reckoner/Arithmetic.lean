import Reckoner.Fault
import Reckoner.Limits

/-!
# Arithmetic

The operators on integers of any size. Division truncates toward zero; a power
is refused before it is computed when it is too large for the limits.
-/
namespace Reckoner

/-- The number of binary digits of the magnitude; zero has none. -/
def bitLength (z : Int) : Nat := if z = 0 then 0 else z.natAbs.log2 + 1

/-- The quotient truncated toward zero. -/
def divide (left right : Int) : Except Fault Int :=
  if right = 0 then .error .divisionByZero else .ok (left.tdiv right)

/-- A power by an exponent of any size: bases of magnitude at most one need no multiplication. -/
def raise (base : Int) (exponent : Nat) : Int :=
  if exponent = 0 then 1
  else if base.natAbs ≤ 1 then (if exponent % 2 = 0 then base.natAbs else base)
  else Int.pow base exponent

theorem raise_eq_pow (base : Int) (exponent : Nat) :
    raise base exponent = Int.pow base exponent := by
  unfold raise
  split
  · subst_vars; cases base <;> simp [Int.pow]
  · rename_i positive
    split
    · match base with
      | .ofNat 0 => simp [Int.pow, Nat.zero_pow (Nat.pos_of_ne_zero positive)]
      | .ofNat 1 => simp [Int.pow]
      | .ofNat (k + 2) => rename_i small; simp at small; omega
      | .negSucc 0 => simp [Int.pow]
      | .negSucc (k + 1) => simp_all
    · rfl

/-- The power, unless the exponent is negative or above the limit, or `bitLength left * right`,
which bounds the size of the result, is above the limit. Bases of magnitude at most one keep their
size. -/
def power (limits : Limits) (left right : Int) : Except Fault Int :=
  if right < 0 then .error (.expression .negativeExponent)
  else if right > limits.maxExponent then
    .error (.ofLimit limits.maxExponent .exponentTooLarge)
  else if left.natAbs > 1 ∧ bitLength left * right > limits.maxResultBits then
    .error (.ofLimit limits.maxResultBits .resultTooLarge)
  else .ok (raise left right.toNat)

def BinaryOp.apply (limits : Limits) (op : BinaryOp) (left right : Int) : Except Fault Int :=
  match op with
  | .add => .ok (left + right)
  | .sub => .ok (left - right)
  | .mul => .ok (left * right)
  | .div => divide left right
  | .pow => power limits left right

def UnaryOp.apply (op : UnaryOp) (operand : Int) : Int :=
  match op with
  | .plus => operand
  | .minus => -operand

/-- A name in place of an operator's symbol that no operator has. -/
structure UnknownOperator where
  name : String
  deriving Repr, DecidableEq

def UnknownOperator.message (u : UnknownOperator) : String := Text.quoted u.name

def BinaryOp.named (name : String) : Except UnknownOperator BinaryOp :=
  match BinaryOp.ofText? name with
  | some op => .ok op
  | none => .error ⟨name⟩

def UnaryOp.named (name : String) : Except UnknownOperator UnaryOp :=
  match UnaryOp.ofText? name with
  | some op => .ok op
  | none => .error ⟨name⟩

end Reckoner
