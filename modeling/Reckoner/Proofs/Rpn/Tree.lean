import Reckoner.Proofs.Rpn.Stack

/-!
# Expression trees

A tree has operands at its leaves and operators at its inner nodes. Its postorder
is reverse Polish notation, and its value is found by recursion: the left operand,
then the right one, then the operator.

Results:
* `run_postorder`: a postorder puts the value of its tree on top of any stack.
* `value_postorder`: a postorder has exactly the outcome of its tree.
-/
namespace Reckoner

open Outcome

/-- An expression as a tree; every operator keeps its precedence. -/
inductive Tree where
  | number (value : Int)
  | var (name : String)
  | binary (op : BinaryOp) (precedence : Int) (left right : Tree)
  | unary (op : UnaryOp) (precedence : Int) (operand : Tree)
  deriving Repr, DecidableEq

namespace Tree

/-- The elements of a tree, each operator after its operands. -/
def postorder : Tree → Rpn
  | number value => [.number value]
  | var name => [.var name]
  | binary op p left right => left.postorder ++ right.postorder ++ [.operator (.binary op p)]
  | unary op p operand => operand.postorder ++ [.operator (.unary op p)]

/-- The value of a tree; the first fault met from left to right decides. -/
def value (limits : Limits) (store : Store) : Tree → Except Fault Int
  | number value => .ok value
  | var name =>
    match store.get? name with
    | some value => .ok value
    | none => .error (.unknownVariable name)
  | binary op _ left right => do
    let a ← left.value limits store
    let b ← right.value limits store
    op.apply limits a b
  | unary op _ operand => (operand.value limits store).map op.apply

variable (limits : Limits) (store : Store)

theorem run_postorder (t : Tree) (stack : List Int) :
    Rpn.run limits store stack t.postorder = (t.value limits store).map (· :: stack) := by
  induction t generalizing stack with
  | number v => rfl
  | var name =>
    simp only [postorder, Rpn.run_cons, Rpn.step, value]
    cases store.get? name <;> rfl
  | binary op p left right ihl ihr =>
    simp only [postorder, Rpn.run_append, ihl, value]
    cases left.value limits store with
    | error f => rfl
    | ok a =>
      simp only [ok_map, ok_bind, ihr]
      cases right.value limits store with
      | error f => rfl
      | ok b =>
        -- both operands are on the stack, the right one on top
        simp only [ok_map, ok_bind, Rpn.run_cons, Rpn.step]
        cases op.apply limits a b <;> rfl
  | unary op p operand ih =>
    simp only [postorder, Rpn.run_append, ih, value]
    cases operand.value limits store <;> rfl

theorem value_postorder (t : Tree) :
    Rpn.value limits store t.postorder = t.value limits store := by
  rw [Rpn.value_eq_run, run_postorder]
  cases t.value limits store <;> rfl

end Tree

end Reckoner
