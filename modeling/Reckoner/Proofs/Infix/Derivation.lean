import Reckoner.Proofs.Placement
import Reckoner.Proofs.Rpn.Tree

/-!
# The infix grammar

The grammar of infix expressions over tokens, one rank for each precedence, loosest
first:

* a sum is a sum, `+` or `-`, and a product; or a product;
* a product is a product, `*` or `/`, and a power; or a power;
* a power is a power, `^`, and an operand; or an operand;
* an operand is a sign and an operand; an integer; an identifier; or a sum in
  parentheses.

A derivation is a syntax tree of the grammar, with the tokens it derives as its yield.
Its value is defined by recursion on it, with no other notation in between.

Results:
* `ofTokens_tokens`: every symbol that a derivation yields is classified as the operator
  or parenthesis that it is in the derivation.
* `value_tree`: parentheses and ranks do not matter for the value once the tree is known.
-/
namespace Reckoner

open Outcome

/-- What the grammar derives, loosest first. -/
inductive Rank where
  | sum
  | product
  | power
  | operand
  deriving Repr, DecidableEq

/-- The rank of the right operands of a rank's operators. -/
def Rank.tighter : Rank → Rank
  | sum => product
  | product => power
  | power => operand
  | operand => operand

/-- The rank of what a binary operator forms. -/
def BinaryOp.rank : BinaryOp → Rank
  | add | sub => .sum
  | mul | div => .product
  | pow => .power

/-- The least precedence of an operator in an expression of the rank. -/
def Rank.precedence : Rank → Int
  | sum => 1
  | product => 2
  | power => 3
  | operand => 4

theorem BinaryOp.precedence_rank (op : BinaryOp) : op.rank.precedence = op.precedence := by
  cases op <;> rfl

theorem BinaryOp.precedence_lt_tighter (op : BinaryOp) :
    op.precedence < op.rank.tighter.precedence := by
  cases op <;> decide

theorem BinaryOp.precedence_lt_operand (op : BinaryOp) :
    op.precedence < Rank.operand.precedence := by
  cases op <;> decide

theorem UnaryOp.precedence_operand (op : UnaryOp) :
    Rank.operand.precedence = op.precedence := by
  cases op <;> rfl

/-- An operator at least as tight as a rank forms this rank or a tighter one. -/
theorem BinaryOp.rank_or_tighter (op : BinaryOp) {r : Rank} (h : r.precedence ≤ op.precedence) :
    r = op.rank ∨ r.tighter.precedence ≤ op.precedence := by
  revert h
  cases r <;> cases op <;> decide

/-- A syntax tree of the infix grammar. -/
inductive Derivation : Rank → Type where
  | integer (value : Int) : Derivation .operand
  | identifier (name : String) : Derivation .operand
  | group (inner : Derivation .sum) : Derivation .operand
  | signed (op : UnaryOp) (operand : Derivation .operand) : Derivation .operand
  | ofOperand (operand : Derivation .operand) : Derivation .power
  | ofPower (power : Derivation .power) : Derivation .product
  | ofProduct (product : Derivation .product) : Derivation .sum
  | binary (op : BinaryOp) (left : Derivation op.rank) (right : Derivation op.rank.tighter) :
    Derivation op.rank

namespace Derivation

variable {r : Rank}

def tokens {r : Rank} : Derivation r → List Token
  | integer value => [.integer value]
  | identifier name => [.identifier name]
  | group inner => .symbol '(' :: inner.tokens ++ [.symbol ')']
  | signed op operand => .symbol op.symbol :: operand.tokens
  | ofOperand d => d.tokens
  | ofPower d => d.tokens
  | ofProduct d => d.tokens
  | binary op left right => left.tokens ++ .symbol op.symbol :: right.tokens

/-- What `left ^ right` is. A result of magnitude above one has about as many bits as its base,
which has `log2 + 1`, times the exponent. -/
def powerOf (limits : Limits) (left right : Int) : Except Fault Int :=
  if right < 0 then .error (.expression .negativeExponent)
  else if limits.maxExponent < right then .error (.ofLimit limits.maxExponent .exponentTooLarge)
  else if 1 < left.natAbs ∧ limits.maxResultBits < (left.natAbs.log2 + 1) * right then
    .error (.ofLimit limits.maxResultBits .resultTooLarge)
  else .ok (Int.pow left right.toNat)

/-- The value: the left operand first, then the right one, then the operator, in the arithmetic of
the integers. The first fault met decides. -/
def value (limits : Limits) (store : Store) {r : Rank} : Derivation r → Except Fault Int
  | integer value => .ok value
  | identifier name =>
    match store.get? name with
    | some value => .ok value
    | none => .error (.unknownVariable name)
  | group inner => inner.value limits store
  | signed op operand => do
    let a ← operand.value limits store
    match op with
    | .plus => .ok a
    | .minus => .ok (-a)
  | ofOperand d => d.value limits store
  | ofPower d => d.value limits store
  | ofProduct d => d.value limits store
  | binary op left right => do
    let a ← left.value limits store
    let b ← right.value limits store
    match op with
    | .add => .ok (a + b)
    | .sub => .ok (a - b)
    | .mul => .ok (a * b)
    | .div => if b = 0 then .error .divisionByZero else .ok (a.tdiv b)
    | .pow => powerOf limits a b

theorem powerOf_eq (limits : Limits) (left right : Int) :
    powerOf limits left right = power limits left right := by
  -- a base of magnitude above one is not zero
  have bits : (1 < left.natAbs ∧ limits.maxResultBits < (left.natAbs.log2 + 1 : Int) * right) ↔
      (left.natAbs > 1 ∧ bitLength left * right > limits.maxResultBits) := by
    refine and_congr_right fun large => ?_
    have nonzero : left ≠ 0 := by
      rintro rfl
      simp at large
    rw [bitLength, if_neg nonzero]
    rfl
  simp only [powerOf, power, bits, raise_eq_pow]

/-! ## Elements -/

def elements {r : Rank} : Derivation r → List Element
  | integer value => [.number value]
  | identifier name => [.var name]
  | group inner => .opening :: inner.elements ++ [.closing]
  | signed op operand => .operator (.unary op op.precedence) :: operand.elements
  | ofOperand d => d.elements
  | ofPower d => d.elements
  | ofProduct d => d.elements
  | binary op left right =>
    left.elements ++ .operator (.binary op op.precedence) :: right.elements

/-- What is derived ends an operand. -/
theorem endsOperand_last (d : Derivation r) (previous : Option Token) :
    Element.endsOperand (d.tokens.getLast?.or previous) = true := by
  induction d generalizing previous with
  | integer v => rfl
  | identifier name => rfl
  | group inner ih =>
    rw [tokens, List.cons_append, Element.last_cons, Element.last_append]
    rfl
  | signed op operand ih =>
    rw [tokens, Element.last_cons]
    exact ih _
  | ofOperand d ih => exact ih previous
  | ofPower d ih => exact ih previous
  | ofProduct d ih => exact ih previous
  | binary op left right ihl ihr =>
    rw [tokens, Element.last_append, Element.last_cons]
    exact ihr _

theorem endsOperand_binary (op : BinaryOp) :
    Element.endsOperand (some (.symbol op.symbol)) = false := by
  cases op <;> rfl

theorem endsOperand_unary (op : UnaryOp) :
    Element.endsOperand (some (.symbol op.symbol)) = false := by
  cases op <;> rfl

/-- Where an operand can start, each token of a derivation is what the derivation says it is. -/
theorem placed_tokens (d : Derivation r) {previous : Option Token}
    (h : Element.endsOperand previous = false) :
    Element.placed previous d.tokens = .ok d.elements := by
  induction d generalizing previous with
  | integer v => rfl
  | identifier name => rfl
  | group inner ih =>
    have opened : Element.endsOperand (some (.symbol '(')) = false := rfl
    rw [tokens, List.cons_append, Element.placed_cons, Element.classify_opening, ok_bind,
      Element.placed_append, ih opened, ok_bind, Element.placed_cons, Element.classify_closing]
    rfl
  | signed op operand ih =>
    rw [tokens, Element.placed_cons, Element.classify_unary h, ok_bind,
      ih (endsOperand_unary op)]
    rfl
  | ofOperand d ih => exact ih h
  | ofPower d ih => exact ih h
  | ofProduct d ih => exact ih h
  | binary op left right ihl ihr =>
    rw [tokens, Element.placed_append, ihl h, ok_bind, Element.placed_cons,
      Element.classify_binary (endsOperand_last left previous), ok_bind,
      ihr (endsOperand_binary op)]
    rfl

theorem count_parentheses (d : Derivation r) :
    d.elements.count .opening = d.elements.count .closing := by
  induction d with
  | integer v => rfl
  | identifier name => rfl
  | group inner ih => simp [elements, ih]
  | signed op operand ih => simpa [elements] using ih
  | ofOperand d ih => exact ih
  | ofPower d ih => exact ih
  | ofProduct d ih => exact ih
  | binary op left right ihl ihr => simp [elements, ihl, ihr]

theorem ofTokens_tokens (d : Derivation r) : Element.ofTokens d.tokens = .ok d.elements := by
  have even : Element.balanced d.elements = true := by
    rw [Element.balanced, count_parentheses, beq_self_eq_true]
  exact Element.ofTokens_eq_ok.2 ⟨d.placed_tokens rfl, even⟩

/-! ## The expression tree -/

/-- The tree of a derivation, without parentheses. -/
def tree {r : Rank} : Derivation r → Tree
  | integer value => .number value
  | identifier name => .var name
  | group inner => inner.tree
  | signed op operand => .unary op op.precedence operand.tree
  | ofOperand d => d.tree
  | ofPower d => d.tree
  | ofProduct d => d.tree
  | binary op left right => .binary op op.precedence left.tree right.tree

theorem value_tree (limits : Limits) (store : Store) (d : Derivation r) :
    d.tree.value limits store = d.value limits store := by
  induction d with
  | integer v => rfl
  | identifier name => rfl
  | group inner ih => exact ih
  | signed op operand ih =>
    rw [tree, Tree.value, ih, value]
    cases operand.value limits store with
    | error f => rfl
    | ok a => cases op <;> rfl
  | ofOperand d ih => exact ih
  | ofPower d ih => exact ih
  | ofProduct d ih => exact ih
  | binary op left right ihl ihr =>
    rw [tree, Tree.value, ihl, ihr, value]
    congr 1
    funext a
    congr 1
    funext b
    cases op with
    | add => rfl
    | sub => rfl
    | mul => rfl
    | div => rfl
    | pow => exact (powerOf_eq limits a b).symm

end Derivation

end Reckoner
