import Reckoner.Proofs.Rpn.Tree

/-!
# Precedence climbing

Precedence climbing reads elements in infix order by recursion, whatever precedences the
operators have. Under a bound it takes binary operators of at least that precedence only:

* an operand is a number, a variable, what stands between parentheses, read without a
  bound, or a sign of precedence `p` before what is read under the bound `p + 1`;
* after an operand, as long as a binary operator comes next whose precedence `q` the bound
  admits, it becomes the parent of the tree so far and of what is read after it under the
  bound `q + 1`.

A sign need not bind tighter than the operators after its operand, nor an operator tighter
than the signs before it, so the operators that wait for their right operands are in no
order.

Main definitions:
* `Climbing.climb`: precedence climbing under a bound, or without one.
* `Climbing.stopped_climb`: no operator that the bound admits comes right after what is read.
-/
namespace Reckoner

namespace Climbing

/-- What is read of some elements: a tree, and the elements after it. -/
structure Reading (es : List Element) where
  tree : Tree
  rest : List Element
  shorter : rest.length < es.length

/-- Whether a bound admits a binary operator of precedence `q`; without a bound all are. -/
def admits (bound : Option Int) (q : Int) : Bool := bound.all (· ≤ q)

mutual

def operand (es : List Element) : Option (Reading es) :=
  match es with
  | .number value :: rest => some ⟨.number value, rest, Nat.lt_succ_self _⟩
  | .var name :: rest => some ⟨.var name, rest, Nat.lt_succ_self _⟩
  | .opening :: rest =>
    match climb none rest with
    | some ⟨t, .closing :: after, shorter⟩ =>
      some ⟨t, after, Nat.lt_succ_of_lt (Nat.lt_of_succ_lt shorter)⟩
    | _ => none
  | .operator (.unary op p) :: rest =>
    match climb (some (p + 1)) rest with
    | some inner => some ⟨.unary op p inner.tree, inner.rest, Nat.lt_succ_of_lt inner.shorter⟩
    | none => none
  | _ => none
termination_by 2 * es.length

/-- Read an operand, and all that may follow it under the bound. -/
def climb (bound : Option Int) (es : List Element) : Option (Reading es) :=
  match operand es with
  | some left => extend bound left
  | none => none
termination_by 2 * es.length + 1
decreasing_by
  · omega
  · have shorter := left.shorter
    omega

/-- Go on after `left` as long as the bound admits the operator that comes next. -/
def extend (bound : Option Int) {es : List Element} (left : Reading es) : Option (Reading es) :=
  match next : left.rest with
  | .operator (.binary op q) :: rest =>
    if admits bound q then
      match climb (some (q + 1)) rest with
      | some right =>
        have shorter : right.rest.length < left.rest.length :=
          next ▸ Nat.lt_succ_of_lt right.shorter
        extend bound ⟨.binary op q left.tree right.tree, right.rest,
          Nat.lt_trans shorter left.shorter⟩
      | none => none
    else some left
  | _ => some left
termination_by 2 * left.rest.length
decreasing_by
  · rw [next, List.length_cons]
    omega
  · omega

end

/-! ## Where reading stops -/

/-- No binary operator that the bound admits comes first. -/
def Stopped (bound : Option Int) (rest : List Element) : Prop :=
  ∀ op q after, rest = .operator (.binary op q) :: after → admits bound q = false

theorem stopped_extend {bound : Option Int} {es : List Element} {left r : Reading es}
    (h : extend bound left = some r) : Stopped bound r.rest := by
  rw [extend] at h
  split at h
  · rename_i op q rest next
    split at h
    · split at h
      · rename_i right read
        have shorter : right.rest.length < left.rest.length :=
          next ▸ Nat.lt_succ_of_lt right.shorter
        exact stopped_extend h
      · cases h
    · rename_i refused
      cases h
      intro op' q' after first
      cases next.symm.trans first
      exact Bool.eq_false_iff.2 refused
  · rename_i other
    cases h
    intro op q after first
    exact absurd first (other op q after)
termination_by left.rest.length

theorem stopped_climb {bound : Option Int} {es : List Element} {r : Reading es}
    (h : climb bound es = some r) : Stopped bound r.rest := by
  rw [climb] at h
  split at h
  · exact stopped_extend h
  · cases h

end Climbing

end Reckoner
