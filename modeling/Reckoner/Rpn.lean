import Reckoner.Arithmetic
import Reckoner.Element
import Reckoner.Store

/-!
# Reverse Polish notation

Elements in infix order are put into reverse Polish notation, in which every
operator follows its operands and no parentheses are needed, and are evaluated
there with a stack of values.

Operands are written at once. A binary operator first releases the operators that
bind at least as tightly and were read since the last open parenthesis; a sign
releases none, for nothing waits for the operand that follows it. A `)` releases
everything down to its `(`.

Main definitions:
* `Rpn.ofElements`: reverse Polish notation of elements in infix order.
* `Rpn.value`: the value of elements in reverse Polish notation.
-/
namespace Reckoner

/-- Elements in the order of reverse Polish notation. -/
abbrev Rpn := List Element

namespace Rpn

/-! ## From infix order -/

/-- What is held back while the elements that follow are read. -/
inductive Held where
  | opening
  | operator (operator : Operator)
  deriving Repr, DecidableEq

/-- A conversion under way. -/
structure Yard where
  /-- the elements written, the last one first -/
  written : List Element
  /-- what is held back, the last one first -/
  held : List Held
  deriving Repr, DecidableEq

namespace Yard

def start : Yard := ⟨[], []⟩

/-- Write the operators held since the last open parenthesis, as long as they satisfy `p`. -/
def release (p : Operator → Bool) (written : List Element) : List Held → Yard
  | .operator op :: held =>
    if p op then release p (.operator op :: written) held else ⟨written, .operator op :: held⟩
  | held => ⟨written, held⟩

def write (y : Yard) (e : Element) : Yard := ⟨e :: y.written, y.held⟩

def hold (y : Yard) (h : Held) : Yard := ⟨y.written, h :: y.held⟩

/-- Read one slot of the infix order. -/
def step (y : Yard) : Option Element → Except Malformed Yard
  | none => .error .emptySlot
  | some (.number value) => .ok (y.write (.number value))
  | some (.var name) => .ok (y.write (.var name))
  | some (.operator (.binary op p)) =>
    .ok ((release (fun waiting => p ≤ waiting.precedence) y.written y.held).hold
      (.operator (.binary op p)))
  | some (.operator (.unary op p)) => .ok (y.hold (.operator (.unary op p)))
  | some .opening => .ok (y.hold .opening)
  | some .closing =>
    match release (fun _ => true) y.written y.held with
    | ⟨written, .opening :: held⟩ => .ok ⟨written, held⟩
    | _ => .error .unmatchedClosing

/-- What is written once nothing follows. -/
def finish (y : Yard) : Except Malformed Rpn :=
  match release (fun _ => true) y.written y.held with
  | ⟨written, []⟩ => .ok written.reverse
  | _ => .error .unmatchedOpening

end Yard

/-- Reverse Polish notation of slots in infix order; a slot may hold no element. -/
def ofSlots (slots : List (Option Element)) : Except Malformed Rpn := do
  (← slots.foldlM Yard.step .start).finish

/-- Reverse Polish notation of elements in infix order. -/
def ofElements (elements : List Element) : Except Malformed Rpn := ofSlots (elements.map some)

/-! ## Evaluation -/

/-- Evaluate one element on a stack of values, the last one first. -/
def step (limits : Limits) (store : Store) (stack : List Int) :
    Element → Except Fault (List Int)
  | .number value => .ok (value :: stack)
  | .var name =>
    match store.get? name with
    | some value => .ok (value :: stack)
    | none => .error (.unknownVariable name)
  | .operator (.binary op p) =>
    match stack with
    | right :: left :: rest => (op.apply limits left right).map (· :: rest)
    | _ => .error (.expression (.tooFewOperands (.binary op p)))
  | .operator (.unary op p) =>
    match stack with
    | operand :: rest => .ok (op.apply operand :: rest)
    | [] => .error (.expression (.noOperand (.unary op p)))
  | .opening => .error (.expression (.strayParenthesis '('))
  | .closing => .error (.expression (.strayParenthesis ')'))

/-- The value of elements in reverse Polish notation. Variables are looked up when they are
reached. -/
def value (limits : Limits) (store : Store) (rpn : Rpn) : Except Fault Int := do
  match ← rpn.foldlM (step limits store) [] with
  | [value] => .ok value
  | stack => .error (.expression (.valuesLeft stack.length))

/-- The texts of the elements, separated by spaces. -/
def text (rpn : Rpn) : String := " ".intercalate (rpn.map Element.text)

end Rpn

end Reckoner
