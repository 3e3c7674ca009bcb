import Reckoner.Rpn
import Reckoner.Proofs.Outcome

/-!
# Evaluation on a stack

Reverse Polish notation is evaluated element by element on a stack of values.

Results:
* `steps_of_step`: all that one element can do when it succeeds.
* `value_eq_ok`: there is a value exactly if a run on the empty stack leaves that
  one value.
* `run_below`: a run that succeeds never looks below its own operands, so it does the
  same above any other values.
* `run_height`: a run that succeeds raises the stack by one for every operand and
  lowers it by one for every binary operator.
-/
namespace Reckoner

namespace Element

def isOperand : Element → Bool
  | number _ | var _ => true
  | _ => false

def isBinary : Element → Bool
  | operator (.binary ..) => true
  | _ => false

end Element

namespace Rpn

open Outcome

variable (limits : Limits) (store : Store)

/-- The stack after evaluating elements on a stack. -/
def run (stack : List Int) (rpn : Rpn) : Except Fault (List Int) :=
  rpn.foldlM (step limits store) stack

@[simp]
theorem run_nil (stack : List Int) : run limits store stack [] = .ok stack := rfl

@[simp]
theorem run_cons (stack : List Int) (e : Element) (rpn : Rpn) :
    run limits store stack (e :: rpn) =
      step limits store stack e >>= fun stack => run limits store stack rpn :=
  List.foldlM_cons

theorem run_append (stack : List Int) (rpn rest : Rpn) :
    run limits store stack (rpn ++ rest) =
      run limits store stack rpn >>= fun stack => run limits store stack rest :=
  List.foldlM_append

/-- The value that a stack holds once everything is evaluated. -/
def sole : List Int → Except Fault Int
  | [value] => .ok value
  | stack => .error (.expression (.valuesLeft stack.length))

theorem value_eq_run (rpn : Rpn) : value limits store rpn = run limits store [] rpn >>= sole := by
  simp only [value, run]
  congr 1

theorem sole_eq_ok {stack : List Int} {v : Int} : sole stack = .ok v ↔ stack = [v] := by
  rcases stack with _ | ⟨w, _ | _⟩ <;> simp [sole]

theorem value_eq_ok {limits : Limits} {store : Store} {rpn : Rpn} {v : Int} :
    value limits store rpn = .ok v ↔ run limits store [] rpn = .ok [v] := by
  rw [value_eq_run, bind_eq_ok]
  constructor
  · rintro ⟨stack, ran, one⟩
    rwa [sole_eq_ok.1 one] at ran
  · intro ran
    exact ⟨[v], ran, rfl⟩

variable {limits store}

/-- What an element does to the stack when it succeeds. -/
inductive Steps (limits : Limits) (store : Store) : List Int → Element → List Int → Prop where
  | number (v : Int) (stack : List Int) : Steps limits store stack (.number v) (v :: stack)
  | var {name : String} {v : Int} (bound : store.get? name = some v) (stack : List Int) :
    Steps limits store stack (.var name) (v :: stack)
  | binary {op : BinaryOp} {a b v : Int} (p : Int) (applied : op.apply limits a b = .ok v)
    (stack : List Int) :
    Steps limits store (b :: a :: stack) (.operator (.binary op p)) (v :: stack)
  | unary (op : UnaryOp) (p a : Int) (stack : List Int) :
    Steps limits store (a :: stack) (.operator (.unary op p)) (op.apply a :: stack)

theorem Steps.step_eq {stack stack' : List Int} {e : Element}
    (h : Steps limits store stack e stack') : step limits store stack e = .ok stack' := by
  cases h with
  | number v => rfl
  | var bound => simp only [step, bound]
  | binary p applied => simp only [step, applied, ok_map]
  | unary op p a => rfl

theorem steps_of_step {stack stack' : List Int} {e : Element}
    (h : step limits store stack e = .ok stack') : Steps limits store stack e stack' := by
  cases e with
  | number v =>
    cases h
    exact .number v stack
  | var name =>
    simp only [step] at h
    split at h
    · rename_i v bound
      cases h
      exact .var bound stack
    · cases h
  | operator op =>
    cases op with
    | binary op p =>
      rcases stack with _ | ⟨b, _ | ⟨a, rest⟩⟩
      · cases h
      · cases h
      · obtain ⟨v, applied, rfl⟩ := map_eq_ok.1 h
        exact .binary p applied rest
    | unary op p =>
      rcases stack with _ | ⟨a, rest⟩
      · cases h
      · cases h
        exact .unary op p a rest
  | opening => cases h
  | closing => cases h

/-! ## Values below -/

/-- A step that succeeds leaves the values below its operands alone. -/
theorem Steps.below {stack stack' : List Int} {e : Element} (h : Steps limits store stack e stack')
    (below : List Int) : Steps limits store (stack ++ below) e (stack' ++ below) := by
  cases h with
  | number v => exact .number v _
  | var bound => exact .var bound _
  | binary p applied rest => exact .binary p applied (rest ++ below)
  | unary op p a rest => exact .unary op p a (rest ++ below)

theorem run_below {stack stack' : List Int} {rpn : Rpn}
    (h : run limits store stack rpn = .ok stack') (below : List Int) :
    run limits store (stack ++ below) rpn = .ok (stack' ++ below) := by
  induction rpn generalizing stack with
  | nil => cases h; rfl
  | cons e rpn ih =>
    rw [run_cons] at h
    obtain ⟨next, stepped, rest⟩ := bind_eq_ok.1 h
    rw [run_cons, ((steps_of_step stepped).below below).step_eq, ok_bind]
    exact ih rest

/-- Elements with a value put this value on top of any stack. -/
theorem run_of_value {rpn : Rpn} {v : Int} (h : value limits store rpn = .ok v)
    (stack : List Int) : run limits store stack rpn = .ok (v :: stack) :=
  run_below (value_eq_ok.1 h) stack

/-! ## The height of the stack -/

theorem Steps.height {stack stack' : List Int} {e : Element}
    (h : Steps limits store stack e stack') :
    stack'.length + [e].countP Element.isBinary = stack.length + [e].countP Element.isOperand := by
  cases h with
  | number v => rfl
  | var bound => rfl
  | binary p applied rest => rfl
  | unary op p a rest => rfl

theorem run_height {stack stack' : List Int} {rpn : Rpn}
    (h : run limits store stack rpn = .ok stack') :
    stack'.length + rpn.countP Element.isBinary = stack.length + rpn.countP Element.isOperand := by
  induction rpn generalizing stack with
  | nil => cases h; rfl
  | cons e rpn ih =>
    rw [run_cons] at h
    obtain ⟨next, stepped, rest⟩ := bind_eq_ok.1 h
    have head := (steps_of_step stepped).height
    have tail := ih rest
    rw [← List.singleton_append, List.countP_append, List.countP_append]
    omega

end Rpn

end Reckoner
