import Reckoner.Proofs.Rpn.Stack

/-!
# The shape of reverse Polish notation

How many values are on the stack does not depend on what they are. So whether every operator
finds its operands, and whether one value is left at the end, is known without a store: this is
the shape of the elements. Evaluation goes as the shape has it, unless it fails on a value
before that.

Results:
* `follows_step`, `follows_run`, `follows_value`: evaluation follows the shape, for one
  element and then by induction for all.
* `value_of_shape_error`: what is wrong with a shape is the fault in any store, or a value is.
* `shape_of_value`: that operands are missing, or left over, comes from the shape.
-/
namespace Reckoner

namespace Malformed

/-- Whether it is the number of operands that is wrong. -/
def isOfShape : Malformed → Bool
  | tooFewOperands _ | noOperand _ | valuesLeft _ => true
  | _ => false

/-- Whether it is a power that is refused. -/
def isOfPower : Malformed → Bool
  | negativeExponent | exponentTooLarge _ | resultTooLarge _ => true
  | _ => false

theorem not_isOfShape_of_isOfPower {c : Malformed} (h : c.isOfPower = true) :
    c.isOfShape = false := by
  cases c <;> first | rfl | cases h

end Malformed

namespace Fault

/-- Whether it is a power that is refused. -/
def isOfPower : Fault → Bool
  | expression cause => cause.isOfPower
  | unwritable => true
  | _ => false

theorem isOfPower_ofLimit (limit : Nat) {cause : Decimal.Short → Malformed}
    (h : ∀ short, (cause short).isOfPower = true) : (ofLimit limit cause).isOfPower = true := by
  unfold ofLimit
  split
  · exact h _
  · rfl

end Fault

theorem isOfPower_of_power {limits : Limits} {left right : Int} {f : Fault}
    (h : power limits left right = .error f) : f.isOfPower = true := by
  unfold power at h
  split at h
  · cases h
    rfl
  · split at h
    · cases h
      exact Fault.isOfPower_ofLimit _ fun _ => rfl
    · split at h
      · cases h
        exact Fault.isOfPower_ofLimit _ fun _ => rfl
      · cases h

namespace Rpn

open Outcome

/-- The height of the stack after an element. -/
def rise (height : Nat) : Element → Except Malformed Nat
  | .number _ | .var _ => .ok (height + 1)
  | .operator (.binary op p) =>
    match height with
    | rest + 2 => .ok (rest + 1)
    | _ => .error (.tooFewOperands (.binary op p))
  | .operator (.unary op p) =>
    match height with
    | rest + 1 => .ok (rest + 1)
    | 0 => .error (.noOperand (.unary op p))
  | .opening => .error (.strayParenthesis '(')
  | .closing => .error (.strayParenthesis ')')

def heights (height : Nat) (rpn : Rpn) : Except Malformed Nat := rpn.foldlM rise height

/-- One value has to be left. -/
def one : Nat → Except Malformed Unit
  | 1 => .ok ()
  | height => .error (.valuesLeft height)

/-- What is wrong with elements whatever values they have. -/
def shape (rpn : Rpn) : Except Malformed Unit := heights 0 rpn >>= one

theorem heights_cons (height : Nat) (e : Element) (rpn : Rpn) :
    heights height (e :: rpn) = rise height e >>= fun height => heights height rpn :=
  List.foldlM_cons

/-! ## Faults of values -/

/-- How an element fails on values. -/
inductive Fails (limits : Limits) (store : Store) : Element → Fault → Prop where
  | unbound {name : String} (lacking : store.get? name = none) :
    Fails limits store (.var name) (.unknownVariable name)
  | zero (p : Int) : Fails limits store (.operator (.binary .div p)) .divisionByZero
  | power (p : Int) {left right : Int} {f : Fault}
    (refused : Reckoner.power limits left right = .error f) :
    Fails limits store (.operator (.binary .pow p)) f

variable {limits : Limits} {store : Store}

theorem fails_of_apply {op : BinaryOp} {a b : Int} {f : Fault}
    (h : op.apply limits a b = .error f) (store : Store) (p : Int) :
    Fails limits store (.operator (.binary op p)) f := by
  cases op with
  | add => cases h
  | sub => cases h
  | mul => cases h
  | div =>
    simp only [BinaryOp.apply, divide] at h
    split at h
    · cases h
      exact .zero p
    · cases h
  | pow => exact .power p h

/-- The fault is that of one of the elements. -/
def FailsOn (limits : Limits) (store : Store) (rpn : Rpn) (f : Fault) : Prop :=
  ∃ e ∈ rpn, Fails limits store e f

theorem FailsOn.mono {rpn more : Rpn} {f : Fault} (h : FailsOn limits store rpn f)
    (sub : rpn ⊆ more) : FailsOn limits store more f := by
  obtain ⟨e, mem, fails⟩ := h
  exact ⟨e, sub mem, fails⟩

theorem FailsOn.not_isOfShape {rpn : Rpn} {c : Malformed}
    (h : FailsOn limits store rpn (.expression c)) : c.isOfShape = false := by
  obtain ⟨e, -, fails⟩ := h
  cases fails with
  | power p refused => exact Malformed.not_isOfShape_of_isOfPower (isOfPower_of_power refused)

/-! ## Evaluation next to its shape -/

variable {α β γ δ : Type}

/-- What is found with values agrees with what is found without them, or the values of some
elements are at fault. -/
inductive Follows (limits : Limits) (store : Store) (rpn : Rpn) (agree : α → β → Prop) :
    Except Malformed α → Except Fault β → Prop where
  | ok {a : α} {b : β} (h : agree a b) : Follows limits store rpn agree (.ok a) (.ok b)
  | shape (c : Malformed) : Follows limits store rpn agree (.error c) (.error (.expression c))
  | values (x : Except Malformed α) {f : Fault} (h : FailsOn limits store rpn f) :
    Follows limits store rpn agree x (.error f)

namespace Follows

variable {rpn : Rpn} {agree : α → β → Prop} {agree' : γ → δ → Prop}
  {x : Except Malformed α} {y : Except Fault β}

theorem mono (h : Follows limits store rpn agree x y) {more : Rpn} (sub : rpn ⊆ more) :
    Follows limits store more agree x y := by
  cases h with
  | ok h => exact .ok h
  | shape c => exact .shape c
  | values x h => exact .values x (h.mono sub)

theorem bind (h : Follows limits store rpn agree x y) {f : α → Except Malformed γ}
    {g : β → Except Fault δ}
    (next : ∀ a b, agree a b → Follows limits store rpn agree' (f a) (g b)) :
    Follows limits store rpn agree' (x >>= f) (y >>= g) := by
  cases h with
  | ok h => exact next _ _ h
  | shape c => exact .shape c
  | values x h => exact .values _ h

theorem of_error {c : Malformed} (h : Follows limits store rpn agree (.error c) y) :
    y = .error (.expression c) ∨ ∃ f, y = .error f ∧ FailsOn limits store rpn f := by
  cases h with
  | shape c => exact .inl rfl
  | values x h => exact .inr ⟨_, rfl, h⟩

theorem error_cases {f : Fault} (h : Follows limits store rpn agree x (.error f)) :
    (∃ c, x = .error c ∧ f = .expression c) ∨ FailsOn limits store rpn f := by
  cases h with
  | shape c => exact .inl ⟨c, rfl, rfl⟩
  | values x h => exact .inr h

end Follows

/-- A stack is as high as found. -/
def IsHigh (height : Nat) (stack : List Int) : Prop := height = stack.length

theorem follows_step (limits : Limits) (store : Store) (stack : List Int) (e : Element) :
    Follows limits store [e] IsHigh (rise stack.length e) (step limits store stack e) := by
  cases e with
  | number v => exact .ok rfl
  | var name =>
    simp only [step]
    cases bound : store.get? name with
    | some v => exact .ok rfl
    | none => exact .values _ ⟨_, List.mem_singleton_self _, .unbound bound⟩
  | operator op =>
    cases op with
    | binary op p =>
      rcases stack with _ | ⟨b, _ | ⟨a, rest⟩⟩
      · exact .shape _
      · exact .shape _
      · simp only [step]
        cases applied : op.apply limits a b with
        | ok v => exact .ok rfl
        | error f =>
          exact .values _ ⟨_, List.mem_singleton_self _, fails_of_apply applied store p⟩
    | unary op p =>
      rcases stack with _ | ⟨a, rest⟩
      · exact .shape _
      · exact .ok rfl
  | opening => exact .shape _
  | closing => exact .shape _

theorem follows_run (limits : Limits) (store : Store) (stack : List Int) (rpn : Rpn) :
    Follows limits store rpn IsHigh (heights stack.length rpn) (run limits store stack rpn) := by
  induction rpn generalizing stack with
  | nil => exact .ok rfl
  | cons e rpn ih =>
    rw [heights_cons, run_cons]
    -- a fault of the first element, or of the others, is one of all
    have first := (follows_step limits store stack e).mono
      (List.cons_subset_cons e (List.nil_subset rpn))
    refine first.bind fun height next high => ?_
    rw [high]
    exact (ih next).mono (List.subset_cons_self e rpn)

theorem follows_sole (rpn : Rpn) (stack : List Int) :
    Follows limits store rpn (fun _ _ => True) (one stack.length) (sole stack) := by
  rcases stack with _ | ⟨v, _ | _⟩
  · exact .shape _
  · exact .ok trivial
  · exact .shape _

theorem follows_value (limits : Limits) (store : Store) (rpn : Rpn) :
    Follows limits store rpn (fun _ _ => True) (shape rpn) (value limits store rpn) := by
  rw [value_eq_run]
  refine (follows_run limits store [] rpn).bind fun height stack high => ?_
  rw [high]
  exact follows_sole rpn stack

/-! ## Faults of shape -/

theorem value_of_shape_error {rpn : Rpn} {c : Malformed} (h : shape rpn = .error c)
    (limits : Limits) (store : Store) :
    value limits store rpn = .error (.expression c) ∨
      ∃ f, value limits store rpn = .error f ∧ FailsOn limits store rpn f := by
  have follows := follows_value limits store rpn
  rw [h] at follows
  exact follows.of_error

theorem shape_of_value {rpn : Rpn} {c : Malformed}
    (h : value limits store rpn = .error (.expression c)) (ofShape : c.isOfShape = true) :
    shape rpn = .error c := by
  have follows := follows_value limits store rpn
  rw [h] at follows
  rcases follows.error_cases with ⟨c', shaped, same⟩ | fails
  · cases same
    exact shaped
  · rw [fails.not_isOfShape] at ofShape
    cases ofShape

end Rpn

end Reckoner
