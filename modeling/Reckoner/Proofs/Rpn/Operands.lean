import Reckoner.Proofs.Rpn.Shape
import Reckoner.Proofs.Rpn.Yard

/-!
# Operands in order

Operands are written as soon as they are read, whatever waits; so reverse Polish notation has
them in the order of the input. Evaluation looks variables up in this order, one after the
other, and stops at the first that has no value: operators in between may stop it before that,
but none makes it pass over a variable.

Results:
* `operands_step`, `operands_read`: one step of the yard keeps the order, and so do all.
* `operands_ofElements`: the output has the operands of the input in their order.
* `find?_names_of_run`: the variable that a run fails on is the first one without a value.
-/
namespace Reckoner

/-- Whether a store has no value for a name. -/
def Store.lacks (s : Store) (name : String) : Bool := (s.get? name).isNone

namespace Element

def name? : Element → Option String
  | var name => some name
  | _ => none

end Element

namespace Rpn

open Outcome

/-- The variables of elements, in order. -/
def names (es : List Element) : List String := es.filterMap Element.name?

namespace Yard

theorem operands_release (p : Operator → Bool) (written : List Element) (held : List Held) :
    (release p written held).written.filter Element.isOperand =
      written.filter Element.isOperand := by
  induction held generalizing written with
  | nil => rfl
  | cons h held ih =>
    cases h with
    | opening => rfl
    | operator op =>
      rw [release_operator]
      split
      · exact ih (.operator op :: written)
      · rfl

theorem operands_step {y y' : Yard} {e : Element} (h : y.step (some e) = .ok y') :
    y'.written.filter Element.isOperand =
      [e].filter Element.isOperand ++ y.written.filter Element.isOperand := by
  cases e with
  | number v => cases h; rfl
  | var name => cases h; rfl
  | operator op =>
    cases op with
    | binary op p =>
      cases h
      exact operands_release _ _ _
    | unary op p => cases h; rfl
  | opening => cases h; rfl
  | closing =>
    have kept := operands_release (fun _ => true) y.written y.held
    rw [step_closing_eq_ok.1 h] at kept
    exact kept

theorem operands_read {y y' : Yard} {es : List Element} (h : y.read es = .ok y') :
    y'.written.filter Element.isOperand =
      (es.filter Element.isOperand).reverse ++ y.written.filter Element.isOperand := by
  induction es generalizing y with
  | nil => cases h; rfl
  | cons e es ih =>
    rw [read_cons] at h
    obtain ⟨next, stepped, rest⟩ := bind_eq_ok.1 h
    have single : ([e].filter Element.isOperand).reverse = [e].filter Element.isOperand := by
      cases e <;> rfl
    rw [ih rest, operands_step stepped, ← List.append_assoc, ← single, ← List.reverse_append,
      ← List.filter_append, List.singleton_append]

theorem operands_finish {y : Yard} {rpn : Rpn} (h : y.finish = .ok rpn) :
    rpn.reverse.filter Element.isOperand = y.written.filter Element.isOperand := by
  have kept := operands_release (fun _ => true) y.written y.held
  rw [finish_eq_ok.1 h] at kept
  exact kept

end Yard

/-- The output has the operands of the input in their order. -/
theorem operands_ofElements {es : List Element} {rpn : Rpn} (h : ofElements es = .ok rpn) :
    rpn.filter Element.isOperand = es.filter Element.isOperand := by
  obtain ⟨y, ran, finished⟩ := ofElements_eq_ok.1 h
  have read := Yard.operands_read ran
  rw [← Yard.operands_finish finished, List.filter_reverse] at read
  have nothing : Yard.start.written.filter Element.isOperand = [] := rfl
  rw [nothing, List.append_nil] at read
  exact List.reverse_inj.1 read

theorem names_filter (es : List Element) : names (es.filter Element.isOperand) = names es := by
  rw [names, List.filterMap_filter, names]
  congr 1
  funext e
  cases e <;> rfl

theorem names_ofElements {es : List Element} {rpn : Rpn} (h : ofElements es = .ok rpn) :
    names rpn = names es := by
  rw [← names_filter, operands_ofElements h, names_filter]

/-! ## The first variable without a value -/

variable {limits : Limits} {store : Store}

theorem eq_var_of_step {stack : List Int} {e : Element} {name : String}
    (h : step limits store stack e = .error (.unknownVariable name)) :
    e = .var name ∧ store.lacks name = true := by
  cases e with
  | number v => cases h
  | var n =>
    simp only [step] at h
    split at h
    · cases h
    · rename_i unbound
      cases h
      exact ⟨rfl, Option.isNone_iff_eq_none.2 unbound⟩
  | operator op =>
    cases op with
    | binary op p =>
      rcases stack with _ | ⟨b, _ | ⟨a, rest⟩⟩
      · cases h
      · cases h
      · cases fails_of_apply (map_eq_error.1 h) store p with
        | power p refused => cases isOfPower_of_power refused
    | unary op p =>
      rcases stack with _ | ⟨a, rest⟩
      · cases h
      · cases h
  | opening => cases h
  | closing => cases h

/-- A variable that a step gets past has a value. -/
theorem Steps.not_lacks {stack stack' : List Int} {e : Element}
    (h : Steps limits store stack e stack') {name : String} (is : e.name? = some name) :
    store.lacks name = false := by
  cases h with
  | number v => cases is
  | var bound =>
    cases is
    simp [Store.lacks, bound]
  | binary p applied => cases is
  | unary op p a => cases is

theorem find?_names_of_run {stack : List Int} {rpn : Rpn} {name : String}
    (h : run limits store stack rpn = .error (.unknownVariable name)) :
    (names rpn).find? store.lacks = some name := by
  induction rpn generalizing stack with
  | nil => cases h
  | cons e rpn ih =>
    rw [run_cons] at h
    rcases bind_eq_error.1 h with stopped | ⟨next, stepped, rest⟩
    · obtain ⟨rfl, lacking⟩ := eq_var_of_step stopped
      exact List.find?_cons_of_pos lacking
    · cases is : e.name? with
      | none =>
        rw [names, List.filterMap_cons_none is]
        exact ih rest
      | some n =>
        have known := (steps_of_step stepped).not_lacks is
        rw [names, List.filterMap_cons_some is, List.find?_cons_of_neg (by simp [known])]
        exact ih rest

theorem find?_names_of_value {rpn : Rpn} {name : String}
    (h : value limits store rpn = .error (.unknownVariable name)) :
    (names rpn).find? store.lacks = some name := by
  rw [value_eq_run] at h
  rcases bind_eq_error.1 h with stopped | ⟨stack, -, counted⟩
  · exact find?_names_of_run stopped
  · rcases stack with _ | ⟨v, _ | _⟩ <;> cases counted

end Rpn

end Reckoner
