import Reckoner.Expression
import Reckoner.Proofs.Rpn.Shape

/-!
# The stages of an expression

Tokens have a value when every stage succeeds: they have elements, the elements have
reverse Polish notation, and that has a value. The first stage that fails decides the
fault.

Results:
* `rpn_eq_ok`, `value_eq_ok`: what the success of all stages is.
* `isOfExpression_value`: no stage has a fault of an assignment.
-/
namespace Reckoner

open Outcome

namespace Token

theorem rpn_eq_ok {tokens : List Token} {rpn : Rpn} :
    Token.rpn tokens = .ok rpn ↔
      ∃ es, Element.ofTokens tokens = .ok es ∧ Rpn.ofElements es = .ok rpn := by
  rw [Token.rpn, bind_eq_ok]

theorem value_eq_ok {limits : Limits} {store : Store} {tokens : List Token} {v : Int} :
    Token.value limits store tokens = .ok v ↔
      ∃ rpn, Token.rpn tokens = .ok rpn ∧ Rpn.value limits store rpn = .ok v := by
  simp only [Token.value, bind_eq_ok, mapError_eq_ok]

end Token

/-- Whether an expression by itself can have the fault. -/
def Fault.isOfExpression : Fault → Bool
  | expression _ | unknownVariable _ | divisionByZero | unwritable => true
  | identifier _ | assignment _ => false

theorem Fault.isOfExpression_of_isOfPower {f : Fault} (h : f.isOfPower = true) :
    f.isOfExpression := by
  cases f <;> first | rfl | cases h

theorem Fault.kind_of_isOfExpression {f : Fault} (h : f.isOfExpression) (caught : f.isCaught) :
    f.kind = .expression ∨ f.kind = .unknownVariable ∨ f.kind = .divisionByZero := by
  cases f with
  | expression cause => exact .inl rfl
  | identifier left => cases h
  | assignment cause => cases h
  | unknownVariable name => exact .inr (.inl rfl)
  | divisionByZero => exact .inr (.inr rfl)
  | unwritable => cases caught

theorem Fault.notice_onRightSide (f : Fault) :
    f.onRightSide.notice =
      if f.kind = .expression then ⟨.assignment, f.detail⟩ else f.notice := by
  cases f with
  | expression cause => rfl
  | identifier left => rfl
  | assignment cause => rfl
  | unknownVariable name => rfl
  | divisionByZero => rfl
  | unwritable => rfl

theorem Fault.eq_expression_of_onRightSide {f : Fault} {c : Malformed} (own : f.isOfExpression)
    (h : f.onRightSide = .assignment (some c)) : f = .expression c := by
  cases f with
  | expression cause =>
    cases h
    rfl
  | identifier left => cases own
  | assignment cause => cases own
  | unknownVariable name => cases h
  | divisionByZero => cases h
  | unwritable => cases h

variable {limits : Limits} {store : Store} {f : Fault}

namespace Rpn

theorem FailsOn.isOfExpression {rpn : Rpn} (h : FailsOn limits store rpn f) : f.isOfExpression := by
  obtain ⟨e, -, fails⟩ := h
  cases fails with
  | unbound lacking => rfl
  | zero p => rfl
  | power p refused => exact Fault.isOfExpression_of_isOfPower (isOfPower_of_power refused)

theorem isOfExpression_value {rpn : Rpn} (h : value limits store rpn = .error f) :
    f.isOfExpression := by
  have follows := follows_value limits store rpn
  rw [h] at follows
  rcases follows.error_cases with ⟨c, -, rfl⟩ | fails
  · rfl
  · exact fails.isOfExpression

end Rpn

theorem Token.isOfExpression_value {tokens : List Token}
    (h : Token.value limits store tokens = .error f) : f.isOfExpression := by
  rcases bind_eq_error.1 h with refused | ⟨rpn, -, faulty⟩
  · obtain ⟨cause, -, rfl⟩ := mapError_eq_error.1 refused
    rfl
  · exact Rpn.isOfExpression_value faulty

end Reckoner
