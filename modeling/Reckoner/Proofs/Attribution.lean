import Reckoner.Proofs.Checks
import Reckoner.Proofs.Misshapen
import Reckoner.Proofs.Rpn.Operands

/-!
# What faults are about

A fault says what is wrong with a statement, and it is right: only what has no `=` is refused as
an expression, and only what has one as an assignment. A variable is called unknown when it has
no value, and it is the first such variable of the expression, whatever operators are tried
before it is looked up. A division by zero needs a division.

Results:
* `Token.find?_of_unknownVariable`: the unknown variable is the first without a value.
* `Token.exists_division`: where a division by zero comes from.
* `attributed_execute`, `attributed_execute_assignment`: the faults of statements.
* `fault_attribution`: with these faults a statement can stop for nothing else.
-/
namespace Reckoner

open Outcome

variable {limits : Limits} {store : Store} {f : Fault}

/-! ## Expressions -/

/-- What a fault says of the values that `tokens` have is true. -/
structure Attributed (store : Store) (tokens : List Token) (f : Fault) : Prop where
  /-- an unknown variable has no value -/
  unbound : ∀ name, f = .unknownVariable name → store.get? name = none
  /-- and every variable before it has one -/
  leftmost : ∀ name, f = .unknownVariable name →
    ∃ before after, tokens = before ++ .identifier name :: after ∧
      ∀ other, .identifier other ∈ before → (store.get? other).isSome
  /-- there is a division if zero is divided by -/
  divided : f = .divisionByZero →
    ∃ before after, tokens = before ++ .symbol '/' :: after ∧
      Element.endsOperand before.getLast?

/-- Other faults say nothing of values. -/
theorem Attributed.of_kind {tokens : List Token} (unknown : f.kind ≠ .unknownVariable)
    (zero : f.kind ≠ .divisionByZero) : Attributed store tokens f where
  unbound := by
    rintro name rfl
    exact absurd rfl unknown
  leftmost := by
    rintro name rfl
    exact absurd rfl unknown
  divided := by
    rintro rfl
    exact absurd rfl zero

theorem Attributed.onRightSide {tokens : List Token} (h : Attributed store tokens f) :
    Attributed store tokens f.onRightSide := by
  cases f with
  | expression cause => exact .of_kind FaultKind.noConfusion FaultKind.noConfusion
  | identifier left => exact h
  | assignment cause => exact h
  | unknownVariable name => exact h
  | divisionByZero => exact h
  | unwritable => exact h

namespace Token

/-- The name of an identifier. -/
def name? : Token → Option String
  | identifier name => some name
  | _ => none

theorem eq_identifier_of_name? {t : Token} {name : String} (h : t.name? = some name) :
    t = .identifier name := by
  cases t with
  | integer v => cases h
  | identifier other =>
    cases h
    rfl
  | symbol c => cases h

theorem names_of_placed {previous : Option Token} {tokens : List Token} {es : List Element}
    (h : Element.placed previous tokens = .ok es) : Rpn.names es = tokens.filterMap name? := by
  induction tokens generalizing previous es with
  | nil =>
    cases h
    rfl
  | cons t ts ih =>
    obtain ⟨e, fs, first, others, rfl⟩ := Element.placed_cons_eq_ok.1 h
    have same : e.name? = t.name? := by cases Element.standsFor_of_classify first <;> rfl
    rw [Rpn.names, List.filterMap_cons, List.filterMap_cons, same, ← ih others]
    rfl

/-- The variables are looked up in the order of the tokens. -/
theorem find?_of_unknownVariable {tokens : List Token} {name : String}
    (h : Token.value limits store tokens = .error (.unknownVariable name)) :
    (tokens.filterMap name?).find? store.lacks = some name := by
  rcases bind_eq_error.1 h with refused | ⟨rpn, written, faulty⟩
  · obtain ⟨cause, -, same⟩ := mapError_eq_error.1 refused
    cases same
  · obtain ⟨es, classified, ordered⟩ := rpn_eq_ok.1 (mapError_eq_ok.1 written)
    rw [← names_of_placed (Element.ofTokens_eq_ok.1 classified).1,
      ← Rpn.names_ofElements ordered]
    exact Rpn.find?_names_of_value faulty

theorem exists_division {tokens : List Token}
    (h : Token.value limits store tokens = .error .divisionByZero) :
    ∃ before after, tokens = before ++ .symbol '/' :: after ∧
      Element.endsOperand before.getLast? := by
  rcases bind_eq_error.1 h with refused | ⟨rpn, written, faulty⟩
  · obtain ⟨cause, -, same⟩ := mapError_eq_error.1 refused
    cases same
  · have follows := Rpn.follows_value limits store rpn
    rw [faulty] at follows
    rcases follows.error_cases with ⟨c, -, same⟩ | ⟨e, inRpn, fails⟩
    · cases same
    · obtain ⟨before, t, after, cut, stands⟩ :=
        exists_place_of_mem_rpn (mapError_eq_ok.1 written) inRpn
      cases fails with
      | zero p =>
        cases stands with
        | binary op place => exact ⟨before, after, cut, place⟩
      | power p refused => cases isOfPower_of_power refused

theorem attributed_value {tokens : List Token}
    (h : Token.value limits store tokens = .error f) : Attributed store tokens f where
  unbound := by
    rintro name rfl
    have lacking : store.lacks name = true := List.find?_some (find?_of_unknownVariable h)
    exact Option.isNone_iff_eq_none.1 lacking
  leftmost := by
    rintro name rfl
    have first := find?_of_unknownVariable h
    rw [List.find?_filterMap] at first
    obtain ⟨t, found, named⟩ := Option.bind_eq_some_iff.1 first
    obtain rfl := eq_identifier_of_name? named
    obtain ⟨-, before, after, cut, passed⟩ := List.find?_eq_some_iff_append.1 found
    refine ⟨before, after, cut, fun other mem => ?_⟩
    simpa [name?, Store.lacks, Option.isSome_iff_ne_none] using passed _ mem
  divided := by
    rintro rfl
    exact exists_division h

end Token

/-! ## Statements -/

namespace Statement

variable {left right : String}

theorem attributed_execute {text : String} (h : '=' ∉ text.toList)
    (refused : execute limits store text = .error f) :
    (f.kind = .expression ∨ f.kind = .unknownVariable ∨ f.kind = .divisionByZero ∨
        f = .unwritable) ∧
      Attributed store (Token.scan text) f := by
  rw [execute_eq_value h] at refused
  have faulty := map_eq_error.1 refused
  refine ⟨?_, Token.attributed_value faulty⟩
  by_cases escapes : f = .unwritable
  · exact .inr (.inr (.inr escapes))
  · have own := Token.isOfExpression_value faulty
    rcases Fault.kind_of_isOfExpression own (Fault.isCaught_iff.2 escapes) with is | is | is
    · exact .inl is
    · exact .inr (.inl is)
    · exact .inr (.inr (.inl is))

theorem attributed_execute_assignment (h : '=' ∉ left.toList)
    (refused : execute limits store (left ++ "=" ++ right) = .error f) :
    (f.kind = .identifier ∨ f.kind = .assignment ∨ f.kind = .unknownVariable ∨
        f.kind = .divisionByZero ∨ f = .unwritable) ∧
      Attributed store (Token.scan right) f := by
  rw [execute, read_assignment h] at refused
  split at refused
  · have ofRight := map_eq_error.1 refused
    refine ⟨.inr (kind_rightValue_cases ofRight), ?_⟩
    rcases rightValue_eq_error ofRight with rfl | ⟨g, faulty, rfl⟩
    · exact .of_kind FaultKind.noConfusion FaultKind.noConfusion
    · exact (Token.attributed_value faulty).onRightSide
  · cases refused
    exact ⟨.inl rfl, .of_kind FaultKind.noConfusion FaultKind.noConfusion⟩

/-- A statement has an effect, or one of the five faults, and no check fails on the way, save that
of a limit that is to be named in the refusal of a power and is too long. Which fault it is, is
decided by the `=` and by the expression, which is what follows the first `=`, or all of a text
without one. A variable called unknown has no value, and is the first such in the expression; and a
division by zero comes from a `/` that follows an operand. Under limits that are short the one check
does not fail either, and sessions and scripts answer every line. -/
theorem fault_attribution (limits : Limits) (store : Store) :
    (∀ text, Checked.execute limits store text =
      (execute limits store text).mapError Stop.ofFault) ∧
    (∀ text f, '=' ∉ text.toList → execute limits store text = .error f →
      (f.kind = .expression ∨ f.kind = .unknownVariable ∨ f.kind = .divisionByZero ∨
          f = .unwritable) ∧
        Attributed store (Token.scan text) f) ∧
    (∀ left right f, '=' ∉ left.toList →
      execute limits store (left ++ "=" ++ right) = .error f →
      (f.kind = .identifier ∨ f.kind = .assignment ∨ f.kind = .unknownVariable ∨
          f.kind = .divisionByZero ∨ f = .unwritable) ∧
        Attributed store (Token.scan right) f) ∧
    (∀ text, execute limits store text = .error .unwritable →
      ∃ left right, power limits left right = .error .unwritable) ∧
    (∀ line, Checked.reply limits store line =
        (Session.reply limits store line).mapError Stop.ofFault ∧
      Checked.scriptStep limits store line =
        (Script.step limits store line).mapError Stop.ofFault) ∧
    (limits.Short →
      (∀ text, execute limits store text ≠ .error .unwritable) ∧
      ∀ line, (∃ r, Session.reply limits store line = .ok r) ∧
        ∃ s, Script.step limits store line = .ok s) :=
  ⟨Checked.execute_eq limits store, fun _ _ => attributed_execute,
    fun _ _ _ => attributed_execute_assignment, fun _ => power_of_execute,
    fun line => ⟨Checked.reply_eq limits store line, Checked.scriptStep_eq limits store line⟩,
    fun short => ⟨execute_ne_unwritable short store, fun line =>
      ⟨Session.exists_reply short store line, Script.exists_step short store line⟩⟩⟩

/-- `b` is looked up, and stops the evaluation, before there is anything to divide. -/
theorem fault_attribution_leftmost :
    let store := Store.empty.set "a" 1
    execute {} store ("y " ++ "=" ++ " a / b + c") = .error (.unknownVariable "b") ∧
      (store.get? "b" = none ∧
        ∃ before after, Token.scan " a / b + c" = before ++ .identifier "b" :: after ∧
          ∀ other, .identifier other ∈ before → (store.get? other).isSome) ∧
      execute {} store "a / (a - 1) + b" = .error .divisionByZero ∧
      (∃ before after, Token.scan "a / (a - 1) + b" = before ++ .symbol '/' :: after ∧
        Element.endsOperand before.getLast?) ∧
      ({} : Limits).Short ∧ ∃ r, Session.reply {} store "a / (a - 1) + b" = .ok r :=
  have unknown : execute {} (Store.empty.set "a" 1) ("y " ++ "=" ++ " a / b + c") =
      .error (.unknownVariable "b") := rfl
  have zero : execute {} (Store.empty.set "a" 1) "a / (a - 1) + b" = .error .divisionByZero := rfl
  have short : ({} : Limits).Short := ⟨by decide +kernel, by decide +kernel⟩
  have ⟨_, expressions, assignments, _, _, answered⟩ :=
    fault_attribution {} (Store.empty.set "a" 1)
  have inRight := (assignments _ _ _ (by decide) unknown).2
  have inText := (expressions _ _ (by decide) zero).2
  ⟨unknown, ⟨inRight.unbound _ rfl, inRight.leftmost _ rfl⟩, zero, inText.divided rfl, short,
    ((answered short).2 _).1⟩

/-- The exponent is refused, and the limit in the refusal has one digit too many. -/
theorem checked_power_escapes :
    let limits : Limits := ⟨10 ^ 4300, 1000000, by decide⟩
    let store := Store.empty.set "b" (10 ^ 4300 + 1)
    Checked.execute limits store "1 ^ b" = .error .longNumeral ∧
      Checked.reply limits store "1 ^ b" = .error .longNumeral ∧
      Checked.scriptStep limits store "1 ^ b" = .error .longNumeral := by
  decide +kernel

end Statement

end Reckoner
