import Reckoner.Proofs.Placement
import Reckoner.Proofs.Rpn.Shape
import Reckoner.Proofs.Rpn.Yard
import Reckoner.Proofs.ShortLimits

/-!
# Misshapen right sides

That operands of an assignment's right side are missing, or left over, is noticed while it is
evaluated. The shape is the same in every store, but what is noticed first is not: a variable
without a value or a division by zero may come before.

Results:
* `exists_place_of_mem_rpn`: each element in reverse Polish notation has its token and place.
* `Token.value_of_misshapen`: tokens of a bad shape have the same fault in every store, or
  fail on values there.
* `execute_of_misshapen`: so does an assignment.
-/
namespace Reckoner

open Outcome

namespace Token

theorem exists_place_of_mem_rpn {tokens : List Token} {rpn : Rpn} (h : Token.rpn tokens = .ok rpn)
    {e : Element} (mem : e ∈ rpn) :
    ∃ before t after, tokens = before ++ t :: after ∧
      Element.StandsFor before.getLast? t e := by
  obtain ⟨es, classified, written⟩ := rpn_eq_ok.1 h
  have inOrder : e ∈ es := (List.mem_filter.1 ((Rpn.ofElements_perm written).subset mem)).1
  obtain ⟨before, t, after, cut, stands⟩ :=
    Element.exists_place_of_mem (Element.ofTokens_eq_ok.1 classified).1 inOrder
  rw [Option.or_none] at stands
  exact ⟨before, t, after, cut, stands⟩

/-- How tokens fail on the values that a store gives them. -/
inductive FailsOn (limits : Limits) (store : Store) (tokens : List Token) : Fault → Prop where
  | unbound {name : String} (used : .identifier name ∈ tokens)
    (lacking : store.get? name = none) : FailsOn limits store tokens (.unknownVariable name)
  | zero (divided : .symbol '/' ∈ tokens) : FailsOn limits store tokens .divisionByZero
  | power (raised : .symbol '^' ∈ tokens) {left right : Int} {f : Fault}
    (refused : Reckoner.power limits left right = .error f) : FailsOn limits store tokens f

theorem failsOn_of_rpn {tokens : List Token} {rpn : Rpn} {limits : Limits} {store : Store}
    {f : Fault} (h : Token.rpn tokens = .ok rpn) (fails : Rpn.FailsOn limits store rpn f) :
    FailsOn limits store tokens f := by
  obtain ⟨e, inRpn, fails⟩ := fails
  obtain ⟨before, t, after, rfl, stands⟩ := exists_place_of_mem_rpn h inRpn
  have mem : t ∈ before ++ t :: after := List.mem_append_right _ (List.mem_cons_self ..)
  cases fails with
  | unbound lacking =>
    cases stands with
    | var name => exact .unbound mem lacking
  | zero p =>
    cases stands with
    | binary op after => exact .zero mem
  | power p refused =>
    cases stands with
    | binary op after => exact .power mem refused

/-- A fault of shape in one store is the fault in all, unless the tokens fail on values. -/
theorem value_of_misshapen {limits : Limits} {store : Store} {tokens : List Token} {c : Malformed}
    (h : Token.value limits store tokens = .error (.expression c)) (ofShape : c.isOfShape = true)
    (limits' : Limits) (store' : Store) :
    Token.value limits' store' tokens = .error (.expression c) ∨
      ∃ f, Token.value limits' store' tokens = .error f ∧ FailsOn limits' store' tokens f := by
  unfold Token.value at h ⊢
  cases converted : Token.rpn tokens with
  | error c' =>
    -- no store has been looked at
    rw [converted] at h
    exact .inl h
  | ok rpn =>
    rw [converted] at h
    have shaped : Rpn.shape rpn = .error c := Rpn.shape_of_value h ofShape
    rcases Rpn.value_of_shape_error shaped limits' store' with same | ⟨f, ran, fails⟩
    · exact .inl same
    · exact .inr ⟨f, ran, failsOn_of_rpn converted fails⟩

end Token

/-! ## Assignments -/

namespace Statement

variable {limits : Limits} {store : Store} {left right : String} {c : Malformed}

/-- A right side that is refused with a cause has been evaluated, for it is not empty and has no
assignment itself; so it is evaluated in any store. -/
theorem value_of_execute_error (first : '=' ∉ left.toList)
    (h : execute limits store (left ++ "=" ++ right) = .error (.assignment (some c))) :
    Token.value limits store (Token.scan right) = .error (.expression c) ∧
      ∀ (limits' : Limits) (store' : Store) (f : Fault),
        Token.value limits' store' (Token.scan right) = .error f →
        execute limits' store' (left ++ "=" ++ right) = .error f.onRightSide := by
  simp only [execute, read_assignment first] at h ⊢
  generalize Token.soleName? (Token.scan left) = target at h ⊢
  cases target with
  | none => cases h
  | some name =>
    have refused : rightValue limits store (Token.scan right) = .error (.assignment (some c)) :=
      map_eq_error.1 h
    unfold rightValue at refused
    split at refused
    · cases refused
    · rename_i single
      obtain ⟨f, faulty, same⟩ := mapError_eq_error.1 refused
      obtain rfl := Fault.eq_expression_of_onRightSide (Token.isOfExpression_value faulty) same
      refine ⟨faulty, fun limits' store' g faulty' => ?_⟩
      simp only [run, rightValue, if_neg single, faulty']
      rfl

/-- An assignment that is refused for operands missing from its right side, or left over, is
refused in every other store as well, unless evaluation meets something else there first: a name
without a value, a division by zero, or a power that is refused, which refuses the assignment
too unless it is for a limit that is too long to be named. -/
theorem execute_of_misshapen (first : '=' ∉ left.toList)
    (h : execute limits store (left ++ "=" ++ right) = .error (.assignment (some c)))
    (ofShape : c.isOfShape = true) (limits' : Limits) (store' : Store) :
    (∃ c', execute limits' store' (left ++ "=" ++ right) = .error (.assignment (some c')) ∧
      (c' = c ∨ (c'.isOfPower = true ∧ .symbol '^' ∈ Token.scan right))) ∨
    (∃ name, execute limits' store' (left ++ "=" ++ right) = .error (.unknownVariable name) ∧
      .identifier name ∈ Token.scan right ∧ store'.get? name = none) ∨
    (execute limits' store' (left ++ "=" ++ right) = .error .divisionByZero ∧
      .symbol '/' ∈ Token.scan right) ∨
    (execute limits' store' (left ++ "=" ++ right) = .error .unwritable ∧
      .symbol '^' ∈ Token.scan right ∧ ¬limits'.Short) := by
  obtain ⟨faulty, executed⟩ := value_of_execute_error first h
  rcases Token.value_of_misshapen faulty ofShape limits' store' with same | ⟨f, other, fails⟩
  · exact .inl ⟨c, executed _ _ _ same, .inl rfl⟩
  · have refused := executed _ _ _ other
    cases fails with
    | unbound used lacking => exact .inr (.inl ⟨_, refused, used, lacking⟩)
    | zero divided => exact .inr (.inr (.inl ⟨refused, divided⟩))
    | power raised ofPower =>
      have isOfPower := isOfPower_of_power ofPower
      cases f with
      | expression c' => exact .inl ⟨c', refused, .inr ⟨isOfPower, raised⟩⟩
      | unwritable => exact .inr (.inr (.inr ⟨refused, raised, not_short_of_power ofPower⟩))
      | _ => cases isOfPower

/-- Of the three values that are left over the second has to be known. -/
theorem execute_misshapen_unknown :
    execute {} (Store.empty.set "a" 1) "n = a2a" = .error (.assignment (some (.valuesLeft 3))) ∧
      execute {} .empty "n = a2a" = .error (.unknownVariable "a") :=
  ⟨rfl, rfl⟩

/-- The operator has one operand, and the power before it is refused if `a` is negative. -/
theorem execute_of_misshapen_power :
    let statement := "n " ++ "=" ++ " 2 ^ a *"
    execute {} (Store.empty.set "a" 5) statement =
        .error (.assignment (some (.tooFewOperands (.binary .mul 2)))) ∧
      ((∃ c', execute {} (Store.empty.set "a" (-1)) statement = .error (.assignment (some c')) ∧
        (c' = .tooFewOperands (.binary .mul 2) ∨
          (c'.isOfPower = true ∧ .symbol '^' ∈ Token.scan " 2 ^ a *"))) ∨
      (∃ name, execute {} (Store.empty.set "a" (-1)) statement = .error (.unknownVariable name) ∧
        .identifier name ∈ Token.scan " 2 ^ a *" ∧
        (Store.empty.set "a" (-1)).get? name = none) ∨
      (execute {} (Store.empty.set "a" (-1)) statement = .error .divisionByZero ∧
        .symbol '/' ∈ Token.scan " 2 ^ a *") ∨
      (execute {} (Store.empty.set "a" (-1)) statement = .error .unwritable ∧
        .symbol '^' ∈ Token.scan " 2 ^ a *" ∧ ¬({} : Limits).Short)) :=
  have refused : execute {} (Store.empty.set "a" 5) ("n " ++ "=" ++ " 2 ^ a *") =
      .error (.assignment (some (.tooFewOperands (.binary .mul 2)))) := rfl
  ⟨refused, execute_of_misshapen (by decide) refused rfl {} (Store.empty.set "a" (-1))⟩

end Statement

end Reckoner
