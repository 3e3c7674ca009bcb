import Mathlib.Data.List.TakeWhile
import Reckoner.Statement
import Reckoner.Proofs.Scan
import Reckoner.Proofs.Stages

/-!
# Entry points

A statement is executed as a whole, an expression is evaluated, and a variable is assigned
from two texts. A statement is cut at its first `=` twice, as tokens and as text; the cuts
agree, for `=` is a lexeme by itself.

Results:
* `read_expression`, `read_assignment`: what a text is, by its first `=`.
* `execute_eq_value`, `execute_eq_assign`: execution is evaluation or assignment.
* `assign_refused`, `assign_eq_value`: assignment is evaluation of the right side.
* `entry_points_agree`: all of it, as values, stores and what is said of faults.
-/
namespace Reckoner

open Outcome

theorem takeWhile_ne_append {α : Type} [DecidableEq α] {a : α} {l : List α} (h : a ∉ l)
    (r : List α) : (l ++ a :: r).takeWhile (· != a) = l := by
  have others : ∀ b ∈ l, (b != a) = true := fun b mem =>
    bne_iff_ne.2 fun eq => h (eq ▸ mem)
  rw [List.takeWhile_append_of_pos others, List.takeWhile_cons_of_neg (by simp), List.append_nil]

theorem dropWhile_ne_append {α : Type} [DecidableEq α] {a : α} {l : List α} (h : a ∉ l)
    (r : List α) : (l ++ a :: r).dropWhile (· != a) = a :: r := by
  have others : ∀ b ∈ l, (b != a) = true := fun b mem =>
    bne_iff_ne.2 fun eq => h (eq ▸ mem)
  rw [List.dropWhile_append_of_pos others, List.dropWhile_cons_of_neg (by simp)]

theorem isSymbol_assignSign : Token.isSymbol '=' := by decide

theorem assignSign_mem_scan {text : String} : assignSign ∈ Token.scan text ↔ '=' ∈ text.toList :=
  Token.symbol_mem_scanChars isSymbol_assignSign

theorem scan_assignment (left right : String) :
    Token.scan (left ++ "=" ++ right) =
      Token.scan left ++ assignSign :: Token.scan right := by
  have text : (left ++ "=" ++ right).toList = left.toList ++ '=' :: right.toList := by simp
  rw [Token.scan, text]
  exact Token.scanChars_symbol isSymbol_assignSign _ _

/-! ## Reading -/

theorem Token.scan_of_soleName {text name : String}
    (h : soleName? (scan text) = some name) : scan text = [identifier name] := by
  unfold soleName? at h
  split at h
  · rename_i target one
    cases h
    exact one
  · cases h

namespace Statement

/-- The sides of a text with an `=`. -/
theorem exists_sides {text : String} (h : '=' ∈ text.toList) :
    ∃ left right : String, '=' ∉ left.toList ∧ text = left ++ "=" ++ right := by
  obtain ⟨left, right, cut, first⟩ := List.eq_append_cons_of_mem h
  refine ⟨String.ofList left, String.ofList right, by simpa using first, ?_⟩
  rw [← String.toList_inj, cut]
  simp

theorem read_expression {text : String} (h : '=' ∉ text.toList) :
    read text = .expression (Token.scan text) := by
  have noSign : (Token.scan text).dropWhile (· != assignSign) = [] := by
    rw [List.dropWhile_eq_nil_iff]
    intro t mem
    exact bne_iff_ne.2 fun eq => h (assignSign_mem_scan.1 (eq ▸ mem))
  simp only [read, noSign]

theorem read_assignment {left : String} (h : '=' ∉ left.toList) (right : String) :
    read (left ++ "=" ++ right) =
      match Token.soleName? (Token.scan left) with
      | some name => .assignment name (Token.scan right)
      | none => .misassignment (Text.strip left) := by
  have before : assignSign ∉ Token.scan left := fun mem => h (assignSign_mem_scan.1 mem)
  have text : (left ++ "=" ++ right).toList = left.toList ++ '=' :: right.toList := by simp
  have stripped : leftText (left ++ "=" ++ right) = Text.strip left := by
    rw [leftText, text, takeWhile_ne_append h, Text.strip]
  have target := takeWhile_ne_append before (Token.scan right)
  have cut := dropWhile_ne_append before (Token.scan right)
  cases one : Token.soleName? (Token.scan left) with
  | some name => simp only [read, scan_assignment, cut, target, one]
  | none => simp only [read, scan_assignment, cut, target, one, stripped]

/-! ## Execution -/

variable {limits : Limits} {store : Store}

theorem execute_eq_value {text : String} (h : '=' ∉ text.toList) :
    execute limits store text = (Expression.value limits store text).map .value := by
  rw [execute, read_expression h]
  rfl

/-- On the left of the `=` of a statement stands one name, and it is assigned; or the statement is
refused, and shows its left side without the blanks around it. -/
theorem execute_eq_assign {left : String} (h : '=' ∉ left.toList) (right : String) :
    (∃ name, Token.soleName? (Token.scan left) = some name ∧
      assign limits store left right = (assignment name (Token.scan right)).run limits store ∧
      execute limits store (left ++ "=" ++ right) = assign limits store left right) ∨
    (assign limits store left right = .error (.identifier left) ∧
      execute limits store (left ++ "=" ++ right) = .error (.identifier (Text.strip left))) := by
  rw [execute, read_assignment h, assign]
  cases Token.soleName? (Token.scan left) with
  | some name => exact .inl ⟨name, rfl, rfl, rfl⟩
  | none => exact .inr ⟨rfl, rfl⟩

variable {left right name : String}

/-- Right sides that are blank, or have an `=` themselves, are refused. -/
theorem assign_refused (h : Token.soleName? (Token.scan left) = some name)
    (refused : (∀ c ∈ right.toList, Text.isBlank c) ∨ '=' ∈ right.toList) :
    assign limits store left right = .error (.assignment none) := by
  have bad : ((Token.scan right).isEmpty || (Token.scan right).contains assignSign) = true := by
    rw [Bool.or_eq_true, List.isEmpty_iff, List.contains_iff_mem, assignSign_mem_scan]
    exact refused.imp Token.scanChars_eq_nil.2 id
  simp only [assign, h, run, rightValue, bad, if_true, error_map]

theorem assign_eq_value (h : Token.soleName? (Token.scan left) = some name)
    (notBlank : ¬∀ c ∈ right.toList, Text.isBlank c) (single : '=' ∉ right.toList) :
    assign limits store left right =
      ((Expression.value limits store right).mapError Fault.onRightSide).map (.assigned name) := by
  have good : ((Token.scan right).isEmpty || (Token.scan right).contains assignSign) = false := by
    rw [Bool.eq_false_iff, Ne, Bool.or_eq_true, List.isEmpty_iff, List.contains_iff_mem,
      assignSign_mem_scan]
    rintro (blank | assigns)
    · exact notBlank (Token.scanChars_eq_nil.1 blank)
    · exact single assigns
  simp only [assign, h, run, rightValue, good, Bool.false_eq_true, if_false]
  rfl

theorem rightValue_eq_error {tokens : List Token} {f : Fault}
    (h : rightValue limits store tokens = .error f) :
    f = .assignment none ∨
      ∃ g, Token.value limits store tokens = .error g ∧ f = g.onRightSide := by
  unfold rightValue at h
  split at h
  · cases h
    exact .inl rfl
  · obtain ⟨g, faulty, rfl⟩ := mapError_eq_error.1 h
    exact .inr ⟨g, faulty, rfl⟩

/-- What is wrong with a right side is no fault of an expression by itself. -/
theorem kind_rightValue_cases {tokens : List Token} {f : Fault}
    (h : rightValue limits store tokens = .error f) :
    f.kind = .assignment ∨ f.kind = .unknownVariable ∨ f.kind = .divisionByZero ∨
      f = .unwritable := by
  rcases rightValue_eq_error h with rfl | ⟨g, faulty, rfl⟩
  · exact .inl rfl
  · have own := Token.isOfExpression_value faulty
    cases g with
    | expression cause => exact .inl rfl
    | identifier left => cases own
    | assignment cause => cases own
    | unknownVariable name => exact .inr (.inl rfl)
    | divisionByZero => exact .inr (.inr (.inl rfl))
    | unwritable => exact .inr (.inr (.inr rfl))

/-- The right side of an assignment never has a fault of the left. -/
theorem kind_rightValue {tokens : List Token} {f : Fault}
    (h : rightValue limits store tokens = .error f) : f.kind ≠ .identifier := fun ofLeft => by
  rcases kind_rightValue_cases h with ofRight | ofRight | ofRight | rfl
  · exact FaultKind.noConfusion (ofLeft.symm.trans ofRight)
  · exact FaultKind.noConfusion (ofLeft.symm.trans ofRight)
  · exact FaultKind.noConfusion (ofLeft.symm.trans ofRight)
  · cases ofLeft

/-! ## Agreement -/

theorem apply_execute {text : String} (h : '=' ∉ text.toList) {effect : Effect}
    (ran : execute limits store text = .ok effect) : effect.apply store = store := by
  rw [execute_eq_value h] at ran
  obtain ⟨v, -, rfl⟩ := map_eq_ok.1 ran
  rfl

theorem execute_eq_ok (h : '=' ∉ left.toList) {effect : Effect} :
    execute limits store (left ++ "=" ++ right) = .ok effect ↔
      assign limits store left right = .ok effect := by
  rcases execute_eq_assign h right with ⟨name, -, -, same⟩ | ⟨raw, stripped⟩
  · rw [same]
  · rw [raw, stripped]
    constructor
    · intro ok
      cases ok
    · intro ok
      cases ok

theorem assign_eq_ok {effect : Effect} (h : assign limits store left right = .ok effect) :
    ∃ name v, Token.soleName? (Token.scan left) = some name ∧ effect = .assigned name v := by
  unfold assign at h
  split at h
  · rename_i name one
    obtain ⟨v, -, rfl⟩ := map_eq_ok.1 h
    exact ⟨name, v, one, rfl⟩
  · cases h

theorem execute_eq_error (h : '=' ∉ left.toList) {f : Fault}
    (refused : assign limits store left right = .error f) :
    (f.notice = ⟨.identifier, left⟩ ∧
      execute limits store (left ++ "=" ++ right) = .error (.identifier (Text.strip left))) ∨
    (f.kind ≠ .identifier ∧ execute limits store (left ++ "=" ++ right) = .error f) := by
  rcases execute_eq_assign h right with ⟨name, -, assigned, same⟩ | ⟨raw, stripped⟩
  · have faulty := assigned.symm.trans refused
    exact .inr ⟨kind_rightValue (map_eq_error.1 faulty), same.trans refused⟩
  · obtain rfl : Fault.identifier left = f := Except.error.inj (raw.symm.trans refused)
    exact .inl ⟨rfl, stripped⟩

/-- The three entry points agree. A text without `=` is executed as the expression it is, and the
store stays. A text with `=` is executed as the assignment of what follows its first `=` to what
precedes it, save that a left side which is no name is shown without blanks around it. A name is
assigned what its right side is evaluated to, if that is one expression; that the right side is
malformed makes the assignment so. -/
theorem entry_points_agree (limits : Limits) (store : Store) :
    (∀ text : String, '=' ∉ text.toList →
      execute limits store text = (Expression.value limits store text).map .value ∧
      ∀ effect, execute limits store text = .ok effect → effect.apply store = store) ∧
    (∀ left right : String, '=' ∉ left.toList →
      (∀ effect, execute limits store (left ++ "=" ++ right) = .ok effect ↔
        assign limits store left right = .ok effect) ∧
      (∀ effect, assign limits store left right = .ok effect →
        ∃ name v, Token.soleName? (Token.scan left) = some name ∧ effect = .assigned name v) ∧
      (∀ f, assign limits store left right = .error f →
        (f.notice = ⟨.identifier, left⟩ ∧
          execute limits store (left ++ "=" ++ right) = .error (.identifier (Text.strip left))) ∨
        (f.kind ≠ .identifier ∧ execute limits store (left ++ "=" ++ right) = .error f))) ∧
    (∀ left right name : String, Token.soleName? (Token.scan left) = some name →
      ((∀ c ∈ right.toList, Text.isBlank c) ∨ '=' ∈ right.toList →
        ∃ f, assign limits store left right = .error f ∧
          f.notice = ⟨.assignment, "right-hand side must be a single expression"⟩) ∧
      (¬((∀ c ∈ right.toList, Text.isBlank c) ∨ '=' ∈ right.toList) →
        (∀ v, Expression.value limits store right = .ok v →
          assign limits store left right = .ok (.assigned name v)) ∧
        (∀ f, Expression.value limits store right = .error f →
          ∃ g, assign limits store left right = .error g ∧
            g.notice = if f.kind = .expression then ⟨.assignment, f.detail⟩ else f.notice))) := by
  refine ⟨fun text single => ?_, fun left right first => ?_, fun left right name one => ?_⟩
  · exact ⟨execute_eq_value single, fun effect => apply_execute single⟩
  · exact ⟨fun effect => execute_eq_ok first, fun effect => assign_eq_ok,
      fun f => execute_eq_error first⟩
  · refine ⟨fun refused => ⟨_, assign_refused one refused, rfl⟩, fun accepted => ?_⟩
    obtain ⟨notBlank, single⟩ := not_or.1 accepted
    rw [assign_eq_value one notBlank single]
    constructor
    · intro v valued
      rw [valued]
      rfl
    · intro f faulty
      rw [faulty]
      exact ⟨f.onRightSide, rfl, f.notice_onRightSide⟩

end Statement

end Reckoner
