import Reckoner.Decimal
import Reckoner.Operator
import Reckoner.Text.Quoted

/-!
# Faults

Why a statement fails. A fault is a cause; from the cause follow its kind, the
message shown for that kind, and a detail that names the place at fault. Messages
go to the user, details to the log.

A detail that names a limit has it written at once, so a limit with too many digits
makes a fault of its own, `unwritable`. Sessions and scripts catch all others.

Main definitions:
* `Malformed`: all reasons to refuse an expression.
* `Fault`: all reasons to refuse a statement.
* `Notice`: what is said of a fault.
* `Fault.caught`: an outcome, unless its fault is not caught.
* `Course`: what is done until a fault is not caught.
-/
namespace Reckoner

/-! ## Causes -/

/-- Why an expression is refused. -/
inductive Malformed where
  /-- a symbol that stands for nothing at its place -/
  | unsupportedSymbol (symbol : Char)
  /-- a `*`, `/` or `^` that follows no operand -/
  | noLeftOperand (symbol : Char)
  /-- unequal numbers of opening and closing parentheses -/
  | unbalanced
  /-- a `)` before its `(` -/
  | unmatchedClosing
  /-- a `(` that is never closed -/
  | unmatchedOpening
  /-- a slot that holds no element -/
  | emptySlot
  /-- a binary operator on fewer than two operands -/
  | tooFewOperands (operator : Operator)
  /-- a sign on no operand -/
  | noOperand (operator : Operator)
  /-- a parenthesis in reverse Polish notation -/
  | strayParenthesis (symbol : Char)
  /-- some other number of values at the end than one -/
  | valuesLeft (count : Nat)
  | negativeExponent
  | exponentTooLarge (limit : Decimal.Short)
  | resultTooLarge (limit : Decimal.Short)
  deriving Repr, DecidableEq

/-- Why a statement fails. -/
inductive Fault where
  /-- the expression is refused -/
  | expression (cause : Malformed)
  /-- the left side of an assignment is no variable name -/
  | identifier (left : String)
  /-- the right side of an assignment is refused; it is empty or has an assignment itself when
  there is no cause -/
  | assignment (cause : Option Malformed)
  /-- the variable has no value -/
  | unknownVariable (name : String)
  | divisionByZero
  /-- a limit that is to be named has too many digits to be written -/
  | unwritable
  deriving Repr, DecidableEq

/-! ## Words -/

/-- The kinds of faults; `general` covers all that are caught. -/
inductive FaultKind where
  | general
  | expression
  | identifier
  | assignment
  | unknownVariable
  | divisionByZero
  | unwritable
  deriving Repr, DecidableEq

/-- What the user reads. -/
def FaultKind.message : FaultKind → String
  | general => "Calculator error"
  | expression => "Invalid expression"
  | identifier => "Invalid identifier"
  | assignment => "Invalid assignment"
  | unknownVariable => "Unknown variable"
  | divisionByZero => "Division by zero"
  | unwritable => "Exceeds the limit (4300 digits) for integer string conversion; " ++
      "use sys.set_int_max_str_digits() to increase the limit"

/-- What is said of a fault: its kind, and a detail that may be empty. -/
structure Notice where
  kind : FaultKind
  detail : String
  deriving Repr, DecidableEq

namespace Notice

def message (n : Notice) : String := n.kind.message

/-- The detail, or the message for want of one. -/
def explanation (n : Notice) : String := if n.detail.isEmpty then n.message else n.detail

end Notice

def Malformed.detail : Malformed → String
  | unsupportedSymbol c => "unsupported symbol " ++ Text.quoted c.toString
  | noLeftOperand c => "operator " ++ Text.quoted c.toString ++ " without left operand"
  | unbalanced => "unbalanced parentheses"
  | unmatchedClosing => "')' without matching '('"
  | unmatchedOpening => "'(' without matching ')'"
  | emptySlot => "unexpected element None"
  | tooFewOperands op => "not enough operands for " ++ Text.quoted op.text
  | noOperand op => "missing operand for " ++ Text.quoted op.text
  | strayParenthesis c => "unexpected element " ++ Text.quoted c.toString ++ " in postfix input"
  | valuesLeft count => Decimal.text count ++ " values left on the stack"
  | negativeExponent => "negative exponent"
  | exponentTooLarge limit => "exponent exceeds " ++ Decimal.text limit.val
  | resultTooLarge limit => "result would exceed " ++ Decimal.text limit.val ++ " bits"

namespace Fault

def kind : Fault → FaultKind
  | expression _ => .expression
  | identifier _ => .identifier
  | assignment _ => .assignment
  | unknownVariable _ => .unknownVariable
  | divisionByZero => .divisionByZero
  | unwritable => .unwritable

def detail : Fault → String
  | expression cause => cause.detail
  | identifier left => left
  | assignment none => "right-hand side must be a single expression"
  | assignment (some cause) => cause.detail
  | unknownVariable name => name
  | divisionByZero => "divisor is zero"
  | unwritable => ""

def notice (f : Fault) : Notice := ⟨f.kind, f.detail⟩

def message (f : Fault) : String := f.notice.message

/-- The fault of an assignment whose right side has the fault `f`. -/
def onRightSide : Fault → Fault
  | expression cause => assignment (some cause)
  | f => f

/-- The fault of an expression that is refused for a limit, which is named in it. -/
def ofLimit (limit : Nat) (cause : Decimal.Short → Malformed) : Fault :=
  if short : limit < Decimal.firstLong then expression (cause ⟨limit, short⟩) else unwritable

theorem ofLimit_of_lt {limit : Nat} (short : limit < Decimal.firstLong)
    (cause : Decimal.Short → Malformed) :
    ofLimit limit cause = expression (cause ⟨limit, short⟩) := dif_pos short

theorem ofLimit_of_le {limit : Nat} (long : Decimal.firstLong ≤ limit)
    (cause : Decimal.Short → Malformed) : ofLimit limit cause = unwritable :=
  dif_neg (Nat.not_lt.2 long)

/-! ## Catching -/

/-- Whether sessions and scripts catch a fault and go on. -/
def isCaught : Fault → Bool
  | unwritable => false
  | _ => true

/-- An outcome with its fault caught; a fault that is not caught remains one. -/
def caught {α : Type} : Except Fault α → Except Fault (Except Fault α)
  | .ok a => .ok (.ok a)
  | .error f => if f.isCaught then .ok (.error f) else .error f

theorem isCaught_iff {f : Fault} : f.isCaught = true ↔ f ≠ unwritable := by
  cases f <;> simp [isCaught]

variable {α : Type} {x y : Except Fault α}

theorem caught_unwritable : caught (.error unwritable : Except Fault α) = .error unwritable := rfl

theorem caught_of_ne (h : x ≠ .error unwritable) : caught x = .ok x := by
  cases x with
  | ok a => rfl
  | error f =>
    have goesOn : f.isCaught = true := isCaught_iff.2 fun same => h (congrArg _ same)
    rw [caught, if_pos goesOn]

theorem caught_eq_ok : caught x = .ok y ↔ x = y ∧ x ≠ .error unwritable := by
  by_cases escapes : x = .error unwritable
  · simp [escapes, caught_unwritable]
  · simp [escapes, caught_of_ne escapes]

theorem caught_eq_error {f : Fault} :
    caught x = .error f ↔ x = .error unwritable ∧ f = unwritable := by
  by_cases escapes : x = .error unwritable
  · simp [escapes, caught_unwritable, eq_comm]
  · simp [escapes, caught_of_ne escapes]

end Fault

/-- Things that are done one after the other. -/
structure Course (α : Type) where
  done : List α
  /-- the fault that breaks off, if one does -/
  escaped : Option Fault
  deriving DecidableEq

namespace Course

variable {α : Type}

/-- Nothing is left to do. -/
def ended : Course α := ⟨[], none⟩

/-- Nothing more is done, for a fault is not caught. -/
def broken (f : Fault) : Course α := ⟨[], some f⟩

def cons (a : α) (c : Course α) : Course α := ⟨a :: c.done, c.escaped⟩

@[simp]
theorem done_cons (a : α) (c : Course α) : (cons a c).done = a :: c.done := rfl

@[simp]
theorem escaped_cons (a : α) (c : Course α) : (cons a c).escaped = c.escaped := rfl

end Course

end Reckoner
