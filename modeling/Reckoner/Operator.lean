/-!
# Operators

The five binary operators and the two signs, with their symbols and the
precedences that expressions give them. A sign binds tighter than every binary
operator.
-/
namespace Reckoner

/-- The operators between two operands. -/
inductive BinaryOp where
  | add
  | sub
  | mul
  | div
  | pow
  deriving Repr, DecidableEq

/-- The operators before one operand. -/
inductive UnaryOp where
  | plus
  | minus
  deriving Repr, DecidableEq

namespace BinaryOp

def symbol : BinaryOp → Char
  | add => '+'
  | sub => '-'
  | mul => '*'
  | div => '/'
  | pow => '^'

def precedence : BinaryOp → Int
  | add | sub => 1
  | mul | div => 2
  | pow => 3

def ofSymbol? : Char → Option BinaryOp
  | '+' => some add
  | '-' => some sub
  | '*' => some mul
  | '/' => some div
  | '^' => some pow
  | _ => none

def ofText? (text : String) : Option BinaryOp :=
  match text.toList with
  | [c] => ofSymbol? c
  | _ => none

theorem ofSymbol?_symbol (op : BinaryOp) : ofSymbol? op.symbol = some op := by cases op <;> rfl

end BinaryOp

namespace UnaryOp

def symbol : UnaryOp → Char
  | plus => '+'
  | minus => '-'

/-- The precedence of both signs. -/
def precedence : UnaryOp → Int
  | plus | minus => 4

def ofSymbol? : Char → Option UnaryOp
  | '+' => some plus
  | '-' => some minus
  | _ => none

def ofText? (text : String) : Option UnaryOp :=
  match text.toList with
  | [c] => ofSymbol? c
  | _ => none

theorem ofSymbol?_symbol (op : UnaryOp) : ofSymbol? op.symbol = some op := by cases op <;> rfl

end UnaryOp

/-- An operator in an expression, with the precedence that the expression gives it. -/
inductive Operator where
  | binary (op : BinaryOp) (precedence : Int)
  | unary (op : UnaryOp) (precedence : Int)
  deriving Repr, DecidableEq

namespace Operator

def precedence : Operator → Int
  | binary _ p => p
  | unary _ p => p

/-- The text of an operator in reverse Polish notation: a sign is marked to tell it from the
binary operator of the same symbol. -/
def text : Operator → String
  | binary op _ => op.symbol.toString
  | unary op _ => "u" ++ op.symbol.toString

end Operator

end Reckoner
