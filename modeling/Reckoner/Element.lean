import Reckoner.Fault
import Reckoner.Neighbours
import Reckoner.Token

/-!
# Elements of expressions

Tokens become elements once it is known what each symbol is at its place: `+` and
`-` are binary operators right after an operand and signs elsewhere.

Main definitions:
* `Element`: operands, operators and parentheses.
* `Element.classify`: the element of a token, given the token before it.
* `Element.ofTokens`: the elements of a token list whose parentheses balance.
-/
namespace Reckoner

/-- A part of an expression. -/
inductive Element where
  | number (value : Int)
  | var (name : String)
  | operator (operator : Operator)
  | opening
  | closing
  deriving Repr, DecidableEq

namespace Element

/-- The text of an element in reverse Polish notation. -/
def text : Element → String
  | number value => Decimal.text value
  | var name => name
  | operator op => op.text
  | opening => "("
  | closing => ")"

/-- Whether a token ends an operand, so that an operator after it is binary. -/
def endsOperand : Option Token → Bool
  | some (.integer _) | some (.identifier _) => true
  | some (.symbol c) => c == ')'
  | none => false

/-- The parenthesis that a symbol stands for. -/
def parenthesis (symbol : Char) : Except Malformed Element :=
  if symbol = '(' then .ok opening
  else if symbol = ')' then .ok closing
  else .error (.unsupportedSymbol symbol)

/-- What a symbol stands for right after an operand. -/
def afterOperand (symbol : Char) : Except Malformed Element :=
  match BinaryOp.ofSymbol? symbol with
  | some op => .ok (operator (.binary op op.precedence))
  | none => parenthesis symbol

/-- What a symbol stands for where no operand has ended. -/
def beforeOperand (symbol : Char) : Except Malformed Element :=
  match UnaryOp.ofSymbol? symbol, BinaryOp.ofSymbol? symbol with
  | some op, _ => .ok (operator (.unary op op.precedence))
  | none, some _ => .error (.noLeftOperand symbol)
  | none, none => parenthesis symbol

/-- The element of a token, given the token before it. -/
def classify (previous : Option Token) : Token → Except Malformed Element
  | .integer value => .ok (number value)
  | .identifier name => .ok (var name)
  | .symbol c => if endsOperand previous then afterOperand c else beforeOperand c

/-- Whether there are as many opening as closing parentheses, in whatever order. -/
def balanced (elements : List Element) : Bool :=
  elements.count opening == elements.count closing

/-- The elements of a token list. The first token that has no element decides the fault; the
balance of the parentheses is looked at last. -/
def ofTokens (tokens : List Token) : Except Malformed (List Element) := do
  let elements ← (withPrevious none tokens).mapM fun (previous, token) => classify previous token
  if balanced elements then .ok elements else .error .unbalanced

/-- The variable of a given name, which has to have a character. -/
def ofName (name : String) : Except Violation Element :=
  if name.isEmpty then .error ⟨"name", .minimalLength⟩ else .ok (var name)

def ofBinary (symbol : String) (precedence : Int) : Except Violation Element :=
  match BinaryOp.ofText? symbol with
  | some op => .ok (operator (.binary op precedence))
  | none => .error ⟨"symbol", .listed⟩

def ofUnary (symbol : String) (precedence : Int) : Except Violation Element :=
  match UnaryOp.ofText? symbol with
  | some op => .ok (operator (.unary op precedence))
  | none => .error ⟨"symbol", .listed⟩

end Element

end Reckoner
