import Reckoner.Decimal
import Reckoner.Text.Blank
import Reckoner.Text.Letter
import Reckoner.Violation

/-!
# Tokens

A text is a sequence of lexemes: longest runs of ASCII digits, longest runs of
letters, and single other characters. Blanks separate lexemes and are dropped. A
digit run stands for its number, a letter run for a variable name, and any other
character for itself.

Main definitions:
* `Token`: what a lexeme stands for.
* `Token.scan`: the tokens of a text.
-/
namespace Reckoner

open Text (isBlank isLetter)

/-- What a lexeme stands for. A text has no negative integers: a sign is a symbol. -/
inductive Token where
  | integer (value : Int)
  | identifier (name : String)
  | symbol (char : Char)
  deriving Repr, DecidableEq

namespace Token

/-- Whether two neighbours belong to one lexeme. -/
def joins (a b : Char) : Bool := (a.isDigit && b.isDigit) || (isLetter a && isLetter b)

/-- The token of a lexeme; blanks have none. -/
def ofLexeme? : List Char → Option Token
  | [] => none
  | c :: cs =>
    if isBlank c then none
    else if c.isDigit then some (integer (Decimal.read (c :: cs)))
    else if isLetter c then some (identifier (String.ofList (c :: cs)))
    else some (symbol c)

def scanChars (cs : List Char) : List Token := (cs.splitBy joins).filterMap ofLexeme?

def scan (text : String) : List Token := scanChars text.toList

/-- The name of a token list that is one identifier. -/
def soleName? : List Token → Option String
  | [identifier name] => some name
  | _ => none

/-- The identifier of a given name, which has to have a character. -/
def ofName (name : String) : Except Violation Token :=
  if name.isEmpty then .error ⟨"name", .minimalLength⟩ else .ok (identifier name)

/-- The symbol token of a given text, which has to be one character. -/
def ofSymbolText (text : String) : Except Violation Token :=
  match text.toList with
  | [] => .error ⟨"char", .minimalLength⟩
  | [c] => .ok (symbol c)
  | _ :: _ :: _ => .error ⟨"char", .maximalLength⟩

end Token

end Reckoner
