import Reckoner.Decimal
import Reckoner.Text.Blank
import Reckoner.Violation

/-!
# Numerals

Settings write integers more freely than expressions do. White space around a
numeral and a `+` before it say nothing; nor do zeros in front, with underscores
among them. What is left is an integer: a minus sign or none, and digits, which
underscores may divide into groups. A point with zeros after it may follow.

The sign of a negative number can stand after the zeros in front, as in `0-7`, and
zeros after the sign belong to the digits.

Main definitions:
* `Numeral.bare`: the characters of a numeral without those that say nothing.
* `Numeral.value`: the integer that the rest denotes.
* `Numeral.read`: the integer in a text.
-/
namespace Reckoner.Numeral

/-- The characters without a plus sign in front; it cannot stand before a minus sign. -/
def dropPlus : List Char → Option (List Char)
  | '+' :: '-' :: _ => none
  | '+' :: cs => some cs
  | cs => some cs

/-- Whether a character can stand among the zeros in front, once there is a zero. -/
def isFiller (c : Char) : Bool := c == '0' || c == '_'

/-- The characters without the zeros in front. The last of them stays where they are all there is,
and where a point follows. -/
def dropZeros : List Char → List Char
  | '0' :: cs =>
    match cs.dropWhile isFiller with
    | [] => [(cs.takeWhile isFiller).getLast?.getD '0']
    | '.' :: rest => (cs.takeWhile isFiller).getLast?.getD '0' :: '.' :: rest
    | rest => rest
  | cs => cs

/-- The characters without a point that only zeros follow, one or more. -/
def dropFraction (cs : List Char) : List Char :=
  let fraction := (cs.dropWhile (· != '.')).drop 1
  if !fraction.isEmpty && fraction.all (· == '0') then cs.takeWhile (· != '.') else cs

/-- The characters of a text that is to be a numeral, without those that say nothing. -/
def bare (text : String) : Option (List Char) :=
  (dropPlus (Text.trimBy Text.isWhiteSpace text.toList)).map fun cs => dropFraction (dropZeros cs)

/-- Whether the characters are digits, with at most one underscore between two of them. -/
def isGrouped : List Char → Bool
  | [] => false
  | [c] => c.isDigit
  | c :: d :: rest => c.isDigit && (if d = '_' then isGrouped rest else isGrouped (d :: rest))

/-- The sign in front of the characters, and what follows it. -/
def splitSign : List Char → List Char × List Char
  | '-' :: rest => (['-'], rest)
  | cs => ([], cs)

/-- The most characters that an integer can have. -/
def maxLength : Nat := Decimal.maxDigits

/-- Whether a sign and the digits right after it are too many for an integer, whatever follows them.
Digits that start with a zero are not. -/
def isTooLong (sign digits : List Char) : Bool :=
  digits.head? != some '0' && maxLength < sign.length + (digits.takeWhile Char.isDigit).length

/-- The integer that the characters denote. One with underscores, or with zeros after its sign, is
none at all if it has too many digits. -/
def value (cs : List Char) : Except Rule Int :=
  let (sign, digits) := splitSign cs
  let ungrouped := digits.filter (·.isDigit)
  if isTooLong sign digits then .error .integerSize
  else if !isGrouped digits || maxLength < ungrouped.length then .error .integer
  else
    let n : Int := Decimal.read ungrouped
    .ok (if sign.isEmpty then n else -n)

def read (text : String) : Except Rule Int :=
  match bare text with
  | some cs => value cs
  | none => .error .integer

end Reckoner.Numeral
