import Reckoner.Neighbours

/-!
# Line breaks

A text is cut into lines after every line break; `\r\n` is one break. A break at
the very end starts no further line. A text file is read with `\n` in place of
`\r\n` and `\r`; the other breaks stay.
-/
namespace Reckoner.Text

/-- The characters that end a line. -/
def lineBreaks : List Char :=
  ['\n', '\r', '\x0b', '\x0c', '\x1c', '\x1d', '\x1e', '\u0085', '\u2028', '\u2029']

def isLineBreak (c : Char) : Bool := lineBreaks.contains c

/-- Whether two neighbours stay in one line, the break that ends it included. -/
def sameLine (a b : Char) : Bool := !isLineBreak a || (a == '\r' && b == '\n')

def lines (text : String) : List String :=
  (text.toList.splitBy sameLine).map fun line =>
    String.ofList (line.takeWhile (!isLineBreak ·))

/-- One character of a text file, after `previous`: `\r` becomes `\n`, and the `\n` of `\r\n` is
dropped. -/
def unifyBreak (previous : Option Char) (c : Char) : Option Char :=
  if c = '\r' then some '\n'
  else if c = '\n' ∧ previous = some '\r' then none
  else some c

/-- The characters with `\n` for every `\r\n` and `\r`. -/
def unifyBreaks (cs : List Char) : List Char :=
  (withPrevious none cs).filterMap fun (previous, c) => unifyBreak previous c

def unifyLines (text : String) : String := String.ofList (unifyBreaks text.toList)

/-- Whether two neighbours stay in one line of standard input, which only `\n` ends. -/
def sameInputLine (a _b : Char) : Bool := a != '\n'

/-- The lines of standard input, which is read as a text file is. -/
def inputLines (input : String) : List String :=
  ((unifyBreaks input.toList).splitBy sameInputLine).map fun line =>
    String.ofList (line.takeWhile (· != '\n'))

end Reckoner.Text
