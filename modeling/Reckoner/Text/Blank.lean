import Reckoner.Text.CodeRange

/-!
# White space and blanks

White space is what separates words: the separators of categories Zs, Zl and Zp,
the control characters from tab to carriage return, and U+0085. The blanks are the
white space and the four separators U+001C to U+001F; they separate lexemes and are
dropped from both ends of a line.
-/
namespace Reckoner.Text

def whiteSpaceRanges : List CodeRange :=
  [⟨0x9, 0xd⟩, ⟨0x20, 0x20⟩, ⟨0x85, 0x85⟩, ⟨0xa0, 0xa0⟩, ⟨0x1680, 0x1680⟩, ⟨0x2000, 0x200a⟩,
   ⟨0x2028, 0x2029⟩, ⟨0x202f, 0x202f⟩, ⟨0x205f, 0x205f⟩, ⟨0x3000, 0x3000⟩]

def isWhiteSpace (c : Char) : Bool := CodeRange.holdsAny whiteSpaceRanges c

/-- All blanks. -/
def blankRanges : List CodeRange := ⟨0x1c, 0x1f⟩ :: whiteSpaceRanges

def isBlank (c : Char) : Bool := CodeRange.holdsAny blankRanges c

/-- The characters without those at either end that satisfy `p`. -/
def trimBy (p : Char → Bool) (cs : List Char) : List Char :=
  ((cs.dropWhile p).reverse.dropWhile p).reverse

def trim (cs : List Char) : List Char := trimBy isBlank cs

/-- The text without the blanks at either end. -/
def strip (text : String) : String := String.ofList (trim text.toList)

end Reckoner.Text
