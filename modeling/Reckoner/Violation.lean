/-!
# Violations

A field of some data that is not as it must be: which field, and which rule it
breaks.
-/
namespace Reckoner

/-- The rules that fields obey. -/
inductive Rule where
  /-- the text is no integer -/
  | integer
  /-- the text of the integer is too long -/
  | integerSize
  /-- the number is at least its minimum -/
  | minimum
  /-- the text is one of those listed -/
  | listed
  /-- the text is not too short -/
  | minimalLength
  /-- the text is not too long -/
  | maximalLength
  /-- the path is that of a regular file -/
  | regularFile
  deriving Repr, DecidableEq

/-- What is said when the rule is broken. -/
def Rule.broken : Rule → String
  | integer => "int_parsing"
  | integerSize => "int_parsing_size"
  | minimum => "greater_than_equal"
  | listed => "literal_error"
  | minimalLength => "string_too_short"
  | maximalLength => "string_too_long"
  | regularFile => "path_not_file"

structure Violation where
  field : String
  rule : Rule
  deriving Repr, DecidableEq

namespace Violation

def message (v : Violation) : String := v.field ++ ": " ++ v.rule.broken

def report (vs : List Violation) : String := "; ".intercalate (vs.map message)

end Violation

end Reckoner
