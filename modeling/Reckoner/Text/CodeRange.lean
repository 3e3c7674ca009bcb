/-!
# Ranges of code points

The character classes of this library are tables of closed ranges of code points.
-/
namespace Reckoner.Text

/-- The code points from `first` to `last`, both included. -/
structure CodeRange where
  first : Nat
  last : Nat
  deriving Repr, DecidableEq

namespace CodeRange

def holds (r : CodeRange) (c : Char) : Bool := r.first ≤ c.toNat && c.toNat ≤ r.last

def holdsAny (rs : List CodeRange) (c : Char) : Bool := rs.any (·.holds c)

end CodeRange

end Reckoner.Text
