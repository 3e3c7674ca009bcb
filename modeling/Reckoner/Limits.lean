/-!
# Limits of the power operator

A power is refused before it is computed when its exponent, or a bound on the
size of its result, is too large.
-/
namespace Reckoner

/-- What the power operator may produce. -/
structure Limits where
  /-- the largest exponent -/
  maxExponent : Nat := 100000
  /-- the largest size of a result, in bits -/
  maxResultBits : Nat := 1000000
  /-- a result may always have one bit -/
  maxResultBits_pos : 0 < maxResultBits := by decide
  deriving Repr, DecidableEq

end Reckoner
