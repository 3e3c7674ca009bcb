/-!
# Decimal text of integers

Integers of any size are read and written in base ten. Working digit by digit on
a whole long number takes quadratic time with a large factor, so both directions
work in blocks of `blockDigits` digits.

A number is written without leading zeros, `0` for zero, and a `-` before a
negative one. Leading zeros are read, and no digits at all read as zero.

Where no blocks are used, there is a bound on the digits of a number: `maxDigits`.
-/
namespace Reckoner.Decimal

/-- The number of digits that are converted together. -/
def blockDigits : Nat := 1000

/-- The first number that does not fit into a block. -/
def blockBase : Nat := Nat.pow 10 blockDigits

def digitValue (c : Char) : Nat := c.toNat - '0'.toNat

/-- What has been read: `high` before the current block, `low` in it, which has `count` digits. -/
structure Progress where
  high : Nat
  low : Nat
  count : Nat
  deriving Repr

namespace Progress

def start : Progress := ⟨0, 0, 0⟩

def value (p : Progress) : Nat := p.high * Nat.pow 10 p.count + p.low

/-- Read one more digit; a full block is added to `high` first. -/
def push (p : Progress) (c : Char) : Progress :=
  if p.count < blockDigits then ⟨p.high, 10 * p.low + digitValue c, p.count + 1⟩
  else ⟨p.value, digitValue c, 1⟩

/-- One more digit makes ten times as much, and the digit. -/
theorem value_push (p : Progress) (c : Char) : (p.push c).value = 10 * p.value + digitValue c := by
  unfold push
  split
  · simp only [value, Nat.pow_eq, Nat.pow_succ]
    rw [Nat.mul_add, ← Nat.mul_assoc, Nat.mul_comm 10, Nat.mul_assoc, Nat.mul_comm _ 10,
      Nat.add_assoc, Nat.mul_left_comm p.high]
  · simp [value, Nat.mul_comm]

end Progress

/-- The number that a run of digits denotes. -/
def read (digits : List Char) : Nat := (digits.foldl Progress.push .start).value

/-- The digits of a block in full width. -/
def padded (block : Nat) : List Char :=
  let digits := Nat.toDigits 10 block
  List.replicate (blockDigits - digits.length) '0' ++ digits

/-- The digits of a natural number in front of those in `low`. Up to `blocks` full blocks are cut
off from its low end first; what is left is written at once. -/
def writeOver (low : List Char) : Nat → Nat → List Char
  | 0, n => Nat.toDigits 10 n ++ low
  | blocks + 1, n =>
    if n < blockBase then Nat.toDigits 10 n ++ low
    else writeOver (padded (n % blockBase) ++ low) blocks (n / blockBase)

/-- A bound on the number of full blocks, each of which has more than three bits to a digit. -/
def fullBlocks (n : Nat) : Nat := n.log2 / (3 * blockDigits)

/-- The digits of a natural number. -/
def digits (n : Nat) : List Char := writeOver [] (fullBlocks n) n

def chars (z : Int) : List Char := if z < 0 then '-' :: digits z.natAbs else digits z.natAbs

def text (z : Int) : String := String.ofList (chars z)

/-- The most digits that are converted at once. -/
def maxDigits : Nat := 4300

/-- The first number that has too many digits to be written at once. -/
@[irreducible]
def firstLong : Nat := Nat.pow 10 maxDigits

/-- A number that is short enough to be written at once. -/
abbrev Short := { n : Nat // n < firstLong }

end Reckoner.Decimal
