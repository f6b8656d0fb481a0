import VectorQuery.Number.Binary

/-!
# The shortest decimal that reads back

`Binary.shortest` gives the decimal with the fewest digits whose nearest floating point number is
the one at hand, and of several the one nearest to it. It walks the grids of multiples of
`10 ^ e` from coarse to fine and stops at the first grid on which one of the two neighbours of the
number reads back. Whatever it returns reads back, because each candidate is tested before it is
taken and the exact expansion, which is the last resort, reads back as well.
-/

namespace VectorQuery.Number

/-- The decimal `digits * 10 ^ exponent`. -/
structure Decimal where
  /-- The digits, read as one whole number. -/
  digits : Nat
  /-- The power of ten that the last digit counts. -/
  exponent : Int
  deriving DecidableEq, Repr

namespace Decimal

/-- The numerator of a decimal written as a quotient of whole numbers. -/
def num (d : Decimal) : Nat := d.digits * Nat.pow 10 d.exponent.toNat

/-- The denominator of a decimal written as a quotient of whole numbers. -/
def den (d : Decimal) : Nat := Nat.pow 10 (-d.exponent).toNat

end Decimal

/-- What becomes of a number that lies halfway between two decimals of equal length. -/
inductive Tie where
  /-- The decimal further from zero is taken. -/
  | away
  /-- The decimal whose last digit is even is taken. -/
  | even
  deriving DecidableEq, Repr

namespace Tie

/-- Whether a tie above the last digit `digits` is rounded up. -/
def roundsUp : Tie → Nat → Bool
  | away, _ => true
  | even, digits => digits % 2 = 1

end Tie

namespace Binary

variable {f : Format}

/-- Whether a decimal reads back as the magnitude of the number. -/
def readsBack (x : Binary f) (d : Decimal) : Bool := f.nearest d.num d.den = x.magnitude

/-- The neighbour of the number on the grid of multiples of `10 ^ exponent` that reads back, if
there is one; of two the nearer, and of two equally near the one that `tie` picks. -/
def onGrid? (tie : Tie) (x : Binary f) (exponent : Int) : Option Decimal :=
  let num := x.units * Nat.pow 10 (-exponent).toNat
  let den := f.unitsPerOne * Nat.pow 10 exponent.toNat
  let below : Decimal := ⟨num / den, exponent⟩
  let above : Decimal := ⟨num / den + 1, exponent⟩
  let twice := 2 * (num % den)
  let upward := den < twice || (twice = den && tie.roundsUp below.digits)
  let (near, far) := if upward then (above, below) else (below, above)
  if x.readsBack near then some near
  else if x.readsBack far then some far
  else none

/-- The first success on the grids from `exponent` downwards, `steps` of them. -/
def searchGrids (tie : Tie) (x : Binary f) : (steps : Nat) → (exponent : Int) → Option Decimal
  | 0, _ => none
  | steps + 1, exponent =>
    (x.onGrid? tie exponent).or (searchGrids tie x steps (exponent - 1))

/-- A power of ten above a positive finite number. The bound comes from the binary logarithm of
its units: a number below `2 ^ (l + 1)` is below `10 ^ ((l + 1) * 0.30103 + 1)`. -/
def decimalBound (x : Binary f) : Int :=
  ((x.units.log2 : Int) + 1 - f.unitsPerOne.log2) * 30103 / 100000 + 1

/-- The exact value of a finite number as a decimal. -/
def exact (x : Binary f) : Decimal :=
  let places := f.unitsPerOne.log2
  ⟨x.units * Nat.pow 5 places, -places⟩

/-- The shortest decimal that reads back as the magnitude of a finite number. Twenty-two grids
below the bound are enough for every format of at most 64 bits. -/
def shortest (tie : Tie) (x : Binary f) : Decimal :=
  if x.isZero then ⟨0, 0⟩ else (x.searchGrids tie 22 x.decimalBound).getD x.exact

end Binary

end VectorQuery.Number
