import VectorQuery.Number.Shortest

/-!
# How numbers are written

A `Layout` is the set of decisions that turn a shortest decimal into text: where a fraction is
written out, when an exponent is used, and what stands for the numbers that have no digits. The
library writes numbers in three layouts: `plain` in query documents, `jsonDouble` and `jsonSingle`
in JSON.
-/

namespace VectorQuery.Number

/-- The decimal digits of a whole number, most significant first. -/
def digitChars (n : Nat) : List Char := Nat.toDigits 10 n

/-- The text of a whole number: a minus sign for a negative one, no leading zeros. -/
def intChars (n : Int) : List Char :=
  if n < 0 then '-' :: digitChars n.natAbs else digitChars n.natAbs

namespace Decimal

/-- The decimal written out without an exponent, and without a point when it is whole. -/
def positional (d : Decimal) : List Char :=
  let digits := digitChars d.digits
  let places := (-d.exponent).toNat
  if places = 0 then digits ++ List.replicate d.exponent.toNat '0'
  else
    let padded := List.replicate (places + 1 - digits.length) '0' ++ digits
    let whole := padded.length - places
    padded.take whole ++ '.' :: padded.drop whole

/-- The power of ten that the first digit counts. -/
def leading (d : Decimal) : Int := d.exponent + (digitChars d.digits).length - 1

/-- The decimal with one digit before the point and an exponent that always has a sign. -/
def scientific (d : Decimal) : List Char :=
  let mantissa := match digitChars d.digits with
    | first :: second :: rest => first :: '.' :: second :: rest
    | digits => digits
  let sign := if d.leading < 0 then '-' else '+'
  mantissa ++ 'e' :: sign :: digitChars d.leading.natAbs

end Decimal

/-- The decisions of one written form of floating point numbers. -/
structure Layout where
  /-- Which of two equally near shortest decimals is written. -/
  tie : Tie
  /-- The least and greatest leading powers of ten that are written out; `none` writes out all. -/
  writtenOut : Option (Int × Int)
  /-- Whether a whole number written out is followed by `.0`. -/
  keepsPoint : Bool
  /-- What stands for NaN. -/
  nan : String
  /-- What stands for infinity, before its sign. -/
  infinity : String
  /-- Whether an infinite number has a sign. -/
  signsInfinity : Bool

namespace Layout

/-- Numbers in query documents: all digits written out, a half going away from zero, and words for
the numbers without digits. -/
def plain : Layout where
  tie := .away
  writtenOut := none
  keepsPoint := false
  nan := "NaN"
  infinity := "inf"
  signsInfinity := true

/-- 64-bit numbers in JSON: written out from `0.00001` up to sixteen whole digits, with a point
always; what has no digits is null. -/
def jsonDouble : Layout where
  tie := .even
  writtenOut := some (-5, 15)
  keepsPoint := true
  nan := "null"
  infinity := "null"
  signsInfinity := false

/-- 32-bit numbers in JSON: as the 64-bit ones, written out from `0.000001` up to thirteen whole
digits. -/
def jsonSingle : Layout := { jsonDouble with writtenOut := some (-6, 12) }

/-- The text of a nonnegative decimal. -/
def magnitudeChars (l : Layout) (d : Decimal) : List Char :=
  let isWrittenOut := match l.writtenOut with
    | none => true
    | some (least, greatest) => d.digits = 0 || least ≤ d.leading && d.leading ≤ greatest
  if isWrittenOut then
    d.positional ++ if l.keepsPoint && 0 ≤ d.exponent then ['.', '0'] else []
  else d.scientific

/-- The text of a number as characters. -/
def chars {f : Format} (l : Layout) (x : Binary f) : List Char :=
  let sign := if x.negative then ['-'] else []
  if x.isNaN then l.nan.toList
  else if x.isInfinite then (if l.signsInfinity then sign else []) ++ l.infinity.toList
  else sign ++ l.magnitudeChars (x.shortest l.tie)

/-- The text of a number. -/
def text {f : Format} (l : Layout) (x : Binary f) : String := String.ofList (l.chars x)

end Layout

end VectorQuery.Number
