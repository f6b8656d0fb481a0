import VectorQuery.Json.Basic

/-!
# Numbers in JSON text

A numeral without a fraction and an exponent that 64 bits hold is a whole number. Every other one is
a floating point number, read in two roundings: as many of its digits as fit 64 bits become a
significand, which is rounded to a floating point number and then scaled by the power of ten that
the other digits and the exponent leave. Decimals of up to fifteen digits and small exponents are
read to the nearest number in this way; for others the two roundings may miss it by the last bit.
-/

namespace VectorQuery.Json

open Number

/-- A number as it is written. -/
structure Numeral where
  /-- Whether a minus sign stands in front. -/
  negative : Bool
  /-- The digits before the point. -/
  whole : List Nat
  /-- The digits after the point, if there is one. -/
  fraction : Option (List Nat)
  /-- The exponent, if there is one: whether it is negative, and its digits. -/
  exponent : Option (Bool × List Nat)

namespace Numeral

/-- The digits read so far as a number, and the power of ten that its last digit counts. -/
structure Significand where
  /-- The digits that fit. -/
  value : Nat
  /-- The power of ten. -/
  scale : Int
  /-- Whether a digit has been left out, after which all are. -/
  full : Bool

namespace Significand

/-- Whether another digit still fits 64 bits. -/
def fits (s : Significand) (digit : Nat) : Bool :=
  !s.full && decide (s.value * 10 + digit < UInt64.size)

/-- One more digit before the point; one that does not fit counts in the scale. -/
def pushWhole (s : Significand) (digit : Nat) : Significand :=
  if s.fits digit then { s with value := s.value * 10 + digit }
  else { s with scale := s.scale + 1, full := true }

/-- One more digit after the point; one that does not fit is dropped. -/
def pushFraction (s : Significand) (digit : Nat) : Significand :=
  if s.fits digit then { s with value := s.value * 10 + digit, scale := s.scale - 1 }
  else { s with full := true }

/-- The significand of the digits before the point. -/
def ofWhole (digits : List Nat) : Significand := digits.foldl pushWhole ⟨0, 0, false⟩

/-- The significand with the digits after the point. -/
def withFraction (s : Significand) (digits : List Nat) : Significand :=
  digits.foldl pushFraction { s with full := false }

end Significand

/-- The number with the given decimal digits. -/
def natOfDigits (digits : List Nat) : Nat := digits.foldl (fun n d => n * 10 + d) 0

/-- The exponent that is written. -/
def writtenExponent (n : Numeral) : Int :=
  match n.exponent with
  | none => 0
  | some (negative, digits) => if negative then -natOfDigits digits else natOfDigits digits

/-- The greatest power of ten that is a finite 64-bit number. -/
def greatestPower : Nat := 308

/-- The floating point number nearest to a power of ten. -/
def powerOfTen (k : Nat) : Double := Binary.ofRatio false (Nat.pow 10 k) 1

/-- A number divided by a power of ten, the greatest one first as often as needed. -/
def scaleDown (x : Double) (k : Nat) : Double :=
  if k ≤ greatestPower then x.div (powerOfTen k)
  else if x.isZero then x
  else scaleDown (x.div (powerOfTen greatestPower)) (k - greatestPower)
  termination_by k
  decreasing_by simp only [greatestPower] at *; omega

/-- A number multiplied by a power of ten, if the result is finite. -/
def scaleUp (x : Double) (k : Nat) : Option Double :=
  if k ≤ greatestPower then
    let product := x.mul (powerOfTen k)
    if product.isFinite then some product else none
  else if x.isZero then some x
  else none

/-- The significand scaled to a floating point number, if that is finite. -/
def scaled (significand : Nat) (scale : Int) : Option Double :=
  let x : Double := Binary.ofInt significand
  if scale < 0 then some (scaleDown x scale.natAbs) else scaleUp x scale.natAbs

/-- A floating point number with the numeral's sign, as JSON. -/
def signed (n : Numeral) (x : Double) : Json := ofDouble { x with negative := n.negative }

/-- The value of a numeral; there is none for a number too large. -/
def value? (n : Numeral) : Option Json :=
  let s := Significand.ofWhole n.whole
  match n.fraction, n.exponent with
  | none, none =>
    if s.full then (scaled s.value s.scale).map n.signed
    else if !n.negative then some (ofInt s.value)
    else if s.value = 0 ∨ signedBound < s.value then some (n.signed (Binary.ofInt s.value))
    else some (ofInt (-s.value))
  | fraction, _ =>
    let s := match fraction with
      | none => s
      | some digits => s.withFraction digits
    (scaled s.value (s.scale + n.writtenExponent)).map n.signed

end Numeral

end VectorQuery.Json
