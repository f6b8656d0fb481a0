/-!
# Binary floating point numbers

A number of a binary interchange format is a sign and a magnitude pattern. Every finite magnitude
is a whole multiple of the format's least unit, so all arithmetic here is exact arithmetic on `Nat`
followed by one rounding: `Format.nearest` gives the pattern of the number nearest to a quotient,
with ties to the even pattern and everything too large taken to infinity.
-/

namespace VectorQuery.Number

/-- A binary interchange format, given by the widths of its two magnitude fields. -/
structure Format where
  /-- How many bits the fraction has. -/
  fractionBits : Nat
  /-- How many bits the biased exponent has. -/
  exponentBits : Nat
  deriving DecidableEq, Repr

namespace Format

/-- The 32-bit format. -/
def single : Format := ⟨23, 8⟩

/-- The 64-bit format. -/
def double : Format := ⟨52, 11⟩

/-- How many fractions there are under one exponent. -/
def fractions (f : Format) : Nat := Nat.pow 2 f.fractionBits

/-- How many magnitude patterns there are; it is also the pattern of the sign bit. -/
def patterns (f : Format) : Nat := Nat.pow 2 (f.fractionBits + f.exponentBits)

/-- The magnitude pattern of infinity; the patterns above it are those of NaN. -/
def infinity (f : Format) : Nat := (Nat.pow 2 f.exponentBits - 1) * f.fractions

/-- How many least units make up the number one. -/
def unitsPerOne (f : Format) : Nat :=
  Nat.pow 2 (Nat.pow 2 (f.exponentBits - 1) + f.fractionBits - 2)

/-- The finite magnitude that a pattern stands for, counted in least units. -/
def units (f : Format) (pattern : Nat) : Nat :=
  let exponent := pattern / f.fractions
  let fraction := pattern % f.fractions
  if exponent = 0 then fraction else (f.fractions + fraction) * Nat.pow 2 (exponent - 1)

/-- The whole number nearest to `num / den`, a half going to the even neighbour. -/
def roundHalfEven (num den : Nat) : Nat :=
  let quotient := num / den
  let twice := 2 * (num % den)
  if twice < den then quotient
  else if den < twice then quotient + 1
  else quotient + quotient % 2

/-- The magnitude pattern nearest to `num / den`.

The excess `k` is the number of low bits that do not fit. A significand that rounds up to the next
power of two carries into the exponent field, which is the pattern of the next larger number. -/
def nearest (f : Format) (num den : Nat) : Nat :=
  let units := num * f.unitsPerOne
  let k := (units / den).log2 - f.fractionBits
  min f.infinity (k * f.fractions + roundHalfEven units (den * Nat.pow 2 k))

theorem patterns_pos (f : Format) : 0 < f.patterns := Nat.two_pow_pos _

end Format

/-- A floating point number: a sign and a magnitude pattern. -/
structure Binary (f : Format) where
  /-- Whether the sign bit is set. -/
  negative : Bool
  /-- The exponent and fraction fields, read as one number. -/
  magnitude : Fin f.patterns
  deriving DecidableEq

/-- A 32-bit floating point number. -/
abbrev Single := Binary Format.single

/-- A 64-bit floating point number. -/
abbrev Double := Binary Format.double

namespace Binary

variable {f : Format}

/-- The number with the given sign and magnitude pattern, of which only the low bits count. -/
def ofPattern (negative : Bool) (pattern : Nat) : Binary f :=
  ⟨negative, pattern % f.patterns, Nat.mod_lt _ f.patterns_pos⟩

/-- The number whose bits, sign first, are those of `bits`. -/
def ofBits (bits : Nat) : Binary f :=
  ofPattern (bits / f.patterns % 2 = 1) bits

/-- The bits of a number, sign first. -/
def toBits (x : Binary f) : Nat :=
  x.negative.toNat * f.patterns + x.magnitude

/-- The number zero. -/
def zero : Binary f := ofPattern false 0

instance : Inhabited (Binary f) := ⟨zero⟩

/-- An infinite number. -/
def infinite (negative : Bool) : Binary f := ofPattern negative f.infinity

/-- The NaN with only the first fraction bit set. -/
def nan : Binary f := ofPattern false (f.infinity + f.fractions / 2)

/-- Whether the number is NaN. -/
def isNaN (x : Binary f) : Bool := f.infinity < x.magnitude

/-- Whether the number is infinite, of either sign. -/
def isInfinite (x : Binary f) : Bool := x.magnitude = f.infinity

/-- Whether the number is neither infinite nor NaN. -/
def isFinite (x : Binary f) : Bool := x.magnitude < f.infinity

/-- Whether the number is zero, of either sign. -/
def isZero (x : Binary f) : Bool := x.magnitude = (0 : Nat)

/-- The number nearest to `num / den` with the given sign. -/
def ofRatio (negative : Bool) (num den : Nat) : Binary f :=
  ofPattern negative (f.nearest num den)

/-- The number nearest to a whole number. -/
def ofInt (n : Int) : Binary f := ofRatio (n < 0) n.natAbs 1

/-- The magnitude of a finite number in least units. -/
def units (x : Binary f) : Nat := f.units x.magnitude

/-- The nearest number of another format. Every NaN becomes a NaN of the same sign. -/
def convert (g : Format) (x : Binary f) : Binary g :=
  if x.isNaN then { (nan : Binary g) with negative := x.negative }
  else if x.isInfinite then infinite x.negative
  else ofRatio x.negative x.units f.unitsPerOne

/-- The product of two finite numbers, rounded. -/
def mul (x y : Binary f) : Binary f :=
  ofRatio (x.negative != y.negative) (x.units * y.units) (f.unitsPerOne * f.unitsPerOne)

/-- The quotient of two finite numbers, rounded; the second is not zero. -/
def div (x y : Binary f) : Binary f :=
  ofRatio (x.negative != y.negative) x.units y.units

/-- The nearest 64-bit number; every finite 32-bit number is one already. -/
def toDouble (x : Binary f) : Double := x.convert .double

/-- The nearest 32-bit number. -/
def toSingle (x : Binary f) : Single := x.convert .single

end Binary

end VectorQuery.Number
