import VectorQuery.Keyed
import VectorQuery.Number.Binary

/-!
# JSON values

Whole numbers and floating point numbers are kept apart, so `1` and `1.0` are two values. A whole
number is one that 64 bits hold, signed or unsigned; a floating point number is finite. The members
of an object are a `Keyed` list.
-/

namespace VectorQuery

namespace Json

/-- The least number of a signed 64-bit type. -/
def leastSigned : Int := -9223372036854775808

/-- The first number above a signed 64-bit type. -/
def signedBound : Int := 9223372036854775808

/-- The first number above an unsigned 64-bit type. -/
def unsignedBound : Int := 18446744073709551616

/-- A whole number of a signed or unsigned 64-bit type. -/
structure Whole where
  /-- The number. -/
  value : Int
  /-- It is not below the signed range. -/
  least_le : leastSigned ≤ value
  /-- It is not above the unsigned range. -/
  lt_bound : value < unsignedBound
  deriving DecidableEq

/-- A finite 64-bit floating point number. -/
structure Real where
  /-- The number. -/
  value : Number.Double
  /-- It is neither infinite nor NaN. -/
  finite : value.isFinite = true
  deriving DecidableEq

end Json

/-- A JSON value. -/
inductive Json where
  /-- The null literal. -/
  | null
  /-- A truth value. -/
  | bool (b : Bool)
  /-- A whole number. -/
  | whole (n : Json.Whole)
  /-- A floating point number. -/
  | real (x : Json.Real)
  | string (s : String)
  | array (items : List Json)
  | object (members : List (String × Json))

namespace Json

instance : Inhabited Json := ⟨null⟩

/-- A whole number as JSON; one beyond 64 bits becomes the nearest floating point number. -/
def ofInt (n : Int) : Json :=
  if h : leastSigned ≤ n ∧ n < unsignedBound then whole ⟨n, h.1, h.2⟩
  else
    let x : Number.Double := Number.Binary.ofInt n
    if hx : x.isFinite = true then real ⟨x, hx⟩ else null

/-- A signed 64-bit number as JSON. -/
def ofInt64 (n : Int64) : Json := ofInt n.toInt

/-- A floating point number as JSON; what is not finite becomes null. -/
def ofDouble (x : Number.Double) : Json :=
  if h : x.isFinite = true then real ⟨x, h⟩ else null

/-- A 32-bit floating point number as JSON, widened to 64 bits. -/
def ofSingle (x : Number.Single) : Json := ofDouble x.toDouble

/-- An array of strings. -/
def strings (values : List String) : Json := array (values.map string)

/-- An object with the given members, of which the last under a key counts. -/
def ofMembers (members : List (String × Json)) : Json := object (Keyed.ofList members)

/-- The string that a value is. -/
def string? : Json → Option String
  | string s => some s
  | _ => none

/-- The truth value that a value is. -/
def bool? : Json → Option Bool
  | bool b => some b
  | _ => none

/-- The signed 64-bit number that a value is. -/
def int64? : Json → Option Int64
  | whole n => if n.value < signedBound then some (Int64.ofInt n.value) else none
  | _ => none

/-- The number that a value is, as the nearest floating point number. -/
def double? : Json → Option Number.Double
  | whole n => some (Number.Binary.ofInt n.value)
  | real x => some x.value
  | _ => none

end Json

end VectorQuery
