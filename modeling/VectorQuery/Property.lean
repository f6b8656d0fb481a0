import VectorQuery.Json.Printer
import VectorQuery.Json.Reader
import VectorQuery.Rpc.Property

/-!
# Properties in messages

The properties of an object are free JSON values. A message has kinds of its own for texts, whole
numbers, numbers, truth values and arrays of one of these; everything else travels as JSON text.
`Property.value` writes a JSON value as a property value, and `Property.json` reads it back.
-/

namespace VectorQuery.Property

open Rpc (PropertyValue)

/-- An array whose items are all of one kind, as a property value. -/
def arrayValue? (items : List Json) : Option PropertyValue :=
  if items.isEmpty then none
  else
    (items.mapM Json.string?).map .texts
      <|> (items.mapM Json.bool?).map .bools
      <|> (items.mapM Json.int64?).map .ints
      <|> (items.mapM Json.double?).map .numbers

/-- A JSON value as a property value. Whole numbers beyond the signed range become floating point
numbers. -/
def value : Json → PropertyValue
  | .null => .null true
  | .bool b => .bool b
  | .whole n =>
    match Json.int64? (.whole n) with
    | some i => .int i
    | none => .number (Number.Binary.ofInt n.value)
  | .real x => .number x.value
  | .string s => .text s
  | .array items => (arrayValue? items).getD (.json (Json.text (.array items)))
  | .object members => .json (Json.text (.object members))

/-- A property value as JSON. JSON text that cannot be read stands for itself as a string. -/
def json : PropertyValue → Json
  | .unset | .null _ => .null
  | .text s => .string s
  | .int n => .ofInt64 n
  | .number x => .ofDouble x
  | .bool b => .bool b
  | .texts values => .strings values
  | .ints values => .array (values.map .ofInt64)
  | .numbers values => .array (values.map .ofDouble)
  | .bools values => .array (values.map .bool)
  | .json s => (Json.parse? s).getD (.string s)

/-- JSON members as a property map. -/
def values (members : List (String × Json)) : List (String × PropertyValue) :=
  members.map fun (name, v) => (name, value v)

/-- A property map as JSON members. -/
def members (properties : List (String × PropertyValue)) : List (String × Json) :=
  properties.map fun (name, v) => (name, json v)

end VectorQuery.Property
