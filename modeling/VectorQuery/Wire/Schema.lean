import VectorQuery.Wire.Value

/-!
# Message schemas

A schema names the fields of the messages of a service, their numbers and their types. Reading bytes
needs the types; the names are for showing a message.
-/

namespace VectorQuery.Wire

/-- The type of a scalar field. -/
inductive ScalarType where
  /-- Truth values. -/
  | bool
  /-- Signed 32-bit numbers and enumerations. -/
  | int32
  /-- Unsigned 32-bit numbers. -/
  | uint32
  /-- Signed 64-bit numbers. -/
  | int64
  /-- 32-bit floating point numbers. -/
  | float
  /-- 64-bit floating point numbers. -/
  | double
  /-- Texts. -/
  | string
  deriving DecidableEq, Repr

namespace ScalarType

/-- The value of a plain field of the type when it is not written. -/
def default : ScalarType → Scalar
  | bool => .bool false
  | int32 => .int32 0
  | uint32 => .uint32 0
  | int64 => .int64 0
  | float => .float Number.Binary.zero
  | double => .double Number.Binary.zero
  | string => .string ""

end ScalarType

/-- The type of a field of a schema with message types `τ`. -/
inductive FieldType (τ : Type) where
  /-- A scalar that is not written when it is the default. -/
  | plain (type : ScalarType)
  /-- A scalar that may be absent. -/
  | optional (type : ScalarType)
  /-- Any number of scalars. -/
  | repeated (type : ScalarType)
  /-- An embedded message that may be absent. -/
  | message (type : τ)
  /-- Any number of embedded messages. -/
  | messages (type : τ)
  /-- A scalar in a choice between fields. -/
  | memberScalar (choice : String) (type : ScalarType)
  /-- An embedded message in a choice between fields. -/
  | memberMessage (choice : String) (type : τ)
  /-- A map: any number of embedded entries, each with a text key as field 1 and a value as
  field 2. -/
  | map (entry : τ)

/-- A field of a message type. -/
structure FieldSpec (τ : Type) where
  /-- The number of the field on the wire. -/
  number : Nat
  /-- The name of the field. -/
  name : String
  /-- The type of the field. -/
  type : FieldType τ

/-- The fields of every message type. -/
abbrev Schema (τ : Type) := τ → List (FieldSpec τ)

/-- The type of the field with a number. -/
def Schema.fieldType? {τ : Type} (schema : Schema τ) (type : τ) (number : Nat) :
    Option (FieldType τ) :=
  ((schema type).find? fun field => field.number = number).map FieldSpec.type

end VectorQuery.Wire
