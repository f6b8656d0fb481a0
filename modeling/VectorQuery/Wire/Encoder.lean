import VectorQuery.Text.Utf8
import VectorQuery.Wire.Value
import VectorQuery.Wire.Varint

/-!
# Writing messages

Each field is written as a key, which joins its number and how its value is laid out, and the value.
-/

namespace VectorQuery.Wire

/-- How a value is laid out. -/
inductive WireType where
  /-- A variable-length integer. -/
  | varint
  /-- Eight bytes. -/
  | fixed64
  /-- A length and as many bytes. -/
  | delimited
  /-- The start of a group. -/
  | startGroup
  /-- The end of a group. -/
  | endGroup
  /-- Four bytes. -/
  | fixed32
  deriving DecidableEq, Repr

namespace WireType

/-- The number of a layout in a key. -/
def code : WireType → Nat
  | varint => 0
  | fixed64 => 1
  | delimited => 2
  | startGroup => 3
  | endGroup => 4
  | fixed32 => 5

/-- The layout with a number. -/
def ofCode? : Nat → Option WireType
  | 0 => some varint
  | 1 => some fixed64
  | 2 => some delimited
  | 3 => some startGroup
  | 4 => some endGroup
  | 5 => some fixed32
  | _ => none

end WireType

/-- The key of a field. -/
def keyBytes (number : Nat) (type : WireType) : List UInt8 :=
  Varint.encode (number * 8 + type.code)

/-- The lowest `count` bytes of a number, lowest first. -/
def fixedBytes : (count : Nat) → Nat → List UInt8
  | 0, _ => []
  | count + 1, n => UInt8.ofNat (n % 256) :: fixedBytes count (n / 256)

/-- Bytes with their length in front. -/
def delimited (bytes : List UInt8) : List UInt8 := Varint.encode bytes.length ++ bytes

namespace Scalar

/-- How a scalar is laid out. -/
def wireType : Scalar → WireType
  | bool _ | int32 _ | uint32 _ | int64 _ => .varint
  | float _ => .fixed32
  | double _ => .fixed64
  | string _ => .delimited

/-- The bytes of a scalar. Negative whole numbers are written with all sixty-four bits. -/
def bytes : Scalar → List UInt8
  | bool b => Varint.encode b.toNat
  | int32 n => Varint.encode n.toInt64.toUInt64.toNat
  | uint32 n => Varint.encode n.toNat
  | int64 n => Varint.encode n.toUInt64.toNat
  | float x => fixedBytes 4 x.toBits
  | double x => fixedBytes 8 x.toBits
  | string s => delimited (Text.Utf8.encode s)

end Scalar

mutual
/-- The bytes of a list of fields. -/
def Fields.encode : List (Nat × Value) → List UInt8
  | [] => []
  | (number, value) :: rest => value.encode number ++ Fields.encode rest

/-- The bytes of a field with a number. -/
def Value.encode (number : Nat) : Value → List UInt8
  | .plain s => if s.isDefault then [] else keyBytes number s.wireType ++ s.bytes
  | .scalar s => keyBytes number s.wireType ++ s.bytes
  | .packed values => keyBytes number .delimited ++ delimited (values.flatMap Scalar.bytes)
  | .message fields => keyBytes number .delimited ++ delimited (Fields.encode fields)
end

end VectorQuery.Wire
