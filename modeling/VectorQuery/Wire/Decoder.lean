import VectorQuery.Wire.Encoder
import VectorQuery.Wire.Schema

/-!
# Reading messages

`decode?` splits bytes into the fields that a schema knows, in the order in which they are written,
and skips the others. There is nothing to read when the bytes end inside a field, a key or a number
is malformed, a field is laid out otherwise than its type asks, a text is not UTF-8, or messages are
nested more than `deepest` levels. The layout of a map entry is not looked at: it is read as a
length and as many bytes whatever its key says.
-/

namespace VectorQuery.Wire

open Number

/-- How many levels of embedded messages may be nested in a message. -/
def deepest : Nat := 100

/-- The number and the layout of the field at the front, and the bytes after its key. -/
def key? (bytes : List UInt8) : Option (Nat × WireType × List UInt8) := do
  let (key, rest) ← Varint.decode? bytes
  if UInt32.size ≤ key ∨ key / 8 = 0 then none
  let type ← WireType.ofCode? (key % 8)
  return (key / 8, type, rest)

/-- The first `count` bytes and the bytes after them. -/
def take? (count : Nat) (bytes : List UInt8) : Option (List UInt8 × List UInt8) :=
  if count ≤ bytes.length then some (bytes.splitAt count) else none

/-- The bytes whose length stands in front of them, and the bytes after them. -/
def delimited? (bytes : List UInt8) : Option (List UInt8 × List UInt8) := do
  let (count, rest) ← Varint.decode? bytes
  take? count rest

/-- The number with the given bytes, lowest first. -/
def natOfBytes (bytes : List UInt8) : Nat := bytes.foldr (fun b n => b.toNat + 256 * n) 0

namespace ScalarType

/-- How a scalar of the type is laid out. -/
def wireType : ScalarType → WireType
  | bool | int32 | uint32 | int64 => .varint
  | float => .fixed32
  | double => .fixed64
  | string => .delimited

/-- The scalar at the front, and the bytes after it. -/
def scalar? (type : ScalarType) (bytes : List UInt8) : Option (Scalar × List UInt8) :=
  match type with
  | bool => (Varint.decode? bytes).map fun (n, rest) => (.bool (n != 0), rest)
  | int32 => (Varint.decode? bytes).map fun (n, rest) => (.int32 (Int32.ofNat n), rest)
  | uint32 => (Varint.decode? bytes).map fun (n, rest) => (.uint32 (UInt32.ofNat n), rest)
  | int64 => (Varint.decode? bytes).map fun (n, rest) => (.int64 (Int64.ofNat n), rest)
  | float => (take? 4 bytes).map fun (b, rest) => (.float (Binary.ofBits (natOfBytes b)), rest)
  | double => (take? 8 bytes).map fun (b, rest) => (.double (Binary.ofBits (natOfBytes b)), rest)
  | string => do
    let (b, rest) ← delimited? bytes
    return (.string (← Text.Utf8.text? b), rest)

/-- All scalars of a run. Each takes a byte at least, so the length of the run bounds them. -/
def run? (type : ScalarType) : (fuel : Nat) → List UInt8 → Option (List Scalar)
  | _, [] => some []
  | 0, _ => none
  | fuel + 1, bytes =>
    match type.scalar? bytes with
    | none => none
    | some (s, rest) => (run? type fuel rest).map (s :: ·)

/-- The scalar of a field with the given layout, and the bytes after it. -/
def field? (type : ScalarType) (layout : WireType) (bytes : List UInt8) :
    Option (Value × List UInt8) :=
  if layout = type.wireType then (type.scalar? bytes).map fun (s, rest) => (.scalar s, rest)
  else none

/-- The scalars of a repeated field with the given layout, be they one or a run. -/
def repeated? (type : ScalarType) (layout : WireType) (bytes : List UInt8) :
    Option (Value × List UInt8) :=
  if layout = .delimited ∧ type ≠ .string then do
    let (b, rest) ← delimited? bytes
    return (.packed (← type.run? b.length b), rest)
  else type.field? layout bytes

end ScalarType

/-- The bytes after a field that no schema knows. A group is skipped up to the end that has its
number, each field in it within one level less. -/
def skip? : (fuel room number : Nat) → WireType → List UInt8 → Option (List UInt8)
  | 0, _, _, _, _ => none
  | _, 0, _, _, _ => none
  | fuel + 1, room + 1, number, type, bytes =>
    match type with
    | .varint => (Varint.decode? bytes).map Prod.snd
    | .fixed64 => (take? 8 bytes).map Prod.snd
    | .fixed32 => (take? 4 bytes).map Prod.snd
    | .delimited => (delimited? bytes).map Prod.snd
    | .endGroup => none
    | .startGroup =>
      match key? bytes with
      | none => none
      | some (inner, .endGroup, rest) => if inner = number then some rest else none
      | some (inner, type, rest) =>
        match skip? fuel room inner type rest with
        | none => none
        | some rest => skip? fuel (room + 1) number .startGroup rest

variable {τ : Type}

mutual
/-- The fields of a message within a number of further levels. Each field takes two bytes at least
and an embedded message is shorter than the message around it, so the first argument need not be
greater than the number of bytes. -/
def fields? (schema : Schema τ) : (fuel room : Nat) → τ → List UInt8 → Option Fields
  | _, _, _, [] => some []
  | 0, _, _, _ => none
  | fuel + 1, room, type, bytes =>
    match key? bytes with
    | none => none
    | some (number, layout, rest) =>
      match schema.fieldType? type number with
      | none =>
        match skip? (rest.length + 1) room number layout rest with
        | none => none
        | some rest => fields? schema fuel room type rest
      | some fieldType =>
        match value? schema fuel room fieldType layout rest with
        | none => none
        | some (value, rest) => (fields? schema fuel room type rest).map ((number, value) :: ·)

/-- The value of a field with the given type and layout, and the bytes after it. -/
def value? (schema : Schema τ) :
    (fuel room : Nat) → FieldType τ → WireType → List UInt8 → Option (Value × List UInt8)
  | _, _, .plain type, layout, bytes => type.field? layout bytes
  | _, _, .optional type, layout, bytes => type.field? layout bytes
  | _, _, .memberScalar _ type, layout, bytes => type.field? layout bytes
  | _, _, .repeated type, layout, bytes => type.repeated? layout bytes
  | fuel, room, .message type, layout, bytes =>
    if layout = .delimited then embedded? schema fuel room type bytes else none
  | fuel, room, .messages type, layout, bytes =>
    if layout = .delimited then embedded? schema fuel room type bytes else none
  | fuel, room, .memberMessage _ type, layout, bytes =>
    if layout = .delimited then embedded? schema fuel room type bytes else none
  | fuel, room, .map entry, _, bytes => embedded? schema fuel room entry bytes

/-- An embedded message, and the bytes after it. -/
def embedded? (schema : Schema τ) :
    (fuel room : Nat) → τ → List UInt8 → Option (Value × List UInt8)
  | fuel + 1, room + 1, type, bytes =>
    match delimited? bytes with
    | none => none
    | some (inner, rest) =>
      (fields? schema fuel room type inner).map fun fields => (.message fields, rest)
  | _, _, _, _ => none
end

/-- The fields of the message that bytes hold. -/
def decode? (schema : Schema τ) (type : τ) (bytes : List UInt8) : Option Fields :=
  fields? schema (bytes.length + 1) deepest type bytes

end VectorQuery.Wire
