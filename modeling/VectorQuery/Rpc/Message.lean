import VectorQuery.Rpc.Schema
import VectorQuery.Wire.Decoder

/-!
# Typed messages

A type of messages lists the fields of its values and reads a value from fields. Bytes are written
and read through these two.
-/

namespace VectorQuery.Rpc

/-- A type whose values are messages of the service. -/
class Message (α : Type) where
  /-- Which message of the schema the values are. -/
  type : MessageType
  /-- The fields of a value, in the order of their numbers. -/
  fields : α → Wire.Fields
  /-- The value that has the given fields. -/
  ofFields : Wire.Fields → α

namespace Message

variable {α : Type} [Message α]

/-- The bytes of a message. -/
def encode (m : α) : List UInt8 := Wire.Fields.encode (fields m)

/-- The message that bytes hold. -/
def decode? (bytes : List UInt8) : Option α :=
  (Wire.decode? schema (type α) bytes).map ofFields

end Message

end VectorQuery.Rpc
