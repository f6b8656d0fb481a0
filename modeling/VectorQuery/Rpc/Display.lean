import VectorQuery.Json.Basic
import VectorQuery.Number.Layout
import VectorQuery.Rpc.Message

/-!
# Messages as JSON

A message is shown as a JSON object with all fields of its type under their names, also those that
are absent. A choice between fields is one member under the name of the choice. Whole numbers of 64
bits and floating point numbers are shown as text, so that no reader rounds them.
-/

namespace VectorQuery.Rpc

open Number Wire

/-- A scalar as JSON. -/
def scalarJson : Scalar → Json
  | .bool b => .bool b
  | .int32 n => .ofInt n.toInt
  | .uint32 n => .ofInt n.toNat
  | .int64 n => .string (String.ofList (intChars n.toInt))
  | .float x => .string (Layout.plain.text x)
  | .double x => .string (Layout.plain.text x)
  | .string s => .string s

/-- The name of the choice that a field is a member of. -/
def choice? (field : FieldSpec MessageType) : Option String :=
  match field.type with
  | .memberScalar choice _ | .memberMessage choice _ => some choice
  | _ => none

mutual
/-- A message as JSON, with embedded messages down to a depth. -/
def fieldsJson (depth : Nat) (type : MessageType) (fields : Fields) : Json :=
  match depth with
  | 0 => .null
  | depth + 1 => .ofMembers ((schema type).map (memberJson depth type fields))

/-- A field of a message as a member of a JSON object. -/
def memberJson (depth : Nat) (type : MessageType) (fields : Fields)
    (field : FieldSpec MessageType) : String × Json :=
  let scalars := fields.scalarsAt field.number
  match field.type with
  | .plain scalar => (field.name, scalarJson (scalars.getLast?.getD scalar.default))
  | .optional _ => (field.name, (scalars.getLast?.map scalarJson).getD .null)
  | .repeated _ => (field.name, .array (scalars.map scalarJson))
  | .message inner =>
    (field.name, ((fields.message? field.number).map (fieldsJson depth inner)).getD .null)
  | .messages inner =>
    (field.name, .array ((fields.messagesAt field.number).map (fieldsJson depth inner)))
  | .map _ =>
    (field.name, .ofMembers ((fields.messagesAt field.number).map fun entry =>
      (entry.string 1, fieldsJson depth .propertyValue ((entry.message? 2).getD []))))
  | .memberScalar choice _ | .memberMessage choice _ =>
    (choice, choiceJson depth ((schema type).filter fun f => choice? f = some choice) fields)

/-- A choice between fields as JSON: the field that is set, under its name. -/
def choiceJson (depth : Nat) (members : List (FieldSpec MessageType)) (fields : Fields) : Json :=
  match fields.chosen? (members.map FieldSpec.number) with
  | none => .null
  | some (number, value) =>
    .ofMembers ((members.filter fun field => field.number = number).map fun field =>
      match field.type, value with
      | .memberMessage _ inner, .message inside => (field.name, fieldsJson depth inner inside)
      | _, .scalar s | _, .plain s => (field.name, scalarJson s)
      | _, _ => (field.name, .null))
end

/-- A message as JSON. Messages nest less deep than they have fields. -/
def Message.json {α : Type} [Message α] (m : α) : Json :=
  let fields := Message.fields m
  fieldsJson (Fields.weight fields + 1) (Message.type α) fields

end VectorQuery.Rpc
