import VectorQuery.Keyed
import VectorQuery.Rpc.Message

/-!
# Property values

The message of one property of an object, and the entries that a map of properties is made of.
-/

namespace VectorQuery.Rpc

open Number Wire

/-- The value of a property. -/
inductive PropertyValue where
  /-- No kind of value is set. -/
  | unset
  /-- The null value; the flag says nothing. -/
  | null (flag : Bool)
  | text (s : String)
  /-- A whole number. -/
  | int (n : Int64)
  | number (x : Double)
  /-- A truth value. -/
  | bool (b : Bool)
  /-- Texts. -/
  | texts (values : List String)
  /-- Whole numbers. -/
  | ints (values : List Int64)
  /-- Numbers. -/
  | numbers (values : List Double)
  /-- Truth values. -/
  | bools (values : List Bool)
  /-- Anything else, as JSON text. -/
  | json (text : String)
  deriving DecidableEq

namespace PropertyValue

instance : Inhabited PropertyValue := ⟨unset⟩

/-- The fields of a property value. -/
def fields : PropertyValue → Fields
  | unset => []
  | null flag => [(1, .scalar (.bool flag))]
  | text s => [(2, .scalar (.string s))]
  | int n => [(3, .scalar (.int64 n))]
  | number x => [(4, .scalar (.double x))]
  | bool b => [(5, .scalar (.bool b))]
  | texts values => [(6, .message (Fields.strings 1 values))]
  | ints values => [(7, .message (Fields.packed 1 .int64 values))]
  | numbers values => [(8, .message (Fields.packed 1 .double values))]
  | bools values => [(9, .message (Fields.packed 1 .bool values))]
  | json s => [(10, .scalar (.string s))]

/-- The property value with the given fields. -/
def ofFields (fields : Fields) : PropertyValue :=
  match fields.chosen? [1, 2, 3, 4, 5, 6, 7, 8, 9, 10] with
  | some (1, .scalar (.bool flag)) => null flag
  | some (2, .scalar (.string s)) => text s
  | some (3, .scalar (.int64 n)) => int n
  | some (4, .scalar (.double x)) => number x
  | some (5, .scalar (.bool b)) => bool b
  | some (6, .message m) => texts (Fields.all Scalar.string? 1 m)
  | some (7, .message m) => ints (Fields.all Scalar.int64? 1 m)
  | some (8, .message m) => numbers (Fields.all Scalar.double? 1 m)
  | some (9, .message m) => bools (Fields.all Scalar.bool? 1 m)
  | some (10, .scalar (.string s)) => json s
  | _ => unset

instance : Message PropertyValue := ⟨.propertyValue, fields, ofFields⟩

/-- The fields of an entry of a property map. -/
def entryFields (entry : String × PropertyValue) : Fields :=
  Fields.plain 1 (.string entry.1) ++
    Fields.message 2 (match entry.2.fields with
      | [] => none
      | fields => some fields)

/-- The entry of a property map with the given fields. -/
def entryOfFields (fields : Fields) : String × PropertyValue :=
  (fields.string 1, ofFields ((fields.message? 2).getD []))

/-- The fields of the entries of a property map. -/
def mapFields (number : Nat) (entries : List (String × PropertyValue)) : Fields :=
  Fields.messages number (entries.map entryFields)

/-- The property map of a field; the last entry under a key counts. -/
def mapOfFields (number : Nat) (fields : Fields) : List (String × PropertyValue) :=
  Keyed.ofList ((fields.messagesAt number).map entryOfFields)

end PropertyValue

end VectorQuery.Rpc
