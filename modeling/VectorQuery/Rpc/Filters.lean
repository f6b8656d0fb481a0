import VectorQuery.Rpc.Message

/-!
# Filter messages

The message of a filter tree. Every scalar and array of a test value is a member of one choice, so a
filter holds at most one of them.
-/

namespace VectorQuery.Rpc

open Number Wire

/-- The value that a filter compares with. -/
inductive TestValue where
  /-- One text. -/
  | text (s : String)
  /-- One whole number. -/
  | int (n : Int64)
  /-- One truth value. -/
  | boolean (b : Bool)
  /-- One number. -/
  | number (x : Double)
  /-- Texts. -/
  | texts (values : List String)
  /-- Whole numbers. -/
  | ints (values : List Int64)
  /-- Truth values. -/
  | booleans (values : List Bool)
  /-- Numbers. -/
  | numbers (values : List Double)
  /-- The circle around a place on the globe. -/
  | geo (latitude longitude distance : Single)

namespace TestValue

/-- The fields of the message that holds the test value. -/
def fields : TestValue → Fields
  | text s => [(4, .scalar (.string s))]
  | int n => [(5, .scalar (.int64 n))]
  | boolean b => [(6, .scalar (.bool b))]
  | number x => [(7, .scalar (.double x))]
  | texts values => [(9, .message (Fields.strings 1 values))]
  | ints values => [(10, .message (Fields.packed 1 .int64 values))]
  | booleans values => [(11, .message (Fields.packed 1 .bool values))]
  | numbers values => [(12, .message (Fields.packed 1 .double values))]
  | geo latitude longitude distance =>
    [(13, .message (Fields.plain 1 (.float latitude) ++ Fields.plain 2 (.float longitude) ++
      Fields.plain 3 (.float distance)))]

/-- The test value among the fields of a message. -/
def ofFields? (fields : Fields) : Option TestValue :=
  match fields.chosen? [4, 5, 6, 7, 9, 10, 11, 12, 13] with
  | some (4, .scalar (.string s)) => some (text s)
  | some (5, .scalar (.int64 n)) => some (int n)
  | some (6, .scalar (.bool b)) => some (boolean b)
  | some (7, .scalar (.double x)) => some (number x)
  | some (9, .message m) => some (texts (Fields.all Scalar.string? 1 m))
  | some (10, .message m) => some (ints (Fields.all Scalar.int64? 1 m))
  | some (11, .message m) => some (booleans (Fields.all Scalar.bool? 1 m))
  | some (12, .message m) => some (numbers (Fields.all Scalar.double? 1 m))
  | some (13, .message m) => some (geo (Fields.float 1 m) (Fields.float 2 m) (Fields.float 3 m))
  | _ => none

end TestValue

/-- A filter tree. -/
structure Filters where
  /-- The number of the operator. -/
  operator : Int32
  /-- The path of the property that is compared. -/
  on : List String
  /-- The operands. -/
  filters : List Filters
  /-- The value that the property is compared with. -/
  testValue : Option TestValue

namespace Filters

instance : Inhabited Filters := ⟨⟨0, [], [], none⟩⟩

mutual
/-- The fields of a filter. -/
def fields : Filters → Fields
  | ⟨operator, on, filters, testValue⟩ =>
    Fields.plain 1 (.int32 operator) ++ Fields.strings 2 on ++ operandFields filters ++
      (testValue.map TestValue.fields).getD []

/-- The fields of the operands of a filter. -/
def operandFields : List Filters → Fields
  | [] => []
  | operand :: operands => (3, .message operand.fields) :: operandFields operands
end

/-- The filter with the given fields. -/
def ofFields (fields : Fields) : Filters :=
  { operator := fields.int32 1
    on := fields.all Scalar.string? 2
    filters := (fields.messagesAt 3).attach.map fun ⟨operand, _⟩ => ofFields operand
    testValue := TestValue.ofFields? fields }
  termination_by Fields.weight fields
  decreasing_by exact Fields.weight_lt_of_mem_messagesAt ‹_›

instance : Message Filters := ⟨.filters, fields, ofFields⟩

end Filters

end VectorQuery.Rpc
