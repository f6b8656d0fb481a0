import VectorQuery.Filter.Basic
import VectorQuery.Rpc.Filters

/-!
# Filters in messages
-/

namespace VectorQuery

open Rpc

namespace FilterValue

/-- Values as a scalar test value or as an array test value. -/
def scalarOrArrayTest {α β : Type} (item : α → β) (scalar : β → TestValue)
    (array : List β → TestValue) (asArray : Bool) (values : List α) : TestValue :=
  match single? asArray values with
  | some x => scalar (item x)
  | none => array (values.map item)

/-- The test value of a filter message. Strings, texts and dates are all texts there. -/
def message (asArray : Bool) : FilterValue → TestValue
  | int values => scalarOrArrayTest id .int .ints asArray values
  | number values => scalarOrArrayTest id .number .numbers asArray values
  | boolean values => scalarOrArrayTest id .boolean .booleans asArray values
  | string values => scalarOrArrayTest id .text .texts asArray values
  | text values => scalarOrArrayTest id .text .texts asArray values
  | date values => scalarOrArrayTest Timestamp.rfc3339 .text .texts asArray values
  | geoRange range => .geo range.latitude range.longitude range.maxDistance

end FilterValue

namespace Filter

mutual
/-- A filter as a message. -/
def message : Filter → Rpc.Filters
  | ⟨operator, path, value, operands⟩ =>
    { operator := (operator.map Operator.code).getD 0
      on := path
      filters := messages operands
      testValue := match operands with
        | [] => value.map fun v => v.message (rendersArray ⟨operator, path, some v, []⟩)
        | _ :: _ => none }

/-- Filters as messages. -/
def messages : List Filter → List Rpc.Filters
  | [] => []
  | f :: fs => f.message :: messages fs
end

end Filter

end VectorQuery
