import VectorQuery.Filter.Basic
import VectorQuery.Json.Basic

/-!
# Filters in JSON
-/

namespace VectorQuery

namespace FilterValue

/-- Values as one JSON value or as an array of them. -/
def scalarOrArrayJson {α : Type} (json : α → Json) (asArray : Bool) (values : List α) : Json :=
  match single? asArray values with
  | some x => json x
  | none => .array (values.map json)

/-- What stands behind the key of a value. -/
def json (asArray : Bool) : FilterValue → Json
  | int values => scalarOrArrayJson .ofInt64 asArray values
  | number values => scalarOrArrayJson .ofDouble asArray values
  | boolean values => scalarOrArrayJson .bool asArray values
  | string values => scalarOrArrayJson .string asArray values
  | text values => scalarOrArrayJson .string asArray values
  | date values => scalarOrArrayJson (fun t => .string t.rfc3339) asArray values
  | geoRange range =>
    .ofMembers
      [("geoCoordinates", .ofMembers
        [("latitude", .ofSingle range.latitude), ("longitude", .ofSingle range.longitude)]),
      ("distance", .ofMembers [("max", .ofSingle range.maxDistance)])]

end FilterValue

namespace Filter

mutual
/-- A filter as a JSON object. -/
def json : Filter → Json
  | ⟨operator, path, value, operands⟩ =>
    .ofMembers
      ((operator.toList.map fun operator => ("operator", .string operator.name)) ++
        (if path.isEmpty then [] else [("path", .strings path)]) ++
        match operands with
        | [] =>
          value.toList.map fun v =>
            (v.key, v.json (rendersArray ⟨operator, path, some v, []⟩))
        | operand :: operands => [("operands", .array (operand.json :: jsonList operands))])

/-- Filters as JSON objects. -/
def jsonList : List Filter → List Json
  | [] => []
  | f :: fs => f.json :: jsonList fs
end

end Filter

end VectorQuery
