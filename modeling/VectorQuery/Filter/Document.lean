import VectorQuery.Document
import VectorQuery.Filter.Basic

/-!
# Filters in query documents
-/

namespace VectorQuery

open Document

namespace FilterValue

/-- Values as one piece or as an array of pieces. -/
def scalarOrArray {α : Type} (piece : α → Piece) (asArray : Bool) (values : List α) : Document :=
  match single? asArray values with
  | some x => [piece x]
  | none => array piece values

/-- What stands behind the key of a value. -/
def body (asArray : Bool) : FilterValue → Document
  | int values => scalarOrArray (fun n => .integer n.toInt) asArray values
  | number values => scalarOrArray .double asArray values
  | boolean values => scalarOrArray .bool asArray values
  | string values => scalarOrArray .quoted asArray values
  | text values => scalarOrArray .quoted asArray values
  | date values => scalarOrArray (fun t => .quoted t.rfc3339) asArray values
  | geoRange range =>
    braces (packed
      [entry "geoCoordinates" (braces (packed
        [entry "latitude" [.single range.latitude], entry "longitude" [.single range.longitude]])),
      entry "distance" (braces (entry "max" [.single range.maxDistance]))])

/-- A value under its key. -/
def document (asArray : Bool) (v : FilterValue) : Document := field v.key (v.body asArray)

end FilterValue

namespace Filter

/-- The value of a leaf. -/
def valueDocument (f : Filter) : Option Document :=
  f.value.map (FilterValue.document f.rendersArray)

mutual
/-- What stands between the braces of a filter. -/
def body : Filter → Document
  | ⟨operator, path, value, operands⟩ =>
    spaced (given
      [operator.map fun operator => field "operator" [.word operator.name],
        unlessEmpty path (field "path" (strings path)),
        match operands with
        | [] => valueDocument ⟨operator, path, value, []⟩
        | operand :: operands =>
          some (entry "operands" (brackets (packed (braces operand.body :: bodies operands))))])

/-- Each filter between braces. -/
def bodies : List Filter → List Document
  | [] => []
  | f :: fs => braces f.body :: bodies fs
end

/-- The clause of a filter. -/
def document (f : Filter) : Document := entry "where" (braces f.body)

end Filter

end VectorQuery
