import VectorQuery.Number.Binary
import VectorQuery.Timestamp

/-!
# Filters

A filter is a tree. A leaf compares the property at a path with a value by an operator; a node with
operands joins them by a boolean operator. A filter is written down setting by setting with
`Filter.set`, in any order, and `Filter.pruned` is what counts of it: beside operands, a path and a
value have no meaning and are dropped.
-/

namespace VectorQuery

open Number

/-- A comparison or a boolean operator. -/
inductive Operator where
  | and | or | not | equal | notEqual | greaterThan | greaterThanEqual | lessThan | lessThanEqual
  | like | withinGeoRange | isNull | containsAny | containsAll
  deriving DecidableEq, Repr

namespace Operator

/-- All operators. -/
def all : List Operator :=
  [and, or, not, equal, notEqual, greaterThan, greaterThanEqual, lessThan, lessThanEqual, like,
    withinGeoRange, isNull, containsAny, containsAll]

/-- The name of an operator in documents and in JSON. -/
def name : Operator → String
  | and => "And"
  | or => "Or"
  | not => "Not"
  | equal => "Equal"
  | notEqual => "NotEqual"
  | greaterThan => "GreaterThan"
  | greaterThanEqual => "GreaterThanEqual"
  | lessThan => "LessThan"
  | lessThanEqual => "LessThanEqual"
  | like => "Like"
  | withinGeoRange => "WithinGeoRange"
  | isNull => "IsNull"
  | containsAny => "ContainsAny"
  | containsAll => "ContainsAll"

/-- The operator with a name. -/
def ofName? (name : String) : Option Operator := all.find? fun operator => operator.name = name

/-- The number of an operator in messages. -/
def code : Operator → Int32
  | equal => 1
  | notEqual => 2
  | greaterThan => 3
  | greaterThanEqual => 4
  | lessThan => 5
  | lessThanEqual => 6
  | and => 7
  | or => 8
  | not => 9
  | withinGeoRange => 10
  | like => 11
  | isNull => 12
  | containsAny => 13
  | containsAll => 14

/-- Whether an operator compares with a set of values, which is then written as an array even if it
has one member. -/
def isContainment : Operator → Bool
  | containsAny | containsAll => true
  | _ => false

end Operator

/-- A circle around a place on the globe. -/
structure GeoRange where
  /-- The latitude of the centre. -/
  latitude : Single
  /-- The longitude of the centre. -/
  longitude : Single
  /-- The radius in metres. -/
  maxDistance : Single
  deriving DecidableEq

/-- What a leaf compares with: any number of values of one kind, or one circle. -/
inductive FilterValue where
  /-- Whole numbers. -/
  | int (values : List Int64)
  /-- Numbers. -/
  | number (values : List Double)
  /-- Truth values. -/
  | boolean (values : List Bool)
  /-- Strings that are compared whole. -/
  | string (values : List String)
  /-- Strings that are compared word by word. -/
  | text (values : List String)
  /-- Points in time. -/
  | date (values : List Timestamp)
  /-- A circle on the globe. -/
  | geoRange (range : GeoRange)
  deriving DecidableEq

namespace FilterValue

/-- The key of a value in documents and in JSON. -/
def key : FilterValue → String
  | int _ => "valueInt"
  | number _ => "valueNumber"
  | boolean _ => "valueBoolean"
  | string _ => "valueString"
  | text _ => "valueText"
  | date _ => "valueDate"
  | geoRange _ => "valueGeoRange"

/-- How many values there are; a circle is one. -/
def count : FilterValue → Nat
  | int values => values.length
  | number values => values.length
  | boolean values => values.length
  | string values => values.length
  | text values => values.length
  | date values => values.length
  | geoRange _ => 1

/-- The one value that stands for itself, unless the values are written as an array. -/
def single? {α : Type} (asArray : Bool) (values : List α) : Option α :=
  if asArray then none else values.head?

end FilterValue

/-- A filter tree. -/
structure Filter where
  operator : Option Operator := none
  /-- The path of the property that a leaf compares. -/
  path : List String := []
  /-- The value that a leaf compares with. -/
  value : Option FilterValue := none
  /-- The operands of a boolean operator. -/
  operands : List Filter := []

namespace Filter

instance : Inhabited Filter := ⟨{}⟩

/-- Whether a node has operands. -/
def isComposite (f : Filter) : Bool := !f.operands.isEmpty

/-- Whether the value of a leaf is written as an array: always for a containment operator, else
unless there is exactly one value. -/
def rendersArray (f : Filter) : Bool :=
  f.operator.any Operator.isContainment || (f.value.map FilterValue.count).getD 0 != 1

mutual
/-- The filter with no path and no value beside operands, at any depth. -/
def pruned : Filter → Filter
  | ⟨operator, path, value, []⟩ => ⟨operator, path, value, []⟩
  | ⟨operator, _, _, operand :: operands⟩ =>
    ⟨operator, [], none, operand.pruned :: prunedList operands⟩

/-- The filters, each pruned. -/
def prunedList : List Filter → List Filter
  | [] => []
  | f :: fs => f.pruned :: prunedList fs
end

/-- A setting of a filter. -/
inductive Setting where
  | operator (operator : Operator)
  | path (path : List String)
  /-- The operands, in place of those set before. -/
  | operands (operands : List Filter)
  /-- The value, in place of one of any kind set before. -/
  | value (value : FilterValue)

/-- The filter with one more setting. -/
def set (f : Filter) : Setting → Filter
  | .operator operator => { f with operator := some operator }
  | .path path => { f with path }
  | .operands operands => { f with operands }
  | .value value => { f with value := some value }

/-- The filter with the given settings, one after another. -/
def ofSettings (settings : List Setting) : Filter := settings.foldl set {}

end Filter

end VectorQuery
