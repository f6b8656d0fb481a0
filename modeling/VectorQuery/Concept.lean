import VectorQuery.Error
import VectorQuery.Json.Basic

/-!
# Concepts

A concept teaches the vectorizer a new word by describing it in words that it knows. Its weight says
how strongly it replaces a word of the same name.
-/

namespace VectorQuery

open Number

/-- A concept to teach. -/
structure Concept where
  /-- The new word. -/
  name : String := ""
  /-- The description. -/
  definition : String := ""
  /-- The weight, from zero to one. -/
  weight : Single := Binary.ofInt 1
  deriving DecidableEq

namespace Concept

/-- Whether a number is within zero and one. The patterns of positive numbers have the order of the
numbers, and NaN comes last. -/
def isWeight (x : Single) : Bool :=
  x.isZero || !x.negative && decide (x.magnitude ≤ (Binary.ofInt 1 : Single).magnitude)

/-- A setting of a concept. -/
inductive Setting where
  /-- The new word. -/
  | name (name : String)
  /-- The description. -/
  | definition (definition : String)
  | weight (weight : Single)

/-- The concept with one more setting. A weight out of range is refused. -/
def set (c : Concept) : Setting → Except SettingError Concept
  | .name name => .ok { c with name }
  | .definition definition => .ok { c with definition }
  | .weight weight =>
    if isWeight weight then .ok { c with weight } else .error (.weightOutOfRange weight)

/-- The concept with the given settings, one after another. -/
def ofSettings (settings : List Setting) : Except SettingError Concept := settings.foldlM set {}

/-- The concept as a JSON body. -/
def json (c : Concept) : Json :=
  .ofMembers
    [("concept", .string c.name), ("definition", .string c.definition),
      ("weight", .ofSingle c.weight)]

end Concept

end VectorQuery
