import VectorQuery.Document
import VectorQuery.Rpc.Search

/-!
# Grouping

The objects found are grouped by the values of a property.
-/

namespace VectorQuery

open Document

/-- How the objects found are grouped. -/
structure GroupBy where
  /-- The path of the property. -/
  path : List String := []
  /-- How many groups there are at most. -/
  groups : Int32 := 0
  /-- How many objects a group has at most. -/
  objectsPerGroup : Int32 := 0
  deriving DecidableEq

namespace GroupBy

/-- The clause in a document. -/
def document (g : GroupBy) : Document :=
  entry "groupBy" (braces (spaced
    [entry "path" (strings g.path),
      entry "groups" [.integer g.groups.toInt],
      entry "objectsPerGroup" [.integer g.objectsPerGroup.toInt]]))

/-- The clause as a message. -/
def message (g : GroupBy) : Rpc.GroupBy where
  path := g.path
  numberOfGroups := g.groups
  objectsPerGroup := g.objectsPerGroup

end GroupBy

end VectorQuery
