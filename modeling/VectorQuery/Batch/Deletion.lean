import VectorQuery.Consistency
import VectorQuery.Filter.Json
import VectorQuery.Filter.Message
import VectorQuery.Rpc.Batch

/-!
# Deleting objects

All objects of a class that a filter selects are deleted together.
-/

namespace VectorQuery

/-- The objects to delete. -/
structure Deletion where
  /-- The class. -/
  className : String := ""
  filter : Option Filter := none
  /-- Whether the objects are counted and not deleted. -/
  dryRun : Bool := false
  /-- Whether the reply is to list the objects. -/
  verbose : Bool := false
  /-- How many replicas must take part. -/
  consistencyLevel : Option ConsistencyLevel := none
  tenant : Option String := none

namespace Deletion

/-- A setting of a deletion. -/
inductive Setting where
  /-- The class. -/
  | className (name : String)
  | filter (filter : Filter)
  /-- Whether to count only. -/
  | dryRun (dryRun : Bool)
  /-- Whether to list the objects. -/
  | verbose (verbose : Bool)
  | consistencyLevel (level : ConsistencyLevel)
  | tenant (tenant : String)

/-- The deletion with one more setting. -/
def set (d : Deletion) : Setting → Deletion
  | .className name => { d with className := name }
  | .filter filter => { d with filter := some filter.pruned }
  | .dryRun dryRun => { d with dryRun }
  | .verbose verbose => { d with verbose }
  | .consistencyLevel level => { d with consistencyLevel := some level }
  | .tenant tenant => { d with tenant := some tenant }

/-- The deletion with the given settings, one after another. -/
def ofSettings (settings : List Setting) : Deletion := settings.foldl set {}

/-- The deletion as a JSON body. -/
def json (d : Deletion) : Json :=
  .ofMembers
    [("match", .ofMembers
      [("class", .string d.className),
        ("where", (d.filter.map Filter.json).getD (.object []))]),
    ("output", .string (if d.verbose then "verbose" else "minimal")),
    ("dryRun", .bool d.dryRun)]

/-- The deletion as a message. -/
def message (d : Deletion) : Rpc.BatchDeleteRequest where
  collection := d.className
  filters := d.filter.map Filter.message
  verbose := d.verbose
  dryRun := d.dryRun
  consistencyLevel := d.consistencyLevel.map ConsistencyLevel.code
  tenant := d.tenant.getD ""

end Deletion

end VectorQuery
