import VectorQuery.Similarity.Options

/-!
# Search near an object

The clause names an object by its id, by its beacon or by both; what is empty is not given.
-/

namespace VectorQuery

open Document

/-- A search near an object. -/
structure NearObject where
  /-- The id of the object. -/
  id : String := ""
  /-- The beacon of the object. -/
  beacon : String := ""
  options : SimilarityOptions := {}
  deriving DecidableEq

namespace NearObject

/-- A setting of the clause. -/
inductive Setting where
  | id (id : String)
  | beacon (beacon : String)
  | option (setting : SimilarityOptions.Setting)

/-- The clause with one more setting. -/
def set (c : NearObject) : Setting → NearObject
  | .id id => { c with id }
  | .beacon beacon => { c with beacon }
  | .option setting => { c with options := c.options.set setting }

/-- The clause with the given settings, one after another. -/
def ofSettings (settings : List Setting) : NearObject := settings.foldl set {}

/-- The clause in a document. -/
def document (c : NearObject) : Document :=
  entry "nearObject" (braces (spaced (given
    [unlessEmpty c.id.toList (field "id" [.quoted c.id]),
      unlessEmpty c.beacon.toList (field "beacon" [.quoted c.beacon]),
      c.options.thresholdDocument,
      c.options.targetsDocument])))

/-- The clause as a message. -/
def message (c : NearObject) : Rpc.NearObject where
  id := c.id
  beacon := c.beacon
  certainty := c.options.certainty
  distance := c.options.distance
  targetVectors := c.options.messageTargetVectors
  targets := c.options.messageTargets

end NearObject

end VectorQuery
