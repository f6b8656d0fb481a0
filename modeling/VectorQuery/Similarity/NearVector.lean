import VectorQuery.Similarity.Options

/-!
# Search near a vector

The clause gives one vector for all targets or a vector for each of several targets. A target keeps
the place of its first mention and the vector of its last.
-/

namespace VectorQuery

open Number Document

/-- A search near a vector. -/
structure NearVector where
  vector : List Single := []
  /-- The vectors of single targets. -/
  vectorPerTarget : List (String × List Single) := []
  options : SimilarityOptions := {}
  deriving DecidableEq

namespace NearVector

/-- The vectors of targets with that of one more target, in place of the one it had. -/
def putTarget (target : String) (vector : List Single) :
    List (String × List Single) → List (String × List Single)
  | [] => [(target, vector)]
  | (name, v) :: rest =>
    if name = target then (name, vector) :: rest else (name, v) :: putTarget target vector rest

/-- A setting of the clause. -/
inductive Setting where
  | vector (vector : List Single)
  /-- The vector of one target. -/
  | vectorPerTarget (target : String) (vector : List Single)
  | option (setting : SimilarityOptions.Setting)

/-- The clause with one more setting. -/
def set (c : NearVector) : Setting → NearVector
  | .vector vector => { c with vector }
  | .vectorPerTarget target vector =>
    { c with vectorPerTarget := putTarget target vector c.vectorPerTarget }
  | .option setting => { c with options := c.options.set setting }

/-- The clause with the given settings, one after another. -/
def ofSettings (settings : List Setting) : NearVector := settings.foldl set {}

/-- What stands behind the key of the clause. An empty vector is left out only when targets have
vectors of their own. -/
def body (c : NearVector) : Document :=
  braces (spaced (given
    [if c.vector.isEmpty && !c.vectorPerTarget.isEmpty then none
      else some (field "vector" (singles c.vector)),
      unlessEmpty c.vectorPerTarget (entry "vectorPerTarget" (braces (spaced
        (c.vectorPerTarget.map fun (name, v) => field name (singles v))))),
      c.options.thresholdDocument,
      c.options.targetsDocument]))

/-- The clause in a document. -/
def document (c : NearVector) : Document := entry "nearVector" c.body

/-- The clause as a message. -/
def message (c : NearVector) : Rpc.NearVector where
  vector := c.vector
  certainty := c.options.certainty
  distance := c.options.distance
  targetVectors := c.options.messageTargetVectors
  targets := c.options.messageTargets
  vectorForTargets := c.vectorPerTarget.map fun (name, vector) => { name, vector }

end NearVector

end VectorQuery
