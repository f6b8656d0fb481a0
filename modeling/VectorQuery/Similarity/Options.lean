import VectorQuery.Similarity.Combination

/-!
# Options of similarity clauses

What all similarity clauses have in common: how near an object must be and which target vectors are
searched. Certainty and distance share one slot, and a combination takes precedence over plain names
of targets.
-/

namespace VectorQuery

open Number Document

/-- How near an object must be. -/
inductive Threshold where
  /-- The least certainty. -/
  | certainty (x : Single)
  /-- The greatest distance. -/
  | distance (x : Single)
  deriving DecidableEq

namespace Threshold

/-- A threshold in a document. -/
def document : Threshold → Document
  | certainty x => field "certainty" [.single x]
  | distance x => field "distance" [.single x]

end Threshold

/-- The options of a similarity clause. -/
structure SimilarityOptions where
  /-- How near an object must be. -/
  threshold : Option Threshold := none
  /-- The names of the target vectors. -/
  targetVectors : List String := []
  /-- The combination of target vectors. -/
  targets : Option Combination := none
  deriving DecidableEq

namespace SimilarityOptions

/-- The least certainty, if that is the threshold. -/
def certainty (o : SimilarityOptions) : Option Single :=
  match o.threshold with
  | some (.certainty x) => some x
  | _ => none

/-- The greatest distance, if that is the threshold. -/
def distance (o : SimilarityOptions) : Option Single :=
  match o.threshold with
  | some (.distance x) => some x
  | _ => none

/-- The combination, if one has been chosen. -/
def effectiveTargets (o : SimilarityOptions) : Option Combination :=
  o.targets.filter Combination.isSet

/-- The threshold in a document. -/
def thresholdDocument (o : SimilarityOptions) : Option Document :=
  o.threshold.map Threshold.document

/-- The targets in a document: the combination, else the names. -/
def targetsDocument (o : SimilarityOptions) : Option Document :=
  match o.effectiveTargets with
  | some targets => some targets.document
  | none => unlessEmpty o.targetVectors (field "targetVectors" (strings o.targetVectors))

/-- The names of targets in a message, unless a combination stands in their place. -/
def messageTargetVectors (o : SimilarityOptions) : List String :=
  match o.effectiveTargets with
  | some _ => []
  | none => o.targetVectors

/-- The combination in a message. -/
def messageTargets (o : SimilarityOptions) : Option Rpc.Targets :=
  o.effectiveTargets.map Combination.message

/-- A setting of the options. -/
inductive Setting where
  /-- The least certainty, in place of any threshold set before. -/
  | certainty (x : Single)
  /-- The greatest distance, in place of any threshold set before. -/
  | distance (x : Single)
  /-- The names of the target vectors. -/
  | targetVectors (names : List String)
  /-- The combination of target vectors. -/
  | targets (targets : Combination)

/-- The options with one more setting. -/
def set (o : SimilarityOptions) : Setting → SimilarityOptions
  | .certainty x => { o with threshold := some (.certainty x) }
  | .distance x => { o with threshold := some (.distance x) }
  | .targetVectors names => { o with targetVectors := names }
  | .targets targets => { o with targets := some targets }

end SimilarityOptions

end VectorQuery
