import VectorQuery.Keyword.Matching
import VectorQuery.Similarity.NearText
import VectorQuery.Similarity.NearVector

/-!
# Hybrid search

The clause joins a keyword search and a vector search. The vector side is the query itself, a
vector, or a search near concepts or near a vector of its own, of which there is one at most.
-/

namespace VectorQuery

open Number Document

/-- How the two sides of a hybrid search are ranked together. -/
inductive FusionType where
  | ranked | relativeScore
  deriving DecidableEq, Repr

namespace FusionType

/-- The name of a fusion in documents. -/
def name : FusionType → String
  | ranked => "rankedFusion"
  | relativeScore => "relativeScoreFusion"

/-- The number of a fusion in messages. -/
def code : FusionType → Int32
  | ranked => 1
  | relativeScore => 2

end FusionType

/-- A vector search inside a hybrid search. -/
inductive HybridSearch where
  /-- Near concepts. -/
  | nearText (clause : NearText)
  /-- Near a vector. -/
  | nearVector (clause : NearVector)
  deriving DecidableEq

namespace HybridSearch

/-- The search in a document. -/
def document : HybridSearch → Document
  | nearText clause => entry "searches" (braces clause.document)
  | nearVector clause => entry "searches" (braces clause.document)

/-- The search near concepts that it is, as a message. -/
def nearTextMessage? : HybridSearch → Option Rpc.NearTextSearch
  | nearText clause => some clause.message
  | nearVector _ => none

/-- The search near a vector that it is, as a message. -/
def nearVectorMessage? : HybridSearch → Option Rpc.NearVector
  | nearText _ => none
  | nearVector clause => some clause.message

end HybridSearch

/-- A hybrid search. -/
structure Hybrid where
  query : String := ""
  vector : List Single := []
  /-- The part of the vector search in the score. -/
  alpha : Option Single := none
  /-- The properties that are searched for keywords. -/
  properties : List String := []
  /-- How the two sides are ranked together. -/
  fusionType : Option FusionType := none
  /-- The target vectors. -/
  targets : SimilarityOptions := {}
  /-- The greatest distance of the vector search. -/
  maxVectorDistance : Option Single := none
  /-- How the words must be found. -/
  bm25SearchOperator : Option WordMatching := none
  /-- The vector search. -/
  search : Option HybridSearch := none
  deriving DecidableEq

namespace Hybrid

/-- A setting of the clause. -/
inductive Setting where
  | query (query : String)
  | vector (vector : List Single)
  /-- The part of the vector search. -/
  | alpha (x : Single)
  | properties (properties : List String)
  /-- How the two sides are ranked together. -/
  | fusionType (fusion : FusionType)
  /-- The names of the target vectors. -/
  | targetVectors (names : List String)
  /-- The combination of target vectors. -/
  | targets (targets : Combination)
  /-- The greatest distance. -/
  | maxVectorDistance (x : Single)
  /-- How the words must be found. -/
  | bm25SearchOperator (m : WordMatching)
  /-- A search near concepts, in place of any search set before. -/
  | nearText (clause : NearText)
  /-- A search near a vector, in place of any search set before. -/
  | nearVector (clause : NearVector)

/-- The clause with one more setting. -/
def set (c : Hybrid) : Setting → Hybrid
  | .query query => { c with query }
  | .vector vector => { c with vector }
  | .alpha x => { c with alpha := some x }
  | .properties properties => { c with properties }
  | .fusionType fusion => { c with fusionType := some fusion }
  | .targetVectors names => { c with targets := c.targets.set (.targetVectors names) }
  | .targets targets => { c with targets := c.targets.set (.targets targets) }
  | .maxVectorDistance x => { c with maxVectorDistance := some x }
  | .bm25SearchOperator m => { c with bm25SearchOperator := some m }
  | .nearText clause => { c with search := some (.nearText clause) }
  | .nearVector clause => { c with search := some (.nearVector clause) }

/-- The clause with the given settings, one after another. -/
def ofSettings (settings : List Setting) : Hybrid := settings.foldl set {}

/-- The clause in a document. -/
def document (c : Hybrid) : Document :=
  entry "hybrid" (braces (listed (given
    [some (field "query" [.quoted c.query]),
      unlessEmpty c.vector (field "vector" (singles c.vector)),
      c.alpha.map fun x => field "alpha" [.single x],
      unlessEmpty c.properties (field "properties" (strings c.properties)),
      c.fusionType.map fun fusion => field "fusionType" [.word fusion.name],
      c.targets.targetsDocument,
      c.maxVectorDistance.map fun x => field "maxVectorDistance" [.single x],
      c.bm25SearchOperator.map fun m => entry "bm25SearchOperator" m.body,
      c.search.map HybridSearch.document])))

/-- The clause as a message. -/
def message (c : Hybrid) : Rpc.Hybrid where
  query := c.query
  properties := c.properties
  vector := c.vector
  alpha := c.alpha
  fusionType := (c.fusionType.map FusionType.code).getD 0
  targetVectors := c.targets.messageTargetVectors
  targets := c.targets.messageTargets
  maxVectorDistance := c.maxVectorDistance
  bm25SearchOperator := c.bm25SearchOperator.map WordMatching.message
  nearText := c.search.bind HybridSearch.nearTextMessage?
  nearVector := c.search.bind HybridSearch.nearVectorMessage?

end Hybrid

end VectorQuery
