import VectorQuery.Similarity.NearMedia
import VectorQuery.Similarity.NearObject
import VectorQuery.Similarity.NearText
import VectorQuery.Similarity.NearVector

/-!
# Similarity clauses of any kind
-/

namespace VectorQuery

/-- A similarity clause. -/
inductive SimilarityClause where
  /-- Near concepts. -/
  | nearText (clause : NearText)
  /-- Near a vector. -/
  | nearVector (clause : NearVector)
  /-- Near an object. -/
  | nearObject (clause : NearObject)
  /-- Near a medium. -/
  | nearMedia (clause : NearMedia)
  deriving DecidableEq

namespace SimilarityClause

/-- The clause in a document. -/
def document : SimilarityClause → Document
  | nearText clause => clause.document
  | nearVector clause => clause.document
  | nearObject clause => clause.document
  | nearMedia clause => clause.document

end SimilarityClause

end VectorQuery
