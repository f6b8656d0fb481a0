import VectorQuery.Query.Get

/-!
# Explore queries

An explore query searches all classes at once.
-/

namespace VectorQuery

open Document

/-- What is returned of an object found. -/
inductive ExploreField where
  | certainty | distance | beacon | className
  deriving DecidableEq, Repr

namespace ExploreField

/-- The name of a field. -/
def name : ExploreField → String
  | certainty => "certainty"
  | distance => "distance"
  | beacon => "beacon"
  | className => "className"

end ExploreField

/-- An explore query. -/
structure Explore where
  /-- What is returned. -/
  fields : List ExploreField := []
  /-- What is searched for. -/
  similarity : Option SimilarityClause := none
  /-- How many objects are returned at most. -/
  limit : Option UInt32 := none
  /-- How many objects are passed over. -/
  offset : Option UInt32 := none

namespace Explore

/-- A setting of the query. -/
inductive Setting where
  /-- What is returned. -/
  | fields (fields : List ExploreField)
  /-- What is searched for, in place of what was set before. -/
  | similarity (clause : SimilarityClause)
  | limit (n : UInt32)
  | offset (n : UInt32)

/-- The query with one more setting. -/
def set (e : Explore) : Setting → Explore
  | .fields fields => { e with fields }
  | .similarity clause => { e with similarity := some clause }
  | .limit n => { e with limit := some n }
  | .offset n => { e with offset := some n }

/-- The query with the given settings, one after another. -/
def ofSettings (settings : List Setting) : Explore := settings.foldl set {}

/-- The clauses that are set, in the order of a document. -/
def clauses (e : Explore) : List Document :=
  given [e.similarity.map SimilarityClause.document,
    Get.numberClause "limit" e.limit,
    Get.numberClause "offset" e.offset]

/-- The document of the query. -/
def document (e : Explore) : Document :=
  let arguments := match e.clauses with
    | [] => []
    | clauses => parens (listed clauses)
  let fields := e.fields.map fun f => [.word f.name]
  braces (.word "Explore" :: arguments ++ braces (spaced fields))

end Explore

end VectorQuery
