import VectorQuery.Query.Get

/-!
# Aggregate queries

An aggregate query computes figures of the objects of a class, perhaps of those only that a filter
or a search selects.
-/

namespace VectorQuery

open Document

/-- An aggregate query. -/
structure Aggregate where
  /-- The class. -/
  className : String := ""
  /-- The figures that are computed. -/
  fields : List Field := []
  filter : Option Filter := none
  /-- The path of the property that the objects are grouped by. -/
  groupBy : List String := []
  /-- The search near concepts. -/
  nearText : Option NearText := none
  /-- The search near a vector. -/
  nearVector : Option NearVector := none
  /-- The search near an object. -/
  nearObject : Option NearObject := none
  /-- The searches near media, one for each kind at most. -/
  nearMedia : MediaKind → Option NearMedia := fun _ => none
  /-- How many objects a search may select. -/
  objectLimit : Option UInt32 := none
  /-- How many groups are returned at most. -/
  limit : Option UInt32 := none
  /-- The hybrid search. -/
  hybrid : Option Hybrid := none
  /-- The tenant whose objects are counted. -/
  tenant : Option String := none

namespace Aggregate

/-- A setting of the query. -/
inductive Setting where
  /-- The class. -/
  | className (name : String)
  /-- The figures. -/
  | fields (fields : List Field)
  /-- The filter, of which only what counts is kept. -/
  | filter (f : Filter)
  /-- The path to group by. -/
  | groupBy (path : List String)
  /-- The search near concepts. -/
  | nearText (clause : NearText)
  /-- The search near a vector. -/
  | nearVector (clause : NearVector)
  /-- The search near an object. -/
  | nearObject (clause : NearObject)
  /-- A search near a medium, in place of one near a medium of its kind. -/
  | nearMedia (clause : NearMedia)
  /-- The limit of a search. -/
  | objectLimit (n : UInt32)
  /-- The limit of groups. -/
  | limit (n : UInt32)
  /-- The hybrid search. -/
  | hybrid (clause : Hybrid)
  | tenant (name : String)

/-- The query with one more setting. -/
def set (a : Aggregate) : Setting → Aggregate
  | .className name => { a with className := name }
  | .fields fields => { a with fields }
  | .filter f => { a with filter := some f.pruned }
  | .groupBy path => { a with groupBy := path }
  | .nearText clause => { a with nearText := some clause }
  | .nearVector clause => { a with nearVector := some clause }
  | .nearObject clause => { a with nearObject := some clause }
  | .nearMedia clause => { a with nearMedia := MediaKind.put a.nearMedia clause }
  | .objectLimit n => { a with objectLimit := some n }
  | .limit n => { a with limit := some n }
  | .hybrid clause => { a with hybrid := some clause }
  | .tenant name => { a with tenant := some name }

/-- The query with the given settings, one after another. -/
def ofSettings (settings : List Setting) : Aggregate := settings.foldl set {}

/-- The clauses that are set, in the order of a document. -/
def clauses (a : Aggregate) : List Document :=
  given [a.filter.map Filter.document,
      unlessEmpty a.groupBy (entry "groupBy" (strings a.groupBy)),
      a.nearText.map NearText.document,
      a.nearVector.map NearVector.document,
      a.nearObject.map NearObject.document] ++
    (MediaKind.clauses a.nearMedia).map NearMedia.document ++
    given [Get.numberClause "objectLimit" a.objectLimit,
      Get.numberClause "limit" a.limit,
      a.hybrid.map Hybrid.document,
      Get.stringClause "tenant" a.tenant]

/-- The document of the query. -/
def document (a : Aggregate) : Document :=
  let arguments := match a.clauses with
    | [] => []
    | clauses => parens (listed clauses)
  braces (.word "Aggregate" :: braces
    (.word a.className :: arguments ++ braces (Field.selection a.fields)))

end Aggregate

end VectorQuery
