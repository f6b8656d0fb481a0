import VectorQuery.Consistency
import VectorQuery.Filter.Document
import VectorQuery.Filter.Message
import VectorQuery.Hybrid
import VectorQuery.Keyword.Bm25
import VectorQuery.Results.Generative
import VectorQuery.Results.GroupBy
import VectorQuery.Results.SortKey
import VectorQuery.Selection.Request
import VectorQuery.Similarity.Clause

/-!
# Get queries

A get query searches one class and returns objects of it. It is written as a document, in which the
clauses have a fixed order whatever the order of the settings, and as the request of a search.
Several get queries may share one document.
-/

namespace VectorQuery

open Document

/-- A get query. -/
structure Get where
  /-- The class that is searched. -/
  className : String := ""
  /-- The fields that are returned. -/
  fields : List Field := []
  filter : Option Filter := none
  /-- The search near concepts. -/
  nearText : Option NearText := none
  /-- The search near a vector. -/
  nearVector : Option NearVector := none
  /-- The search near an object. -/
  nearObject : Option NearObject := none
  /-- The searches near media, one for each kind at most. -/
  nearMedia : MediaKind → Option NearMedia := fun _ => none
  /-- How many objects are returned at most. -/
  limit : Option UInt32 := none
  /-- How many objects are passed over. -/
  offset : Option UInt32 := none
  /-- The keys that the objects are sorted by. -/
  sort : List SortKey := []
  /-- How the objects are grouped. -/
  groupBy : Option GroupBy := none
  /-- After how many jumps in the score the objects end. -/
  autocut : Option UInt32 := none
  /-- The id after which objects are listed. -/
  after : Option String := none
  /-- The keyword search. -/
  bm25 : Option Bm25 := none
  /-- The hybrid search. -/
  hybrid : Option Hybrid := none
  /-- The tenant whose objects are searched. -/
  tenant : Option String := none
  /-- How many replicas must take part. -/
  consistencyLevel : Option ConsistencyLevel := none
  /-- What is generated from the objects. -/
  generative : Option GenerativeSearch := none

/-- The media clauses in a document or a message, in the order of their kinds. -/
def MediaKind.clauses (nearMedia : MediaKind → Option NearMedia) : List NearMedia :=
  MediaKind.all.filterMap nearMedia

/-- The media clauses with one more, in place of one of its kind. -/
def MediaKind.put (nearMedia : MediaKind → Option NearMedia) (clause : NearMedia) :
    MediaKind → Option NearMedia :=
  fun kind => if kind = clause.kind then some clause else nearMedia kind

namespace Get

instance : Inhabited Get := ⟨{}⟩

/-- A setting of the query. -/
inductive Setting where
  /-- The class. -/
  | className (name : String)
  | fields (fields : List Field)
  /-- The filter, of which only what counts is kept. -/
  | filter (f : Filter)
  /-- The search near concepts. -/
  | nearText (clause : NearText)
  /-- The search near a vector. -/
  | nearVector (clause : NearVector)
  /-- The search near an object. -/
  | nearObject (clause : NearObject)
  /-- A search near a medium, in place of one near a medium of its kind. -/
  | nearMedia (clause : NearMedia)
  | limit (n : UInt32)
  | offset (n : UInt32)
  /-- The sorting. -/
  | sort (keys : List SortKey)
  /-- The grouping. -/
  | groupBy (g : GroupBy)
  /-- The number of jumps. -/
  | autocut (n : UInt32)
  /-- The id to list after. -/
  | after (id : String)
  /-- The keyword search. -/
  | bm25 (clause : Bm25)
  /-- The hybrid search. -/
  | hybrid (clause : Hybrid)
  | tenant (name : String)
  | consistencyLevel (level : ConsistencyLevel)
  /-- What is generated. -/
  | generative (clause : GenerativeSearch)

/-- The query with one more setting. -/
def set (g : Get) : Setting → Get
  | .className name => { g with className := name }
  | .fields fields => { g with fields }
  | .filter f => { g with filter := some f.pruned }
  | .nearText clause => { g with nearText := some clause }
  | .nearVector clause => { g with nearVector := some clause }
  | .nearObject clause => { g with nearObject := some clause }
  | .nearMedia clause => { g with nearMedia := MediaKind.put g.nearMedia clause }
  | .limit n => { g with limit := some n }
  | .offset n => { g with offset := some n }
  | .sort keys => { g with sort := keys }
  | .groupBy grouping => { g with groupBy := some grouping }
  | .autocut n => { g with autocut := some n }
  | .after id => { g with after := some id }
  | .bm25 clause => { g with bm25 := some clause }
  | .hybrid clause => { g with hybrid := some clause }
  | .tenant name => { g with tenant := some name }
  | .consistencyLevel level => { g with consistencyLevel := some level }
  | .generative clause => { g with generative := some clause }

/-- The query with the given settings, one after another. -/
def ofSettings (settings : List Setting) : Get := settings.foldl set {}

/-- A number under a name. -/
def numberClause (name : String) (n : Option UInt32) : Option Document :=
  n.map fun n => field name [.integer n.toNat]

/-- A string under a name. -/
def stringClause (name : String) (s : Option String) : Option Document :=
  s.map fun s => field name [.quoted s]

/-- The clauses that are set, in the order of a document. -/
def clauses (g : Get) : List Document :=
  given [g.filter.map Filter.document,
      g.nearText.map NearText.document,
      g.nearVector.map NearVector.document,
      g.nearObject.map NearObject.document] ++
    (MediaKind.clauses g.nearMedia).map NearMedia.document ++
    given [numberClause "limit" g.limit,
      numberClause "offset" g.offset,
      unlessEmpty g.sort (SortKey.document g.sort),
      g.groupBy.map GroupBy.document,
      numberClause "autocut" g.autocut,
      stringClause "after" g.after,
      g.bm25.map Bm25.document,
      g.hybrid.map Hybrid.document,
      stringClause "tenant" g.tenant,
      g.consistencyLevel.map fun level => field "consistencyLevel" [.word level.name]]

/-- What is selected: the fields, and what is generated behind a blank if there is text before
it. -/
def selection (g : Get) : Document :=
  let fields := Field.selection g.fields
  match g.generative with
  | none => fields
  | some generative =>
    fields ++ (if fields.chars.isEmpty then [] else [.mark ' ']) ++ generative.document

/-- The class with its clauses and its selection. -/
def classDocument (g : Get) : Document :=
  match g.clauses with
  | [] => .word g.className :: .mark ' ' :: braces g.selection
  | clauses =>
    .word g.className :: .mark ' ' :: parens (listed clauses) ++ .mark ' ' :: braces g.selection

/-- The document of several queries. -/
def documentOf (queries : List Get) : Document :=
  braces (.word "Get" :: .mark ' ' :: braces (spaced (queries.map classDocument)))

/-- The document of one query. -/
def document (g : Get) : Document :=
  braces (.word "Get" :: .mark ' ' :: braces g.classDocument)

/-- The query as the request of a search. -/
def message (g : Get) : Rpc.SearchRequest where
  collection := g.className
  tenant := g.tenant.getD ""
  consistencyLevel := g.consistencyLevel.map ConsistencyLevel.code
  properties := Field.propertiesRequest g.fields
  metadata := Field.metadataRequest g.fields
  groupBy := g.groupBy.map GroupBy.message
  limit := g.limit
  offset := g.offset
  autocut := g.autocut
  after := g.after.getD ""
  sortBy := g.sort.map SortKey.message
  filters := g.filter.map Filter.message
  nearText := g.nearText.map NearText.message
  nearVector := g.nearVector.map NearVector.message
  nearObject := g.nearObject.map NearObject.message
  nearMedia := (MediaKind.clauses g.nearMedia).map NearMedia.message
  bm25Search := g.bm25.map Bm25.message
  hybridSearch := g.hybrid.map Hybrid.message
  generative := g.generative.map GenerativeSearch.message

end Get

end VectorQuery
