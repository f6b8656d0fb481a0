import VectorQuery.Keyword.Matching

/-!
# Keyword search

The clause ranks objects by the words of a query in their properties.
-/

namespace VectorQuery

open Document

/-- A keyword search. -/
structure Bm25 where
  query : String := ""
  /-- The properties that are searched. -/
  properties : List String := []
  /-- How the words must be found. -/
  searchOperator : Option WordMatching := none
  deriving DecidableEq

namespace Bm25

/-- A setting of the clause. -/
inductive Setting where
  | query (query : String)
  | properties (properties : List String)
  /-- How the words must be found. -/
  | searchOperator (m : WordMatching)

/-- The clause with one more setting. -/
def set (c : Bm25) : Setting → Bm25
  | .query query => { c with query }
  | .properties properties => { c with properties }
  | .searchOperator m => { c with searchOperator := some m }

/-- The clause with the given settings, one after another. -/
def ofSettings (settings : List Setting) : Bm25 := settings.foldl set {}

/-- The clause in a document. -/
def document (c : Bm25) : Document :=
  entry "bm25" (braces (listed (given
    [some (field "query" [.quoted c.query]),
      unlessEmpty c.properties (field "properties" (strings c.properties)),
      c.searchOperator.map fun m => entry "searchOperator" m.body])))

/-- The clause as a message. -/
def message (c : Bm25) : Rpc.Bm25 where
  query := c.query
  properties := c.properties
  searchOperator := c.searchOperator.map WordMatching.message

end Bm25

end VectorQuery
