import VectorQuery.Document
import VectorQuery.Rpc.Search

/-!
# Sorting

The keys that the objects found are sorted by, the most important first.
-/

namespace VectorQuery

open Document

/-- Which end of the values comes first. -/
inductive SortOrder where
  | asc | desc
  deriving DecidableEq, Repr

namespace SortOrder

/-- The name of an order in documents. -/
def name : SortOrder → String
  | asc => "asc"
  | desc => "desc"

end SortOrder

/-- A key to sort by. -/
structure SortKey where
  /-- The path of the property. -/
  path : List String := []
  /-- The order; without one the server decides. -/
  order : Option SortOrder := none
  deriving DecidableEq

namespace SortKey

/-- A key in a document. -/
def body (s : SortKey) : Document :=
  braces (spaced (given
    [some (entry "path" (strings s.path)),
      s.order.map fun order => entry "order" [.word order.name]]))

/-- The clause of some keys. -/
def document (keys : List SortKey) : Document :=
  entry "sort" (brackets (listed (keys.map body)))

/-- A key as a message. -/
def message (s : SortKey) : Rpc.SortBy where
  ascending := s.order.map fun order => order = .asc
  path := s.path

end SortKey

end VectorQuery
