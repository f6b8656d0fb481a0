import VectorQuery.Document
import VectorQuery.Rpc.Search

/-!
# Matching words

How many of the words of a keyword query an object must hold: all of them, or any of them with a
least number. When all must be found the least number has no meaning and is written as zero.
-/

namespace VectorQuery

open Document

/-- How the words of a keyword query must be found. -/
structure WordMatching where
  /-- Whether all words must be found, and not any of them. -/
  all : Bool
  /-- The least number of words that must be found. -/
  minimum : Option Int32 := none
  deriving DecidableEq

namespace WordMatching

/-- The least number of words that is written. -/
def effectiveMinimum (m : WordMatching) : Int32 := if m.all then 0 else m.minimum.getD 0

/-- The name of the operator in documents. -/
def name (m : WordMatching) : String := if m.all then "And" else "Or"

/-- The matching in a document, without its key. -/
def body (m : WordMatching) : Document :=
  braces (spaced
    [entry "operator" [.word m.name],
      entry "minimumOrTokensMatch" [.integer m.effectiveMinimum.toInt]])

/-- The matching as a message. -/
def message (m : WordMatching) : Rpc.SearchOperatorOptions where
  operator := if m.all then 2 else 1
  minimumOrTokensMatch := some m.effectiveMinimum

end WordMatching

end VectorQuery
