import VectorQuery.Document

/-!
# Selections

Which fields of the objects found are returned, each perhaps with fields of its own. A field whose
name begins with `... on` selects the fields of the objects of one class that a property refers to.
-/

namespace VectorQuery

open Document

/-- A selected field. -/
structure Field where
  name : String := ""
  /-- The fields selected of it. -/
  fields : List Field := []

namespace Field

instance : Inhabited Field := ⟨{}⟩

mutual
/-- A field in a document. -/
def document : Field → Document
  | ⟨name, []⟩ => [.word name]
  | ⟨name, field :: fields⟩ =>
    .word name :: braces (spaced (field.document :: documents fields))

/-- Fields in a document, one by one. -/
def documents : List Field → List Document
  | [] => []
  | field :: fields => field.document :: documents fields
end

/-- A selection in a document. -/
def selection (fields : List Field) : Document := spaced (documents fields)

end Field

end VectorQuery
