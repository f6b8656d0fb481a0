import VectorQuery.Proofs.Language.Contents
import VectorQuery.Proofs.Language.LegibleQuery

/-!
# The strings of queries

For every clause, `contents` are the strings that it carries in the order of its text, and `erased`
is the clause with nothing in its strings. Dates and media are carried as their texts. What a clause
does not write it does not carry: an empty id or beacon, the value of a filter that has operands,
and plain names of targets beside a combination.
-/

namespace VectorQuery

open Number Document Grammar

/-! ## Filters -/

namespace FilterValue

/-- The strings of a value. -/
def contents : FilterValue → List String
  | string values => values
  | text values => values
  | date values => values.map Timestamp.rfc3339
  | _ => []

/-- The date that stands in place of any. -/
def erasedDate (_ : Timestamp) : Timestamp := default

/-- A value with nothing in its strings; its dates are all the same. -/
def erased : FilterValue → FilterValue
  | string values => string (values.map erasedString)
  | text values => text (values.map erasedString)
  | date values => date (values.map erasedDate)
  | v => v

theorem contents_scalarOrArray {α : Type} {piece : α → Piece} {values : List α} {asArray : Bool}
    (h : values.length ≠ 1 → asArray = true) :
    (scalarOrArray piece asArray values).contents = values.flatMap fun x => (piece x).contents := by
  unfold scalarOrArray single?
  cases asArray with
  | true => simp
  | false =>
    obtain ⟨x, rfl⟩ := List.length_eq_one_iff.1 (by simpa using h)
    simp

theorem contents_document {v : FilterValue} {asArray : Bool} (h : v.count ≠ 1 → asArray = true) :
    (v.document asArray).contents = v.contents := by
  cases v with
  | string values => simp [document, body, contents, contents_scalarOrArray h]
  | text values => simp [document, body, contents, contents_scalarOrArray h]
  | date values => simp [document, body, contents, contents_scalarOrArray h, ← List.map_eq_flatMap]
  | int values => simp [document, body, contents, contents_scalarOrArray h]
  | number values => simp [document, body, contents, contents_scalarOrArray h]
  | boolean values => simp [document, body, contents, contents_scalarOrArray h]
  | geoRange range => simp [document, body, contents]

theorem erased_scalarOrArray {α : Type} (piece : α → Piece) (asArray : Bool) (values : List α) :
    (scalarOrArray piece asArray values).erased =
      scalarOrArray (fun x => (piece x).erased) asArray values := by
  unfold scalarOrArray
  split <;> simp

theorem scalarOrArray_map {α β : Type} (piece : β → Piece) (f : α → β) (asArray : Bool)
    (values : List α) :
    scalarOrArray piece asArray (values.map f) = scalarOrArray (piece ∘ f) asArray values := by
  cases asArray <;> cases values <;> simp [scalarOrArray, single?, array, Function.comp_def]

theorem erased_document (v : FilterValue) (asArray : Bool) :
    (v.erased.document asArray).erased = (v.document asArray).erased := by
  cases v with
  | string values =>
    simp [erased, document, body, key, erased_scalarOrArray, scalarOrArray_map, Function.comp_def]
  | text values =>
    simp [erased, document, body, key, erased_scalarOrArray, scalarOrArray_map, Function.comp_def]
  | date values =>
    simp [erased, document, body, key, erased_scalarOrArray, scalarOrArray_map, Function.comp_def]
  | _ => rfl

@[simp] theorem count_erased (v : FilterValue) : v.erased.count = v.count := by
  cases v <;> simp [erased, count]

end FilterValue

namespace Filter

mutual
/-- The strings of a filter: its path, and its value or its operands. -/
def contents : Filter → List String
  | ⟨_, path, value, []⟩ => path ++ value.toList.flatMap FilterValue.contents
  | ⟨_, path, _, operand :: operands⟩ => path ++ (operand.contents ++ contentsList operands)

/-- The strings of filters. -/
def contentsList : List Filter → List String
  | [] => []
  | f :: fs => f.contents ++ contentsList fs
end

mutual
/-- A filter with nothing in its strings. -/
def erased : Filter → Filter
  | ⟨operator, path, value, []⟩ =>
    ⟨operator, path.map erasedString, value.map FilterValue.erased, []⟩
  | ⟨operator, path, _, operand :: operands⟩ =>
    ⟨operator, path.map erasedString, none, operand.erased :: erasedList operands⟩

/-- Filters with nothing in their strings. -/
def erasedList : List Filter → List Filter
  | [] => []
  | f :: fs => f.erased :: erasedList fs
end

theorem rendersArray_of_count {f : Filter} {v : FilterValue} (hv : f.value = some v)
    (h : v.count ≠ 1) : f.rendersArray = true := by
  simp [rendersArray, hv, h]

mutual
theorem contents_body : ∀ f : Filter, f.body.contents = f.contents
  | ⟨operator, path, value, []⟩ => by
    cases value with
    | none => cases operator <;> simp [body, contents, valueDocument]
    | some v =>
      have hv := FilterValue.contents_document (v := v)
        (rendersArray_of_count (f := ⟨operator, path, some v, []⟩) rfl)
      cases operator <;> simp [body, contents, valueDocument, hv]
  | ⟨operator, path, value, operand :: operands⟩ => by
    have hoperand := contents_body operand
    have hoperands := contents_bodies operands
    cases operator <;> simp [body, contents, hoperand, hoperands]

theorem contents_bodies :
    ∀ fs : List Filter, (bodies fs).flatMap Document.contents = contentsList fs
  | [] => rfl
  | f :: fs => by
    have hf := contents_body f
    have hfs := contents_bodies fs
    simp [bodies, contentsList, hf, hfs]
end

@[simp] theorem contents_document (f : Filter) : f.document.contents = f.contents := by
  simp [document, contents_body]

mutual
theorem erased_body : ∀ f : Filter, f.erased.body.erased = f.body.erased
  | ⟨operator, path, value, []⟩ => by
    cases value with
    | none => simp [body, erased, valueDocument]
    | some v => simp [body, erased, valueDocument, rendersArray, FilterValue.erased_document]
  | ⟨operator, path, value, operand :: operands⟩ => by
    have hoperand := erased_body operand
    have hoperands := erased_bodies operands
    simp [body, erased, hoperand, hoperands]

theorem erased_bodies : ∀ fs : List Filter,
    (bodies (erasedList fs)).map Document.erased = (bodies fs).map Document.erased
  | [] => rfl
  | f :: fs => by
    have hf := erased_body f
    have hfs := erased_bodies fs
    simp [bodies, erasedList, hf, hfs]
end

@[simp] theorem erased_document (f : Filter) : f.erased.document.erased = f.document.erased := by
  simp [document, erased_body]

end Filter

/-! ## Similarity clauses -/

/-- A string with nothing in it that counts as given if the string does. -/
def erasedGiven (s : String) : String := if s.isEmpty then "" else "?"

/-- The string, if it is given. -/
def contentsGiven (s : String) : List String := if s.isEmpty then [] else [s]

namespace Document

@[simp] theorem contents_unlessEmpty_toList (name s : String) :
    (unlessEmpty s.toList (field name [.quoted s])).toList.flatMap contents = contentsGiven s := by
  by_cases h : s = ""
  · subst h
    rfl
  · simp [unlessEmpty, contentsGiven, h]

@[simp] theorem unlessEmpty_erasedGiven (s : String) (d : Document) :
    unlessEmpty (erasedGiven s).toList d = unlessEmpty s.toList d := by
  by_cases h : s = ""
  · subst h
    rfl
  · simp [unlessEmpty, erasedGiven, h]

end Document

namespace Combination

/-- A combination with nothing in the names of its targets, which are strings alone when there are
no weights. -/
def erased (c : Combination) : Combination :=
  if c.weights.isEmpty then { c with targetVectors := c.targetVectors.map erasedString } else c

@[simp] theorem isSet_erased (c : Combination) : c.erased.isSet = c.isSet := by
  unfold erased
  split <;> rfl

theorem contents_weights (pairs : List (String × TargetWeight)) :
    (pairs.map fun (name, w) => field name w.document).flatMap Document.contents = [] := by
  rw [List.flatMap_map, List.flatMap_eq_nil_iff]
  intro p _
  cases hw : p.2 <;> simp [TargetWeight.document, hw]

@[simp] theorem contents_document (c : Combination) : c.document.contents = c.targetVectors := by
  have hweights := contents_weights (c.targetVectors.zip c.weights)
  simp [document, hweights]

@[simp] theorem erased_document (c : Combination) :
    c.erased.document.erased = c.document.erased := by
  unfold erased
  split
  · rename_i h
    simp [document, h, unlessEmpty]
  · rfl

end Combination

namespace SimilarityOptions

/-- The strings of the targets: those of the combination if there is one, else the plain names. -/
def contents (o : SimilarityOptions) : List String :=
  match o.effectiveTargets with
  | some targets => targets.targetVectors
  | none => o.targetVectors

/-- Options with nothing in their strings. -/
def erased (o : SimilarityOptions) : SimilarityOptions :=
  { o with
    targetVectors := o.targetVectors.map erasedString
    targets := o.targets.map Combination.erased }

@[simp] theorem contents_thresholdDocument (o : SimilarityOptions) :
    o.thresholdDocument.toList.flatMap Document.contents = [] := by
  rcases o with ⟨_ | ⟨_ | _⟩, _, _⟩ <;> simp [thresholdDocument, Threshold.document]

@[simp] theorem contents_targetsDocument (o : SimilarityOptions) :
    o.targetsDocument.toList.flatMap Document.contents = o.contents := by
  unfold targetsDocument contents
  cases o.effectiveTargets <;> simp

@[simp] theorem thresholdDocument_erased (o : SimilarityOptions) :
    o.erased.thresholdDocument = o.thresholdDocument := rfl

theorem effectiveTargets_erased (o : SimilarityOptions) :
    o.erased.effectiveTargets = o.effectiveTargets.map Combination.erased := by
  rcases o with ⟨_, _, _ | c⟩
  · rfl
  · cases h : c.isSet <;> simp [effectiveTargets, erased, Option.filter, h]

@[simp] theorem erased_targetsDocument (o : SimilarityOptions) :
    o.erased.targetsDocument.map Document.erased = o.targetsDocument.map Document.erased := by
  rw [targetsDocument, targetsDocument, effectiveTargets_erased]
  cases o.effectiveTargets with
  | none => simp [erased]
  | some c => simp

end SimilarityOptions

namespace MoveObject

/-- The strings of an object. -/
def contents (o : MoveObject) : List String := contentsGiven o.id ++ contentsGiven o.beacon

/-- An object with nothing in its strings. -/
def erased (o : MoveObject) : MoveObject where
  id := erasedGiven o.id
  beacon := erasedGiven o.beacon

@[simp] theorem contents_document (o : MoveObject) : o.document.contents = o.contents := by
  simp [document, contents]

@[simp] theorem erased_document (o : MoveObject) :
    o.erased.document.erased = o.document.erased := by
  simp [document, erased]

end MoveObject

namespace Move

/-- The strings of a move. -/
def contents (m : Move) : List String := m.concepts ++ m.objects.flatMap MoveObject.contents

/-- A move with nothing in its strings. -/
def erased (m : Move) : Move :=
  { m with
    concepts := m.concepts.map erasedString
    objects := m.objects.map MoveObject.erased }

@[simp] theorem contents_document (m : Move) : m.document.contents = m.contents := by
  have hobjects : (unlessEmpty m.objects (field "objects" (brackets (listed
      (m.objects.map MoveObject.document))))).toList.flatMap Document.contents =
        m.objects.flatMap MoveObject.contents := by
    rw [contents_unlessEmpty] <;> simp +contextual [List.flatMap_map]
  simp [document, contents, hobjects]

@[simp] theorem erased_document (m : Move) : m.erased.document.erased = m.document.erased := by
  simp [document, erased, Function.comp_def]

end Move

namespace NearText

/-- The strings of the clause. -/
def contents (c : NearText) : List String :=
  c.concepts ++ c.moveTo.toList.flatMap Move.contents ++
    c.moveAwayFrom.toList.flatMap Move.contents ++ c.options.contents

/-- The clause with nothing in its strings. -/
def erased (c : NearText) : NearText :=
  { c with
    concepts := c.concepts.map erasedString
    moveTo := c.moveTo.map Move.erased
    moveAwayFrom := c.moveAwayFrom.map Move.erased
    options := c.options.erased }

@[simp] theorem contents_body (c : NearText) : c.body.contents = c.contents := by
  simp [body, contents]

@[simp] theorem erased_body (c : NearText) : c.erased.body.erased = c.body.erased := by
  simp [body, erased, Function.comp_def]

end NearText

namespace NearVector

/-- The strings of the clause. -/
def contents (c : NearVector) : List String := c.options.contents

/-- The clause with nothing in its strings. -/
def erased (c : NearVector) : NearVector := { c with options := c.options.erased }

@[simp] theorem contents_body (c : NearVector) : c.body.contents = c.contents := by
  simp [body, contents, List.flatMap_map]

@[simp] theorem erased_body (c : NearVector) : c.erased.body.erased = c.body.erased := by
  simp [body, erased, Function.comp_def]

end NearVector

namespace NearObject

/-- The strings of the clause. -/
def contents (c : NearObject) : List String :=
  contentsGiven c.id ++ contentsGiven c.beacon ++ c.options.contents

/-- The clause with nothing in its strings. -/
def erased (c : NearObject) : NearObject where
  id := erasedGiven c.id
  beacon := erasedGiven c.beacon
  options := c.options.erased

@[simp] theorem contents_document (c : NearObject) : c.document.contents = c.contents := by
  simp [document, contents]

@[simp] theorem erased_document (c : NearObject) :
    c.erased.document.erased = c.document.erased := by
  simp [document, erased]

end NearObject

namespace NearMedia

/-- The strings of the clause. -/
def contents (c : NearMedia) : List String := c.encoded :: c.options.contents

/-- The clause with nothing in its strings. -/
def erased (c : NearMedia) : NearMedia := { c with source := none, options := c.options.erased }

@[simp] theorem contents_document (c : NearMedia) : c.document.contents = c.contents := by
  simp [document, contents]

@[simp] theorem erased_document (c : NearMedia) : c.erased.document.erased = c.document.erased := by
  simp [document, erased]

end NearMedia

namespace MediaKind

/-- Media clauses with nothing in their strings. -/
def erased (nearMedia : MediaKind → Option NearMedia) : MediaKind → Option NearMedia :=
  fun kind => (nearMedia kind).map NearMedia.erased

theorem clauses_erased (nearMedia : MediaKind → Option NearMedia) :
    clauses (erased nearMedia) = (clauses nearMedia).map NearMedia.erased := by
  rw [clauses, clauses, List.map_filterMap]
  rfl

end MediaKind

namespace SimilarityClause

/-- The strings of the clause. -/
def contents : SimilarityClause → List String
  | nearText clause => clause.contents
  | nearVector clause => clause.contents
  | nearObject clause => clause.contents
  | nearMedia clause => clause.contents

/-- The clause with nothing in its strings. -/
def erased : SimilarityClause → SimilarityClause
  | nearText clause => nearText clause.erased
  | nearVector clause => nearVector clause.erased
  | nearObject clause => nearObject clause.erased
  | nearMedia clause => nearMedia clause.erased

@[simp] theorem contents_document (c : SimilarityClause) : c.document.contents = c.contents := by
  cases c <;> simp [document, contents, NearText.document, NearVector.document]

@[simp] theorem erased_document (c : SimilarityClause) :
    c.erased.document.erased = c.document.erased := by
  cases c <;> simp [document, erased, NearText.document, NearVector.document]

end SimilarityClause

/-! ## Keyword and hybrid search -/

theorem WordMatching.contents_body (m : WordMatching) : m.body.contents = [] := by
  simp [body]

namespace Bm25

/-- The strings of the clause. -/
def contents (c : Bm25) : List String := c.query :: c.properties

/-- The clause with nothing in its strings. -/
def erased (c : Bm25) : Bm25 :=
  { c with query := "", properties := c.properties.map erasedString }

@[simp] theorem contents_document (c : Bm25) : c.document.contents = c.contents := by
  simp [document, contents, WordMatching.contents_body]

@[simp] theorem erased_document (c : Bm25) : c.erased.document.erased = c.document.erased := by
  simp [document, erased]

end Bm25

namespace HybridSearch

/-- The strings of the search. -/
def contents : HybridSearch → List String
  | nearText clause => clause.contents
  | nearVector clause => clause.contents

/-- The search with nothing in its strings. -/
def erased : HybridSearch → HybridSearch
  | nearText clause => nearText clause.erased
  | nearVector clause => nearVector clause.erased

@[simp] theorem contents_document (s : HybridSearch) : s.document.contents = s.contents := by
  cases s <;> simp [document, contents, NearText.document, NearVector.document]

@[simp] theorem erased_document (s : HybridSearch) :
    s.erased.document.erased = s.document.erased := by
  cases s <;> simp [document, erased, NearText.document, NearVector.document]

end HybridSearch

namespace Hybrid

/-- The strings of the clause. -/
def contents (c : Hybrid) : List String :=
  c.query :: (c.properties ++ c.targets.contents ++ c.search.toList.flatMap HybridSearch.contents)

/-- The clause with nothing in its strings. -/
def erased (c : Hybrid) : Hybrid :=
  { c with
    query := ""
    properties := c.properties.map erasedString
    targets := c.targets.erased
    search := c.search.map HybridSearch.erased }

@[simp] theorem contents_document (c : Hybrid) : c.document.contents = c.contents := by
  simp [document, contents, WordMatching.contents_body]

@[simp] theorem erased_document (c : Hybrid) : c.erased.document.erased = c.document.erased := by
  simp [document, erased, Function.comp_def]

end Hybrid

/-! ## Results -/

namespace SortKey

/-- A key with nothing in its strings. -/
def erased (s : SortKey) : SortKey := { s with path := s.path.map erasedString }

@[simp] theorem contents_document (keys : List SortKey) :
    (SortKey.document keys).contents = keys.flatMap SortKey.path := by
  simp [document, body, List.flatMap_map]

@[simp] theorem contents_unlessEmpty_document (keys : List SortKey) :
    (unlessEmpty keys (SortKey.document keys)).toList.flatMap Document.contents =
      keys.flatMap SortKey.path := by
  rw [contents_unlessEmpty] <;> simp +contextual

@[simp] theorem erased_document (keys : List SortKey) :
    (SortKey.document (keys.map erased)).erased = (SortKey.document keys).erased := by
  simp [document, body, erased, Function.comp_def]

end SortKey

namespace GroupBy

/-- The clause with nothing in its strings. -/
def erased (g : GroupBy) : GroupBy := { g with path := g.path.map erasedString }

@[simp] theorem contents_document (g : GroupBy) : g.document.contents = g.path := by
  simp [document]

@[simp] theorem erased_document (g : GroupBy) : g.erased.document.erased = g.document.erased := by
  simp [document, erased]

end GroupBy

/-! ## Selections -/

namespace Field

mutual
theorem contents_document : ∀ f : Field, f.document.contents = []
  | ⟨name, []⟩ => by simp [document]
  | ⟨name, field :: fields⟩ => by
    have hfield := contents_document field
    have hfields := contents_documents fields
    simp [document, hfield, hfields]

theorem contents_documents : ∀ fs : List Field, (documents fs).flatMap Document.contents = []
  | [] => rfl
  | f :: fs => by
    have hf := contents_document f
    have hfs := contents_documents fs
    simp [documents, hf, hfs]
end

@[simp] theorem contents_selection (fields : List Field) : (selection fields).contents = [] := by
  rw [selection, contents_spaced, contents_documents]

end Field

end VectorQuery
