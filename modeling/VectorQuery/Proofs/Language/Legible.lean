import VectorQuery.Proofs.Language.Names
import VectorQuery.Proofs.Language.Shape

/-!
# What queries can be read

Strings are quoted, but names and numbers are written as they are. A query is `Plain` when its names
are names of the query language and its numbers are of a kind, such as finite or not NaN. The
document of a plain query is shaped and every piece of it can be read.
-/

namespace VectorQuery

open Number Document Grammar

variable {ok : FloatProperty}

/-! ## Filters -/

namespace FilterValue

/-- The numbers of a value have a property. -/
def Plain (ok : FloatProperty) : FilterValue → Prop
  | number values => ∀ x ∈ values, ok _ x
  | geoRange range => ok _ range.latitude ∧ ok _ range.longitude ∧ ok _ range.maxDistance
  | _ => True

theorem single?_mem {α : Type} {asArray : Bool} {values : List α} {x : α}
    (h : single? asArray values = some x) : x ∈ values := by
  unfold single? at h
  split at h
  · cases h
  · exact List.mem_of_mem_head? h

@[simp] theorem shaped_scalarOrArray {α : Type} {piece : α → Piece} {asArray : Bool}
    {values : List α} (h : ∀ x, Shaped [piece x]) :
    Shaped (scalarOrArray piece asArray values) := by
  unfold scalarOrArray
  split
  · exact h _
  · exact shaped_array h

theorem legible_scalarOrArray {α : Type} {piece : α → Piece} {asArray : Bool} {values : List α}
    (h : ∀ x ∈ values, (piece x).Legible ok) : Legible ok (scalarOrArray piece asArray values) := by
  unfold scalarOrArray
  split
  · rename_i x hx
    simpa using h x (single?_mem hx)
  · exact legible_array.2 h

@[simp] theorem shaped_document (asArray : Bool) (v : FilterValue) :
    Shaped (v.document asArray) := by
  refine shaped_field ?_
  cases v with
  | geoRange range =>
    have hcentre : Shaped (packed [entry "latitude" [.single range.latitude],
        entry "longitude" [.single range.longitude]]) := shaped_packed (by simp)
    have hdistance : Shaped (entry "max" [.single range.maxDistance]) := by simp
    exact shaped_braces (shaped_packed (by simp [hcentre, hdistance]))
  | _ => exact shaped_scalarOrArray (by simp)

theorem legible_document (asArray : Bool) {v : FilterValue}
    (h : v.Plain ok) : Legible ok (v.document asArray) := by
  refine legible_field.2 ⟨isFieldName_of_isName v.isName_key, ?_⟩
  cases v with
  | number values => exact legible_scalarOrArray h
  | geoRange range =>
    obtain ⟨hlatitude, hlongitude, hdistance⟩ := h
    simp +decide [body, hlatitude, hlongitude, hdistance]
  | _ => exact legible_scalarOrArray (by simp)

end FilterValue

namespace Filter

mutual
/-- The numbers of the leaves of a filter have a property. -/
def Plain (ok : FloatProperty) : Filter → Prop
  | ⟨_, _, value, []⟩ => ∀ v ∈ value, v.Plain ok
  | ⟨_, _, _, operand :: operands⟩ => operand.Plain ok ∧ PlainList ok operands

/-- The numbers of the leaves of filters have a property. -/
def PlainList (ok : FloatProperty) : List Filter → Prop
  | [] => True
  | f :: fs => f.Plain ok ∧ PlainList ok fs
end

mutual
theorem shaped_body : ∀ f : Filter, Shaped f.body
  | ⟨operator, path, value, []⟩ => by
    rw [body]
    exact shaped_spaced (by simp [valueDocument])
  | ⟨operator, path, value, operand :: operands⟩ => by
    have hoperand := shaped_body operand
    have hoperands := shaped_bodies operands
    have hpacked : Shaped (packed (braces operand.body :: bodies operands)) :=
      shaped_packed (List.forall_mem_cons.2 ⟨shaped_braces hoperand, hoperands⟩)
    rw [body]
    exact shaped_spaced (by simp [hpacked])

theorem shaped_bodies : ∀ fs : List Filter, ∀ d ∈ bodies fs, Shaped d
  | [] => by simp [bodies]
  | f :: fs => by
    rw [bodies]
    exact List.forall_mem_cons.2 ⟨shaped_braces (shaped_body f), shaped_bodies fs⟩
end

mutual
theorem legible_body : ∀ f : Filter, f.Plain ok → Legible ok f.body
  | ⟨operator, path, value, []⟩, h => by
    rw [Plain] at h
    have hvalue : ∀ v, value = some v → Legible ok (v.document (rendersArray
        ⟨operator, path, value, []⟩)) := fun v hv => FilterValue.legible_document _ (h v hv)
    simp +decide [body, valueDocument, isFieldName_of_isName, Operator.isName_name]
    exact hvalue
  | ⟨operator, path, value, operand :: operands⟩, h => by
    rw [Plain] at h
    have hoperand := legible_body operand h.1
    have hoperands := legible_bodies operands h.2
    simp +decide [body, isFieldName_of_isName, Operator.isName_name, hoperand]
    exact hoperands

theorem legible_bodies :
    ∀ fs : List Filter, PlainList ok fs → ∀ d ∈ bodies fs, Legible ok d
  | [], _ => by simp [bodies]
  | f :: fs, h => by
    rw [PlainList] at h
    rw [bodies]
    exact List.forall_mem_cons.2
      ⟨legible_braces.2 (legible_body f h.1), legible_bodies fs h.2⟩
end

@[simp] theorem shaped_document (f : Filter) : Shaped f.document :=
  shaped_entry (shaped_braces (shaped_body f))

theorem legible_document {f : Filter} (h : f.Plain ok) :
    Legible ok f.document := by
  simp +decide [document, legible_body f h]

end Filter

/-! ## Selections -/

namespace Field

mutual
/-- The names of a field and of the fields in it are names of fields. -/
def Plain : Field → Prop
  | ⟨name, fields⟩ => isFieldName name = true ∧ PlainList fields

/-- The names of fields and of the fields in them are names of fields. -/
def PlainList : List Field → Prop
  | [] => True
  | f :: fs => f.Plain ∧ PlainList fs
end

mutual
theorem shaped_document : ∀ f : Field, Shaped f.document
  | ⟨name, []⟩ => shaped_word name
  | ⟨name, field :: fields⟩ => by
    have hfields : ∀ d ∈ field.document :: documents fields, Shaped d :=
      List.forall_mem_cons.2 ⟨shaped_document field, shaped_documents fields⟩
    rw [document]
    exact Shaped.append_braces (shaped_word name) (shaped_spaced hfields)

theorem shaped_documents : ∀ fs : List Field, ∀ d ∈ documents fs, Shaped d
  | [] => by simp [documents]
  | f :: fs => by
    rw [documents]
    exact List.forall_mem_cons.2 ⟨shaped_document f, shaped_documents fs⟩
end

mutual
theorem legible_document : ∀ f : Field, f.Plain → Legible ok f.document
  | ⟨name, []⟩, h => by
    rw [Plain] at h
    simp [document, h.1]
  | ⟨name, field :: fields⟩, h => by
    rw [Plain, PlainList] at h
    have hfield := legible_document field h.2.1
    have hfields := legible_documents fields h.2.2
    simp only [document, legible_cons, legible_word, legible_braces, legible_spaced,
      List.forall_mem_cons]
    exact ⟨h.1, hfield, hfields⟩

theorem legible_documents : ∀ fs : List Field, PlainList fs → ∀ d ∈ documents fs, Legible ok d
  | [], _ => by simp [documents]
  | f :: fs, h => by
    rw [PlainList] at h
    rw [documents]
    exact List.forall_mem_cons.2 ⟨legible_document f h.1, legible_documents fs h.2⟩
end

theorem shaped_selection (fields : List Field) : Shaped (selection fields) :=
  shaped_spaced (shaped_documents fields)

theorem legible_selection {fields : List Field} (h : PlainList fields) :
    Legible ok (selection fields) :=
  legible_spaced.2 (legible_documents fields h)

end Field

/-! ## Similarity clauses -/

namespace TargetWeight

@[simp] theorem shaped_document (w : TargetWeight) : Shaped w.document := by
  cases w <;> simp [document]

theorem legible_document {w : TargetWeight} (h : ∀ x ∈ w.values, ok _ x) :
    Legible ok w.document := by
  cases w <;> simpa [document, values] using h

end TargetWeight

namespace Combination

/-- The names of weighted targets are names, and the weights have a property. -/
def Plain (ok : FloatProperty) (c : Combination) : Prop :=
  ∀ p ∈ c.targetVectors.zip c.weights, isName p.1 = true ∧ ∀ x ∈ p.2.values, ok _ x

/-- The weights of the targets in a document. -/
def weightsDocument (c : Combination) : Document :=
  braces (spaced ((c.targetVectors.zip c.weights).map fun (name, w) => field name w.document))

theorem shaped_weights (c : Combination) :
    ∀ d ∈ (c.targetVectors.zip c.weights).map fun (name, w) => field name w.document, Shaped d :=
  List.forall_mem_map.2 fun p _ => by simp

theorem document_eq (c : Combination) : c.document = entry "targets" (braces (spaced (given
    [c.method.map fun method => field "combinationMethod" [.word method.name],
      some (field "targetVectors" (strings c.targetVectors)),
      unlessEmpty c.weights (field "weights" c.weightsDocument)]))) := rfl

@[simp] theorem shaped_document (c : Combination) : Shaped c.document := by
  have hweights : Shaped c.weightsDocument := shaped_braces (shaped_spaced c.shaped_weights)
  rw [document_eq]
  exact shaped_entry (shaped_braces (shaped_spaced (by simp [hweights])))

theorem legible_document {c : Combination} (h : c.Plain ok) :
    Legible ok c.document := by
  have hweights : Legible ok c.weightsDocument := by
    refine legible_braces.2 (legible_spaced.2 (List.forall_mem_map.2 fun p hp =>
      legible_field.2 ?_))
    obtain ⟨hname, hvalues⟩ := h p hp
    exact ⟨isFieldName_of_isName hname, TargetWeight.legible_document hvalues⟩
  simp +decide only [document_eq, legible_entry, legible_braces, legible_spaced,
    forall_mem_given_cons]
  simp +decide [isFieldName_of_isName, CombinationMethod.isName_name, hweights]

end Combination

namespace Threshold

/-- The number of a threshold has a property. -/
def Plain (ok : FloatProperty) : Threshold → Prop
  | certainty x => ok _ x
  | distance x => ok _ x

@[simp] theorem shaped_document (t : Threshold) : Shaped t.document := by
  cases t <;> simp [document]

theorem legible_document {t : Threshold} (h : t.Plain ok) :
    Legible ok t.document := by
  cases t with
  | certainty x =>
    have hx : ok _ x := h
    simp +decide [document, hx]
  | distance x =>
    have hx : ok _ x := h
    simp +decide [document, hx]

end Threshold

namespace SimilarityOptions

/-- The threshold and the targets that are searched are plain. -/
def Plain (ok : FloatProperty) (o : SimilarityOptions) : Prop :=
  (∀ t ∈ o.threshold, t.Plain ok) ∧ ∀ c ∈ o.effectiveTargets, c.Plain ok

@[simp] theorem shaped_thresholdDocument (o : SimilarityOptions) :
    WhenGiven Shaped o.thresholdDocument := by
  simp [thresholdDocument]

theorem legible_thresholdDocument {o : SimilarityOptions}
    (h : o.Plain ok) : WhenGiven (Legible ok) o.thresholdDocument :=
  whenGiven_map.2 fun t ht => Threshold.legible_document (h.1 t ht)

@[simp] theorem shaped_targetsDocument (o : SimilarityOptions) :
    WhenGiven Shaped o.targetsDocument := by
  unfold targetsDocument
  split <;> simp

theorem legible_targetsDocument {o : SimilarityOptions}
    (h : ∀ c ∈ o.effectiveTargets, c.Plain ok) : WhenGiven (Legible ok) o.targetsDocument := by
  unfold targetsDocument
  split
  · rename_i c hc
    exact whenGiven_some.2 (Combination.legible_document (h c hc))
  · simp +decide

end SimilarityOptions

end VectorQuery
