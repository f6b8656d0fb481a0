import VectorQuery.Proofs.Language.Legible

/-!
# Plain queries

The clauses of a query, and the documents of queries, can be read when the query is plain.
-/

namespace VectorQuery

open Number Document Grammar

variable {ok : FloatProperty}

/-! ## Similarity clauses -/

namespace MoveObject

@[simp] theorem shaped_document (o : MoveObject) : Shaped o.document :=
  shaped_braces (shaped_spaced (by simp))

@[simp] theorem legible_document (o : MoveObject) : Legible ok o.document := by
  simp +decide [document]

end MoveObject

namespace Move

@[simp] theorem shaped_document (m : Move) : Shaped m.document := by
  have hobjects : Shaped (listed (m.objects.map MoveObject.document)) := shaped_listed (by simp)
  exact shaped_braces (shaped_spaced (by simp [hobjects]))

theorem legible_document {m : Move} (h : ok _ m.force) :
    Legible ok m.document := by
  simp +decide [document, h]

end Move

namespace NearText

/-- The numbers of the clause have a property, and its names are names. -/
def Plain (ok : FloatProperty) (c : NearText) : Prop :=
  (∀ m ∈ c.moveTo, ok _ m.force) ∧ (∀ m ∈ c.moveAwayFrom, ok _ m.force) ∧ c.options.Plain ok

@[simp] theorem shaped_body (c : NearText) : Shaped c.body :=
  shaped_braces (shaped_spaced (by simp))

theorem legible_body {c : NearText} (h : c.Plain ok) : Legible ok c.body := by
  have hthreshold := SimilarityOptions.legible_thresholdDocument h.2.2
  have htargets := SimilarityOptions.legible_targetsDocument h.2.2.2
  have hto : ∀ m, c.moveTo = some m → Legible ok m.document :=
    fun m hm => Move.legible_document (h.1 m hm)
  have haway : ∀ m, c.moveAwayFrom = some m → Legible ok m.document :=
    fun m hm => Move.legible_document (h.2.1 m hm)
  simp +decide [body, hthreshold, htargets]
  exact ⟨hto, haway⟩

end NearText

namespace NearVector

/-- The numbers of the clause have a property, and its names are names. -/
def Plain (ok : FloatProperty) (c : NearVector) : Prop :=
  (∀ x ∈ c.vector, ok _ x) ∧
    (∀ p ∈ c.vectorPerTarget, isName p.1 = true ∧ ∀ x ∈ p.2, ok _ x) ∧ c.options.Plain ok

/-- The vectors of single targets in a document. -/
def perTargetDocument (c : NearVector) : Document :=
  braces (spaced (c.vectorPerTarget.map fun (name, v) => field name (singles v)))

theorem shaped_perTarget (c : NearVector) :
    ∀ d ∈ c.vectorPerTarget.map fun (name, v) => field name (singles v), Shaped d :=
  List.forall_mem_map.2 fun p _ => by simp

theorem body_eq (c : NearVector) : c.body = braces (spaced (given
    [if c.vector.isEmpty && !c.vectorPerTarget.isEmpty then none
      else some (field "vector" (singles c.vector)),
      unlessEmpty c.vectorPerTarget (entry "vectorPerTarget" c.perTargetDocument),
      c.options.thresholdDocument,
      c.options.targetsDocument])) := rfl

@[simp] theorem shaped_body (c : NearVector) : Shaped c.body := by
  have htargets : Shaped c.perTargetDocument := shaped_braces (shaped_spaced c.shaped_perTarget)
  rw [body_eq]
  exact shaped_braces (shaped_spaced (by simp [htargets]))

theorem legible_body {c : NearVector} (h : c.Plain ok) : Legible ok c.body := by
  have hthreshold := SimilarityOptions.legible_thresholdDocument h.2.2
  have htargets := SimilarityOptions.legible_targetsDocument h.2.2.2
  have hvector : Legible ok (singles c.vector) := legible_singles.2 h.1
  have hperTarget : Legible ok c.perTargetDocument := by
    refine legible_braces.2 (legible_spaced.2 (List.forall_mem_map.2 fun p hp =>
      legible_field.2 ?_))
    obtain ⟨hname, hvector⟩ := h.2.1 p hp
    exact ⟨isFieldName_of_isName hname, legible_singles.2 hvector⟩
  simp +decide only [body_eq, legible_braces, legible_spaced, forall_mem_given_cons, given_nil,
    hthreshold, htargets, whenGiven_unless, whenGiven_unlessEmpty, legible_entry, legible_field,
    hvector]
  exact ⟨fun _ => trivial, fun _ => ⟨trivial, hperTarget⟩, by simp⟩

end NearVector

namespace NearObject

@[simp] theorem shaped_document (c : NearObject) : Shaped c.document :=
  shaped_entry (shaped_braces (shaped_spaced (by simp)))

theorem legible_document {c : NearObject} (h : c.options.Plain ok) :
    Legible ok c.document := by
  have hthreshold := SimilarityOptions.legible_thresholdDocument h
  have htargets := SimilarityOptions.legible_targetsDocument h.2
  simp +decide [document, hthreshold, htargets]

end NearObject

namespace NearMedia

@[simp] theorem shaped_document (c : NearMedia) : Shaped c.document :=
  shaped_entry (shaped_braces (shaped_spaced (by simp)))

theorem legible_document {c : NearMedia} (h : c.options.Plain ok) :
    Legible ok c.document := by
  have hthreshold := SimilarityOptions.legible_thresholdDocument h
  have htargets := SimilarityOptions.legible_targetsDocument h.2
  simp [document, hthreshold, htargets, isFieldName_of_isName,
    MediaKind.isName_clauseName, MediaKind.isName_fieldName]

end NearMedia

namespace MediaKind

variable {nearMedia : MediaKind → Option NearMedia}

theorem shaped_clauses (nearMedia : MediaKind → Option NearMedia) :
    ∀ d ∈ (clauses nearMedia).map NearMedia.document, Shaped d :=
  List.forall_mem_map.2 fun c _ => c.shaped_document

theorem legible_clauses
    (h : ∀ kind, ∀ c ∈ nearMedia kind, c.options.Plain ok) :
    ∀ d ∈ (clauses nearMedia).map NearMedia.document, Legible ok d := by
  refine List.forall_mem_map.2 fun c hc => NearMedia.legible_document ?_
  obtain ⟨kind, -, hkind⟩ := List.mem_filterMap.1 hc
  exact h kind c hkind

end MediaKind

namespace SimilarityClause

/-- The numbers of the clause have a property, and its names are names. -/
def Plain (ok : FloatProperty) : SimilarityClause → Prop
  | nearText clause => clause.Plain ok
  | nearVector clause => clause.Plain ok
  | nearObject clause => clause.options.Plain ok
  | nearMedia clause => clause.options.Plain ok

@[simp] theorem shaped_document (c : SimilarityClause) : Shaped c.document := by
  cases c with
  | nearText clause => exact shaped_entry clause.shaped_body
  | nearVector clause => exact shaped_entry clause.shaped_body
  | nearObject clause => exact clause.shaped_document
  | nearMedia clause => exact clause.shaped_document

theorem legible_document {c : SimilarityClause} (h : c.Plain ok) :
    Legible ok c.document := by
  cases c with
  | nearText clause => exact legible_entry.2 ⟨by decide, NearText.legible_body h⟩
  | nearVector clause => exact legible_entry.2 ⟨by decide, NearVector.legible_body h⟩
  | nearObject clause => exact NearObject.legible_document h
  | nearMedia clause => exact NearMedia.legible_document h

end SimilarityClause

/-! ## Keyword and hybrid search -/

namespace WordMatching

@[simp] theorem shaped_body (m : WordMatching) : Shaped m.body :=
  shaped_braces (shaped_spaced (by simp))

@[simp] theorem legible_body (m : WordMatching) : Legible ok m.body := by
  have hname := isFieldName_of_isName m.isName_name
  simp +decide [body, hname]

end WordMatching

namespace Bm25

@[simp] theorem shaped_document (c : Bm25) : Shaped c.document :=
  shaped_entry (shaped_braces (shaped_listed (by simp)))

@[simp] theorem legible_document (c : Bm25) : Legible ok c.document := by
  simp +decide [document]

end Bm25

namespace HybridSearch

/-- The numbers of the search have a property, and its names are names. -/
def Plain (ok : FloatProperty) : HybridSearch → Prop
  | nearText clause => clause.Plain ok
  | nearVector clause => clause.Plain ok

@[simp] theorem shaped_document (s : HybridSearch) : Shaped s.document := by
  cases s with
  | nearText clause => exact shaped_entry (shaped_braces (shaped_entry clause.shaped_body))
  | nearVector clause => exact shaped_entry (shaped_braces (shaped_entry clause.shaped_body))

theorem legible_document {s : HybridSearch} (h : s.Plain ok) :
    Legible ok s.document := by
  cases s with
  | nearText clause =>
    simp +decide [document, NearText.document, NearText.legible_body h]
  | nearVector clause =>
    simp +decide [document, NearVector.document, NearVector.legible_body h]

end HybridSearch

namespace Hybrid

/-- The numbers of the clause have a property, and its names are names. -/
def Plain (ok : FloatProperty) (c : Hybrid) : Prop :=
  (∀ x ∈ c.vector, ok _ x) ∧ (∀ x ∈ c.alpha, ok _ x) ∧ (∀ x ∈ c.maxVectorDistance, ok _ x) ∧
    (∀ t ∈ c.targets.effectiveTargets, t.Plain ok) ∧ ∀ s ∈ c.search, s.Plain ok

@[simp] theorem shaped_document (c : Hybrid) : Shaped c.document :=
  shaped_entry (shaped_braces (shaped_listed (by simp)))

theorem legible_document {c : Hybrid} (h : c.Plain ok) :
    Legible ok c.document := by
  obtain ⟨hvector, halpha, hdistance, htargets, hsearch⟩ := h
  have htargets := SimilarityOptions.legible_targetsDocument htargets
  have hsearch : ∀ s, c.search = some s → Legible ok s.document :=
    fun s hs => HybridSearch.legible_document (hsearch s hs)
  simp +decide [document, htargets, isFieldName_of_isName, FusionType.isName_name]
  exact ⟨fun _ => hvector, halpha, hdistance, hsearch⟩

end Hybrid

/-! ## Results -/

namespace SortKey

@[simp] theorem shaped_body (s : SortKey) : Shaped s.body :=
  shaped_braces (shaped_spaced (by simp))

@[simp] theorem legible_body (s : SortKey) : Legible ok s.body := by
  simp +decide [body, isFieldName_of_isName, SortOrder.isName_name]

@[simp] theorem shaped_document (keys : List SortKey) : Shaped (SortKey.document keys) :=
  shaped_entry (shaped_brackets (shaped_listed (by simp)))

@[simp] theorem legible_document (keys : List SortKey) : Legible ok (SortKey.document keys) := by
  simp +decide [document]

end SortKey

namespace GroupBy

@[simp] theorem shaped_document (g : GroupBy) : Shaped g.document :=
  shaped_entry (shaped_braces (shaped_spaced (by simp)))

@[simp] theorem legible_document (g : GroupBy) : Legible ok g.document := by
  simp +decide [document]

end GroupBy

/-! ## Queries -/

/-- Clauses in parentheses, if there are any. -/
def Document.arguments (clauses : List Document) : Document :=
  match clauses with
  | [] => []
  | clauses => parens (listed clauses)

namespace Document

theorem shaped_word_arguments (name : String) {clauses : List Document}
    (h : ∀ d ∈ clauses, Shaped d) : Shaped (.word name :: arguments clauses) := by
  unfold arguments
  split
  · exact shaped_word _
  · exact Shaped.append_parens (shaped_word _) (shaped_listed h)

theorem legible_arguments {clauses : List Document} (h : ∀ d ∈ clauses, Legible ok d) :
    Legible ok (arguments clauses) := by
  unfold arguments
  split
  · exact legible_nil
  · exact legible_parens.2 (legible_listed.2 h)

end Document

namespace Get

/-- Nothing is generated from the objects, the names of the query are names, and its numbers have a
property. -/
structure Plain (ok : FloatProperty) (g : Get) : Prop where
  /-- Nothing is generated. -/
  generative : g.generative = none
  /-- The class has a name. -/
  className : isName g.className = true
  /-- The fields have names. -/
  fields : Field.PlainList g.fields
  /-- The filter is plain. -/
  filter : ∀ f ∈ g.filter, f.Plain ok
  /-- The search near concepts is plain. -/
  nearText : ∀ c ∈ g.nearText, c.Plain ok
  /-- The search near a vector is plain. -/
  nearVector : ∀ c ∈ g.nearVector, c.Plain ok
  /-- The search near an object is plain. -/
  nearObject : ∀ c ∈ g.nearObject, c.options.Plain ok
  /-- The searches near media are plain. -/
  nearMedia : ∀ kind, ∀ c ∈ g.nearMedia kind, c.options.Plain ok
  /-- The hybrid search is plain. -/
  hybrid : ∀ c ∈ g.hybrid, c.Plain ok

theorem shaped_clauses (g : Get) : ∀ d ∈ g.clauses, Shaped d := by
  have hmedia := MediaKind.shaped_clauses g.nearMedia
  simp only [clauses, List.forall_mem_append]
  refine ⟨⟨?_, hmedia⟩, ?_⟩
  · simp [NearText.document, NearVector.document]
  · simp [numberClause, stringClause]

theorem legible_clauses {g : Get} (h : g.Plain ok) :
    ∀ d ∈ g.clauses, Legible ok d := by
  have hmedia := MediaKind.legible_clauses h.nearMedia
  simp only [clauses, List.forall_mem_append]
  refine ⟨⟨?_, hmedia⟩, ?_⟩
  · simp +decide [NearText.document, NearVector.document]
    exact ⟨fun f hf => Filter.legible_document (h.filter f hf),
      fun c hc => NearText.legible_body (h.nearText c hc),
      fun c hc => NearVector.legible_body (h.nearVector c hc),
      fun c hc => NearObject.legible_document (h.nearObject c hc)⟩
  · simp +decide [numberClause, stringClause, isFieldName_of_isName, ConsistencyLevel.isName_name]
    exact fun c hc => Hybrid.legible_document (h.hybrid c hc)

theorem selection_of_generative {g : Get} (h : g.generative = none) :
    g.selection = Field.selection g.fields := by
  simp [selection, h]

theorem shaped_classDocument {g : Get} (h : g.generative = none) : Shaped g.classDocument := by
  have hselection : Shaped (braces g.selection) := by
    rw [selection_of_generative h]
    exact shaped_braces (Field.shaped_selection g.fields)
  have hclauses := g.shaped_clauses
  unfold classDocument
  split
  · exact .word_separated (by decide) hselection
  · refine .word_separated (by decide) ?_
    exact .separated (by decide) (Shaped.append_parens .nil (shaped_listed hclauses)) hselection

theorem legible_classDocument {g : Get} (h : g.Plain ok) :
    Legible ok g.classDocument := by
  have hselection : Legible ok (braces g.selection) := by
    rw [selection_of_generative h.generative]
    exact legible_braces.2 (Field.legible_selection h.fields)
  have hclauses := legible_clauses h
  have hname := isFieldName_of_isName h.className
  unfold classDocument
  split
  · simp [hname, hselection, -legible_braces]
  · simp [hname, hselection, -legible_braces]
    exact hclauses

theorem shaped_documentOf {queries : List Get} (h : ∀ g ∈ queries, g.generative = none) :
    Shaped (documentOf queries) :=
  shaped_braces (.word_separated (by decide) (shaped_braces (shaped_spaced
    (List.forall_mem_map.2 fun g hg => shaped_classDocument (h g hg)))))

theorem legible_documentOf {queries : List Get}
    (h : ∀ g ∈ queries, g.Plain ok) : Legible ok (documentOf queries) := by
  simp +decide [documentOf]
  exact fun g hg => legible_classDocument (h g hg)

/-- The document of one query is that of a list of one. -/
theorem document_eq_documentOf (g : Get) : g.document = documentOf [g] := by
  simp [document, documentOf, spaced]

end Get

namespace Aggregate

/-- The names of the query are names, and its numbers have a property. -/
structure Plain (ok : FloatProperty) (a : Aggregate) : Prop where
  /-- The class has a name. -/
  className : isName a.className = true
  /-- The fields have names. -/
  fields : Field.PlainList a.fields
  /-- The filter is plain. -/
  filter : ∀ f ∈ a.filter, f.Plain ok
  /-- The search near concepts is plain. -/
  nearText : ∀ c ∈ a.nearText, c.Plain ok
  /-- The search near a vector is plain. -/
  nearVector : ∀ c ∈ a.nearVector, c.Plain ok
  /-- The search near an object is plain. -/
  nearObject : ∀ c ∈ a.nearObject, c.options.Plain ok
  /-- The searches near media are plain. -/
  nearMedia : ∀ kind, ∀ c ∈ a.nearMedia kind, c.options.Plain ok
  /-- The hybrid search is plain. -/
  hybrid : ∀ c ∈ a.hybrid, c.Plain ok

theorem shaped_clauses (a : Aggregate) : ∀ d ∈ a.clauses, Shaped d := by
  have hmedia := MediaKind.shaped_clauses a.nearMedia
  simp only [clauses, List.forall_mem_append]
  refine ⟨⟨?_, hmedia⟩, ?_⟩
  · simp [NearText.document, NearVector.document]
  · simp [Get.numberClause, Get.stringClause]

theorem legible_clauses {a : Aggregate} (h : a.Plain ok) :
    ∀ d ∈ a.clauses, Legible ok d := by
  have hmedia := MediaKind.legible_clauses h.nearMedia
  simp only [clauses, List.forall_mem_append]
  refine ⟨⟨?_, hmedia⟩, ?_⟩
  · simp +decide [NearText.document, NearVector.document]
    exact ⟨fun f hf => Filter.legible_document (h.filter f hf),
      fun c hc => NearText.legible_body (h.nearText c hc),
      fun c hc => NearVector.legible_body (h.nearVector c hc),
      fun c hc => NearObject.legible_document (h.nearObject c hc)⟩
  · simp +decide [Get.numberClause, Get.stringClause]
    exact fun c hc => Hybrid.legible_document (h.hybrid c hc)

theorem document_eq (a : Aggregate) : a.document = braces (.word "Aggregate" :: braces
    (.word a.className :: arguments a.clauses ++ braces (Field.selection a.fields))) := rfl

theorem shaped_document (a : Aggregate) : Shaped a.document := by
  rw [document_eq]
  have hname := shaped_word_arguments a.className a.shaped_clauses
  exact shaped_braces (Shaped.append_braces (shaped_word _) (Shaped.append_braces hname
    (Field.shaped_selection a.fields)))

theorem legible_document {a : Aggregate} (h : a.Plain ok) :
    Legible ok a.document := by
  have hname := isFieldName_of_isName h.className
  have harguments := legible_arguments (legible_clauses h)
  have hselection : Legible ok (Field.selection a.fields) := Field.legible_selection h.fields
  simp +decide [document_eq, hname, harguments, hselection]

end Aggregate

namespace Explore

/-- What is searched for is plain. -/
def Plain (ok : FloatProperty) (e : Explore) : Prop := ∀ c ∈ e.similarity, c.Plain ok

theorem shaped_clauses (e : Explore) : ∀ d ∈ e.clauses, Shaped d := by
  simp [clauses, Get.numberClause]

theorem legible_clauses {e : Explore} (h : e.Plain ok) :
    ∀ d ∈ e.clauses, Legible ok d := by
  simp +decide [clauses, Get.numberClause]
  exact fun c hc => SimilarityClause.legible_document (h c hc)

theorem document_eq (e : Explore) : e.document = braces (.word "Explore" :: arguments e.clauses ++
    braces (spaced (e.fields.map fun f => [.word f.name]))) := rfl

theorem shaped_document (e : Explore) : Shaped e.document := by
  rw [document_eq]
  have hname := shaped_word_arguments "Explore" e.shaped_clauses
  exact shaped_braces (Shaped.append_braces hname (shaped_spaced (by simp)))

theorem legible_document {e : Explore} (h : e.Plain ok) :
    Legible ok e.document := by
  have harguments := legible_arguments (legible_clauses h)
  simp +decide [document_eq, harguments, isFieldName_of_isName, ExploreField.isName_name]

end Explore

end VectorQuery
