import VectorQuery.Proofs.Query.Contents

/-!
# Strings are confined to their literals

Whatever the strings of a query hold, its text is read without error, its brackets are properly
nested, and the string tokens are the strings that the clauses carry. Two queries that differ in
what their strings hold and in nothing else are read as the same tokens but for the strings.
-/

namespace VectorQuery

open Document Grammar

/-- Clauses that are alike but for their strings are alike in parentheses. -/
theorem Document.erased_arguments {ds es : List Document}
    (h : ds.map Document.erased = es.map Document.erased) :
    (arguments ds).erased = (arguments es).erased := by
  unfold arguments
  cases ds with
  | nil =>
    rw [List.map_nil, eq_comm, List.map_eq_nil_iff] at h
    rw [h]
  | cons d ds =>
    cases es with
    | nil => cases h
    | cons e es => simp only [erased_parens, erased_listed, h]

namespace Get

/-- The strings that a query carries, in the order of its clauses. -/
def contents (g : Get) : List String :=
  g.filter.toList.flatMap Filter.contents ++
    g.nearText.toList.flatMap NearText.contents ++
    g.nearVector.toList.flatMap NearVector.contents ++
    g.nearObject.toList.flatMap NearObject.contents ++
    (MediaKind.clauses g.nearMedia).flatMap NearMedia.contents ++
    g.sort.flatMap SortKey.path ++
    g.groupBy.toList.flatMap GroupBy.path ++
    g.after.toList ++
    g.bm25.toList.flatMap Bm25.contents ++
    g.hybrid.toList.flatMap Hybrid.contents ++
    g.tenant.toList

/-- A query with nothing in its strings. -/
def erased (g : Get) : Get :=
  { g with
    filter := g.filter.map Filter.erased
    nearText := g.nearText.map NearText.erased
    nearVector := g.nearVector.map NearVector.erased
    nearObject := g.nearObject.map NearObject.erased
    nearMedia := MediaKind.erased g.nearMedia
    sort := g.sort.map SortKey.erased
    groupBy := g.groupBy.map GroupBy.erased
    after := g.after.map erasedString
    bm25 := g.bm25.map Bm25.erased
    hybrid := g.hybrid.map Hybrid.erased
    tenant := g.tenant.map erasedString }

@[simp] theorem contents_numberClause (name : String) (n : Option UInt32) :
    (numberClause name n).toList.flatMap Document.contents = [] := by
  simp [numberClause]

@[simp] theorem contents_stringClause (name : String) (s : Option String) :
    (stringClause name s).toList.flatMap Document.contents = s.toList := by
  simp [stringClause]

@[simp] theorem erased_stringClause (name : String) (s : Option String) :
    (stringClause name (s.map erasedString)).map Document.erased =
      (stringClause name s).map Document.erased := by
  simp [stringClause, Function.comp_def]

theorem contents_clauses (g : Get) : g.clauses.flatMap Document.contents = g.contents := by
  simp [clauses, contents, List.flatMap_map, NearText.document, NearVector.document]

theorem erased_clauses (g : Get) :
    g.erased.clauses.map Document.erased = g.clauses.map Document.erased := by
  simp [clauses, erased, MediaKind.clauses_erased, NearText.document, NearVector.document,
    Function.comp_def]

theorem contents_classDocument {g : Get} (h : g.generative = none) :
    g.classDocument.contents = g.contents := by
  rw [← contents_clauses]
  unfold classDocument
  cases g.clauses <;> simp [selection_of_generative h]

theorem erased_classDocument (g : Get) :
    g.erased.classDocument.erased = g.classDocument.erased := by
  have hclauses := g.erased_clauses
  have hselection : g.erased.selection = g.selection := rfl
  have hname : g.erased.className = g.className := rfl
  unfold classDocument
  rw [hselection, hname]
  cases hg : g.clauses with
  | nil =>
    rw [hg, List.map_nil, List.map_eq_nil_iff] at hclauses
    rw [hclauses]
  | cons clause clauses =>
    cases hg' : g.erased.clauses with
    | nil =>
      rw [hg, hg'] at hclauses
      cases hclauses
    | cons clause' clauses' =>
      rw [hg, hg'] at hclauses
      simp only [erased_append, erased_cons, erased_parens, erased_listed, hclauses]

theorem contents_documentOf {queries : List Get} (h : ∀ g ∈ queries, g.generative = none) :
    (documentOf queries).contents = queries.flatMap contents := by
  simp only [documentOf, contents_braces, contents_cons, contents_word, contents_mark,
    contents_spaced, List.flatMap_map, List.nil_append]
  rw [List.flatMap_def, List.flatMap_def,
    List.map_congr_left fun g hg => contents_classDocument (h g hg)]

theorem erased_documentOf (queries : List Get) :
    (documentOf (queries.map erased)).erased = (documentOf queries).erased := by
  simp [documentOf, Function.comp_def, erased_classDocument]

end Get

namespace Aggregate

/-- The strings that a query carries, in the order of its clauses. -/
def contents (a : Aggregate) : List String :=
  a.filter.toList.flatMap Filter.contents ++
    a.groupBy ++
    a.nearText.toList.flatMap NearText.contents ++
    a.nearVector.toList.flatMap NearVector.contents ++
    a.nearObject.toList.flatMap NearObject.contents ++
    (MediaKind.clauses a.nearMedia).flatMap NearMedia.contents ++
    a.hybrid.toList.flatMap Hybrid.contents ++
    a.tenant.toList

/-- A query with nothing in its strings. -/
def erased (a : Aggregate) : Aggregate :=
  { a with
    filter := a.filter.map Filter.erased
    groupBy := a.groupBy.map erasedString
    nearText := a.nearText.map NearText.erased
    nearVector := a.nearVector.map NearVector.erased
    nearObject := a.nearObject.map NearObject.erased
    nearMedia := MediaKind.erased a.nearMedia
    hybrid := a.hybrid.map Hybrid.erased
    tenant := a.tenant.map erasedString }

theorem contents_clauses (a : Aggregate) : a.clauses.flatMap Document.contents = a.contents := by
  simp [clauses, contents, List.flatMap_map, NearText.document, NearVector.document]

theorem erased_clauses (a : Aggregate) :
    a.erased.clauses.map Document.erased = a.clauses.map Document.erased := by
  simp [clauses, erased, MediaKind.clauses_erased, NearText.document, NearVector.document,
    Function.comp_def]

theorem contents_document (a : Aggregate) : a.document.contents = a.contents := by
  have hclauses := a.contents_clauses
  rw [← hclauses, document_eq]
  unfold arguments
  cases a.clauses <;> simp

theorem erased_document (a : Aggregate) : a.erased.document.erased = a.document.erased := by
  have harguments := erased_arguments a.erased_clauses
  have hname : a.erased.className = a.className := rfl
  have hfields : a.erased.fields = a.fields := rfl
  simp [document_eq, harguments, hname, hfields]

end Aggregate

namespace Explore

/-- The strings that a query carries. -/
def contents (e : Explore) : List String := e.similarity.toList.flatMap SimilarityClause.contents

/-- A query with nothing in its strings. -/
def erased (e : Explore) : Explore :=
  { e with similarity := e.similarity.map SimilarityClause.erased }

theorem erased_clauses (e : Explore) :
    e.erased.clauses.map Document.erased = e.clauses.map Document.erased := by
  simp [clauses, erased, Function.comp_def]

theorem contents_document (e : Explore) : e.document.contents = e.contents := by
  have hclauses : e.clauses.flatMap Document.contents = e.contents := by simp [clauses, contents]
  rw [← hclauses, document_eq]
  unfold arguments
  cases e.clauses <;> simp [List.flatMap_map]

theorem erased_document (e : Explore) : e.erased.document.erased = e.document.erased := by
  have harguments := erased_arguments e.erased_clauses
  have hfields : e.erased.fields = e.fields := rfl
  simp [document_eq, harguments, hfields]

end Explore

/-! ## Queries -/

/-- The documents of some queries confine what the strings of the queries hold. -/
structure Confines {Query : Type} (plain : Query → Prop) (document : Query → Document)
    (contents : Query → List String) (erased : Query → Query) : Prop where
  /-- A text is read with the strings that its query carries. -/
  reads : ∀ q, plain q → ReadsWith (document q).text (contents q)
  /-- Queries that are alike but for what their strings hold are read alike but for the strings. -/
  erases : ∀ q r, plain q → plain r → erased q = erased r →
    (tokensOf (document q).text).map Token.erased = (tokensOf (document r).text).map Token.erased

theorem Confines.of_shaped {Query : Type} {plain : Query → Prop} {document : Query → Document}
    {contents : Query → List String} {erased : Query → Query}
    (hshaped : ∀ q, plain q → Shaped (document q))
    (hlegible : ∀ q, plain q → Legible .finite (document q))
    (hcontents : ∀ q, plain q → (document q).contents = contents q)
    (herased : ∀ q, (document (erased q)).erased = (document q).erased) :
    Confines plain document contents erased where
  reads q hq := by
    rw [← hcontents q hq]
    exact (hshaped q hq).readsWith (hlegible q hq)
  erases q r hq hr h := by
    refine (hshaped q hq).erased_tokensOf_text (hlegible q hq) (hshaped r hr) (hlegible r hr) ?_
    rw [← herased q, ← herased r, h]

/-- A query of a tenant for the objects near a vector that a filter selects. -/
def Get.ofTenant (tenant : String) : Get where
  className := "Pizza"
  fields := [⟨"name", []⟩]
  filter := some { operator := some .equal, path := ["na\\me"], value := some (.text ["\n"]) }
  nearVector := some { vector := [.zero] }
  tenant := some tenant

theorem Get.plain_ofTenant (tenant : String) : (ofTenant tenant).Plain .finite where
  generative := rfl
  className := (by decide : isName "Pizza" = true)
  fields := ⟨⟨by decide, trivial⟩, trivial⟩
  filter := by
    intro f hf
    cases hf
    rw [Filter.Plain]
    rintro v hv
    cases hv
    trivial
  nearText := by simp [ofTenant]
  nearVector := by
    intro c hc
    cases hc
    refine ⟨?_, by simp, by simp [SimilarityOptions.Plain, SimilarityOptions.effectiveTargets]⟩
    exact List.forall_mem_singleton.2
      (by decide : (Number.Binary.zero : Number.Single).isFinite = true)
  nearObject := by simp [ofTenant]
  nearMedia := by simp [ofTenant]
  hybrid := by simp [ofTenant]

end VectorQuery
