import VectorQuery.Proofs.Query.FilterText
import VectorQuery.Proofs.Query.SimilarityText

/-!
# The text of a get query determines its message

Queries are written as documents and as messages. Two queries with the same text ask for the same:
the text is read as tokens, the tokens are grouped into trees, every clause is found among the trees
by its name, and what a clause is written with determines its part of the message.
-/

namespace VectorQuery

open Number Document Grammar

variable {ok : FloatProperty}

namespace MediaKind

/-- The names of the media clauses. -/
def clauseNames : List String := all.map clauseName

theorem clauseName_mem (kind : MediaKind) : kind.clauseName ∈ clauseNames := by
  cases kind <;> decide

/-- The arguments that media clauses are. -/
def entriesOf (media : List NearMedia) : List (String × TokenTree) :=
  media.map fun c => (c.kind.clauseName, c.document.value)

/-- Media clauses with the same text have the same messages, in their order. -/
theorem messages_eq (hok : ok.ExcludesNaN) {xs ys : List NearMedia}
    (hx : ∀ c ∈ xs, c.options.Plain ok) (hy : ∀ c ∈ ys, c.options.Plain ok)
    (h : entriesOf xs = entriesOf ys) : xs.map NearMedia.message = ys.map NearMedia.message := by
  refine map_eq_map_of_map_eq (fun c hc d hd hcd => ?_) h
  rw [Prod.mk.injEq] at hcd
  exact NearMedia.message_eq hok (clauseName_injective hcd.1) (hx c hc) (hy d hd) hcd.2

theorem plain_of_mem_clauses {nearMedia : MediaKind → Option NearMedia}
    (h : ∀ kind, ∀ c ∈ nearMedia kind, c.options.Plain ok) :
    ∀ c ∈ clauses nearMedia, c.options.Plain ok := by
  intro c hc
  obtain ⟨kind, -, hkind⟩ := List.mem_filterMap.1 hc
  exact h kind c hkind

end MediaKind

namespace Get

/-! ## The clauses of a query -/

/-- The arguments in front of the media clauses. -/
def frontEntries (g : Get) : List (String × TokenTree) :=
  (g.filter.map fun f => ("where", f.document.value)).toList ++
  ((g.nearText.map fun c => ("nearText", c.body.tree)).toList ++
  ((g.nearVector.map fun c => ("nearVector", c.body.tree)).toList ++
  (g.nearObject.map fun c => ("nearObject", c.document.value)).toList))

/-- The arguments behind the media clauses. -/
def backEntries (g : Get) : List (String × TokenTree) :=
  (g.limit.map fun n => ("limit", tree [.integer n.toNat])).toList ++
  ((g.offset.map fun n => ("offset", tree [.integer n.toNat])).toList ++
  ((if g.sort.isEmpty then [] else [("sort", (SortKey.document g.sort).value)]) ++
  ((g.groupBy.map fun c => ("groupBy", c.document.value)).toList ++
  ((g.autocut.map fun n => ("autocut", tree [.integer n.toNat])).toList ++
  ((g.after.map fun s => ("after", tree [.quoted s])).toList ++
  ((g.bm25.map fun c => ("bm25", c.document.value)).toList ++
  ((g.hybrid.map fun c => ("hybrid", c.document.value)).toList ++
  ((g.tenant.map fun s => ("tenant", tree [.quoted s])).toList ++
  (g.consistencyLevel.map fun l => ("consistencyLevel", tree [.word l.name])).toList))))))))

theorem argumentsOf_clauses (g : Get) : argumentsOf (g.clauses.flatMap trees) =
    g.frontEntries ++ (MediaKind.entriesOf (MediaKind.clauses g.nearMedia) ++ g.backEntries) := by
  have hfront : entries [g.filter.map Filter.document, g.nearText.map NearText.document,
      g.nearVector.map NearVector.document, g.nearObject.map NearObject.document] =
        g.frontEntries := by
    rw [entries_map Filter.isArgument_document, entries_map NearText.isArgument_document,
      entries_map NearVector.isArgument_document, entries_map NearObject.isArgument_document]
    simp +decide [frontEntries, NearText.document, NearVector.document]
  have harguments : ∀ d ∈ given [g.filter.map Filter.document, g.nearText.map NearText.document,
      g.nearVector.map NearVector.document, g.nearObject.map NearObject.document],
        ∃ name, IsArgument name d := by
    simp only [forall_mem_given_cons, whenGiven_map, given_nil, List.not_mem_nil, false_implies,
      implies_true, and_true]
    exact ⟨fun f _ => ⟨_, f.isArgument_document⟩, fun c _ => ⟨_, c.isArgument_document⟩,
      fun c _ => ⟨_, c.isArgument_document⟩, fun c _ => ⟨_, c.isArgument_document⟩⟩
  have hmedia : ∀ d ∈ (MediaKind.clauses g.nearMedia).map NearMedia.document,
      ∃ name, IsArgument name d :=
    List.forall_mem_map.2 fun c _ => ⟨_, c.isArgument_document⟩
  have hentries : argumentsOf (((MediaKind.clauses g.nearMedia).map NearMedia.document).flatMap
      trees) = MediaKind.entriesOf (MediaKind.clauses g.nearMedia) := by
    rw [List.flatMap_map]
    exact argumentsOf_flatMap fun c _ => c.isArgument_document
  have hback : entries [numberClause "limit" g.limit, numberClause "offset" g.offset,
      unlessEmpty g.sort (SortKey.document g.sort), g.groupBy.map GroupBy.document,
      numberClause "autocut" g.autocut, stringClause "after" g.after, g.bm25.map Bm25.document,
      g.hybrid.map Hybrid.document, stringClause "tenant" g.tenant,
      g.consistencyLevel.map fun level => field "consistencyLevel" [.word level.name]] =
        g.backEntries := by
    unfold numberClause stringClause
    simp +decide only [entries_map_field, isValue_integer, isValue_quoted, implies_true,
      entries_unlessEmpty (SortKey.isArgument_document _),
      entries_map GroupBy.isArgument_document, entries_map Bm25.isArgument_document,
      entries_map Hybrid.isArgument_document, isValue_word, ConsistencyLevel.isName_name,
      entries_nil, List.append_nil, backEntries]
  rw [clauses, List.flatMap_append, List.flatMap_append, List.append_assoc,
    argumentsOf_append harguments, argumentsOf_append hmedia, hentries]
  rw [← hfront, ← hback]
  rfl

theorem lookup_clauses {k : String} (hk : k ∉ MediaKind.clauseNames) (g : Get) :
    (argumentsOf (g.clauses.flatMap trees)).lookup k =
      (g.frontEntries ++ g.backEntries).lookup k := by
  have hmedia : (MediaKind.entriesOf (MediaKind.clauses g.nearMedia)).lookup k = none := by
    refine List.lookup_eq_none_iff.2 (List.forall_mem_map.2 fun c _ => ?_)
    have hne : k ≠ c.kind.clauseName := fun heq => hk (heq ▸ MediaKind.clauseName_mem c.kind)
    simpa using hne
  rw [argumentsOf_clauses, List.lookup_append, List.lookup_append, List.lookup_append, hmedia,
    Option.none_or]

/-- Whether an argument is a media clause. -/
def isMediaEntry (e : String × TokenTree) : Bool := MediaKind.clauseNames.contains e.1

theorem filter_front (g : Get) : g.frontEntries.filter isMediaEntry = [] := by
  simp +decide [frontEntries, List.filter_append, filter_toList, isMediaEntry]

theorem filter_back (g : Get) : g.backEntries.filter isMediaEntry = [] := by
  simp +decide [backEntries, List.filter_append, filter_toList, filter_ite, isMediaEntry]

theorem filter_media (media : List NearMedia) :
    (MediaKind.entriesOf media).filter isMediaEntry = MediaKind.entriesOf media := by
  refine List.filter_eq_self.2 (List.forall_mem_map.2 fun c _ => ?_)
  simpa [isMediaEntry] using MediaKind.clauseName_mem c.kind

theorem uint32_eq {o o' : Option UInt32}
    (h : (o.map fun n => tree [.integer n.toNat]) = o'.map fun n => tree [.integer n.toNat]) :
    o = o' :=
  option_eq_of_map_eq (fun _ _ _ _ heq => UInt32.toNat_inj.1 (Int.ofNat.inj (integer_inj heq))) h

theorem quoted_eq {o o' : Option String}
    (h : (o.map fun s => tree [.quoted s]) = o'.map fun s => tree [.quoted s]) : o = o' :=
  option_eq_of_map_eq (fun _ _ _ _ heq => by simpa using heq) h

/-- Queries with the same class, selection and clauses in their text have the same message. -/
theorem message_eq (hok : ok.ExcludesNaN) {a b : Get} (ha : a.Plain ok) (hb : b.Plain ok)
    (hclass : a.className = b.className)
    (hselection : Field.treesOf a.fields = Field.treesOf b.fields)
    (hclauses : a.clauses.flatMap trees = b.clauses.flatMap trees) : a.message = b.message := by
  have harguments := congrArg argumentsOf hclauses
  -- media are the only clauses whose number is not fixed, so other keys are looked up without them
  have hkey : ∀ k ∉ MediaKind.clauseNames, (a.frontEntries ++ a.backEntries).lookup k =
      (b.frontEntries ++ b.backEntries).lookup k := by
    intro k hk
    rw [← lookup_clauses hk, ← lookup_clauses hk, harguments]
  have hfields := Field.eq_of_treesOf_eq _ _ hselection
  have hfilter : a.filter.map Filter.message = b.filter.map Filter.message := by
    refine option_map_eq_of_map_eq (f := fun f => f.document.value) (fun f hf f' hf' =>
      Filter.message_eq_of_value_eq hok (ha.filter f hf) (hb.filter f' hf')) ?_
    simpa [frontEntries, backEntries] using hkey "where" (by decide)
  have hnearText : a.nearText.map NearText.message = b.nearText.map NearText.message := by
    refine option_map_eq_of_map_eq (f := fun c => c.body.tree) (fun c hc d hd =>
      NearText.message_eq hok (ha.nearText c hc) (hb.nearText d hd)) ?_
    simpa [frontEntries, backEntries] using hkey "nearText" (by decide)
  have hnearVector : a.nearVector.map NearVector.message = b.nearVector.map NearVector.message := by
    refine option_map_eq_of_map_eq (f := fun c => c.body.tree) (fun c hc d hd =>
      NearVector.message_eq hok (ha.nearVector c hc) (hb.nearVector d hd)) ?_
    simpa [frontEntries, backEntries] using hkey "nearVector" (by decide)
  have hnearObject : a.nearObject.map NearObject.message = b.nearObject.map NearObject.message := by
    refine option_map_eq_of_map_eq (f := fun c => c.document.value) (fun c hc d hd =>
      NearObject.message_eq hok (ha.nearObject c hc) (hb.nearObject d hd)) ?_
    simpa [frontEntries, backEntries] using hkey "nearObject" (by decide)
  have hmedia : (MediaKind.clauses a.nearMedia).map NearMedia.message =
      (MediaKind.clauses b.nearMedia).map NearMedia.message := by
    refine MediaKind.messages_eq hok (MediaKind.plain_of_mem_clauses ha.nearMedia)
      (MediaKind.plain_of_mem_clauses hb.nearMedia) ?_
    rw [argumentsOf_clauses, argumentsOf_clauses] at harguments
    simpa [List.filter_append, filter_front, filter_back, filter_media] using
      congrArg (List.filter isMediaEntry) harguments
  have hlimit : a.limit = b.limit := by
    refine uint32_eq ?_
    simpa [frontEntries, backEntries] using hkey "limit" (by decide)
  have hoffset : a.offset = b.offset := by
    refine uint32_eq ?_
    simpa [frontEntries, backEntries] using hkey "offset" (by decide)
  have hsort : a.sort = b.sort := by
    refine eq_of_unlessEmpty_eq (f := fun keys => (SortKey.document keys).value)
      SortKey.eq_of_value_eq ?_
    simpa [frontEntries, backEntries] using hkey "sort" (by decide)
  have hgroupBy : a.groupBy = b.groupBy := by
    refine option_eq_of_map_eq (f := fun c => c.document.value)
      (fun _ _ _ _ => GroupBy.eq_of_value_eq) ?_
    simpa [frontEntries, backEntries] using hkey "groupBy" (by decide)
  have hautocut : a.autocut = b.autocut := by
    refine uint32_eq ?_
    simpa [frontEntries, backEntries] using hkey "autocut" (by decide)
  have hafter : a.after = b.after := by
    refine quoted_eq ?_
    simpa [frontEntries, backEntries] using hkey "after" (by decide)
  have hbm25 : a.bm25.map Bm25.message = b.bm25.map Bm25.message := by
    refine option_map_eq_of_map_eq (f := fun c => c.document.value)
      (fun _ _ _ _ => Bm25.message_eq) ?_
    simpa [frontEntries, backEntries] using hkey "bm25" (by decide)
  have hhybrid : a.hybrid.map Hybrid.message = b.hybrid.map Hybrid.message := by
    refine option_map_eq_of_map_eq (f := fun c => c.document.value) (fun c hc d hd =>
      Hybrid.message_eq hok (ha.hybrid c hc) (hb.hybrid d hd)) ?_
    simpa [frontEntries, backEntries] using hkey "hybrid" (by decide)
  have htenant : a.tenant = b.tenant := by
    refine quoted_eq ?_
    simpa [frontEntries, backEntries] using hkey "tenant" (by decide)
  have hlevel : a.consistencyLevel = b.consistencyLevel := by
    refine optional_word_inj ConsistencyLevel.isName_name ConsistencyLevel.name_injective ?_
    simpa [frontEntries, backEntries] using hkey "consistencyLevel" (by decide)
  simp only [message, hclass, htenant, hlevel, hfields, hgroupBy, hlimit, hoffset, hautocut, hafter,
    hsort, hfilter, hnearText, hnearVector, hnearObject, hmedia, hbm25, hhybrid, ha.generative,
    hb.generative]

/-! ## Queries -/

/-- The group of the clauses, if there are any. -/
def clauseTrees (g : Get) : List TokenTree :=
  match g.clauses with
  | [] => []
  | clauses => [.node '(' (clauses.flatMap trees)]

theorem trees_classDocument {g : Get} (h : g.Plain ok) : g.classDocument.trees =
    .leaf (.name g.className) :: (g.clauseTrees ++ [.node '{' (Field.treesOf g.fields)]) := by
  have hselection : (braces g.selection).trees = [.node '{' (Field.treesOf g.fields)] := by
    rw [selection_of_generative h.generative, trees_braces (Field.shaped_selection g.fields),
      Field.trees_selection]
  have hshaped : Shaped (braces g.selection) := by
    rw [selection_of_generative h.generative]
    exact shaped_braces (Field.shaped_selection g.fields)
  have hclauses := g.shaped_clauses
  unfold classDocument clauseTrees
  cases hc : g.clauses with
  | nil => simp only [trees_word_blank h.className hshaped, hselection, List.nil_append]
  | cons clause clauses =>
    rw [hc] at hclauses
    have hparens : Shaped (parens (listed (clause :: clauses))) :=
      Shaped.append_parens .nil (shaped_listed hclauses)
    have htrees := trees_append_parens .nil (shaped_listed hclauses)
    rw [trees_listed hclauses] at htrees
    have hrest := trees_separated (c := ' ') (by decide) hparens hshaped
    rw [hselection] at hrest
    refine (trees_word_blank h.className (.separated (by decide) hparens hshaped)).trans ?_
    rw [hrest]
    exact congrArg (fun us => _ :: (us ++ _)) htrees

/-- The class, the clauses and the selection are determined by the text, and so is where the query
ends. -/
theorem classTrees_append_inj {a b : Get} {us vs : List TokenTree}
    (h : .leaf (.name a.className) :: (a.clauseTrees ++ [.node '{' (Field.treesOf a.fields)]) ++
      us =
        .leaf (.name b.className) :: (b.clauseTrees ++ [.node '{' (Field.treesOf b.fields)]) ++
          vs) :
    a.className = b.className ∧ a.clauses.flatMap trees = b.clauses.flatMap trees ∧
      Field.treesOf a.fields = Field.treesOf b.fields ∧ us = vs := by
  unfold clauseTrees at h
  cases ha : a.clauses with
  | nil =>
    cases hb : b.clauses with
    | nil => simpa [ha, hb] using h
    | cons clause clauses => simp [ha, hb] at h
  | cons clause clauses =>
    cases hb : b.clauses with
    | nil => simp [ha, hb] at h
    | cons clause' clauses' => simpa [ha, hb] using h

/-- Queries of the same text, one by one. -/
theorem messages_eq (hok : ok.ExcludesNaN) {as bs : List Get} (ha : ∀ g ∈ as, g.Plain ok)
    (hb : ∀ g ∈ bs, g.Plain ok)
    (h : (as.map classDocument).flatMap trees = (bs.map classDocument).flatMap trees) :
    as.map message = bs.map message := by
  induction as generalizing bs with
  | nil =>
    cases bs with
    | nil => rfl
    | cons b bs =>
      rw [List.map_cons, List.flatMap_cons, trees_classDocument (hb b (by simp))] at h
      cases h
  | cons a as ih =>
    cases bs with
    | nil =>
      rw [List.map_cons, List.flatMap_cons, trees_classDocument (ha a (by simp))] at h
      cases h
    | cons b bs =>
      rw [List.map_cons, List.flatMap_cons, List.map_cons, List.flatMap_cons,
        trees_classDocument (ha a (by simp)), trees_classDocument (hb b (by simp))] at h
      obtain ⟨hclass, hclauses, hselection, hrest⟩ := classTrees_append_inj h
      rw [List.map_cons, List.map_cons,
        message_eq hok (ha a (by simp)) (hb b (by simp)) hclass hselection hclauses,
        ih (fun g hg => ha g (by simp [hg])) (fun g hg => hb g (by simp [hg])) hrest]

theorem trees_documentOf {queries : List Get} (h : ∀ g ∈ queries, g.Plain ok) :
    (documentOf queries).trees = [.node '{' [.leaf (.name "Get"),
      .node '{' ((queries.map classDocument).flatMap trees)]] := by
  have hqueries : ∀ d ∈ queries.map classDocument, Shaped d :=
    List.forall_mem_map.2 fun g hg => shaped_classDocument (h g hg).generative
  have hbraces : Shaped (braces (spaced (queries.map classDocument))) :=
    shaped_braces (shaped_spaced hqueries)
  rw [documentOf, trees_braces (.word_separated (by decide) hbraces),
    trees_word_blank (by decide) hbraces, trees_braces (shaped_spaced hqueries),
    trees_spaced hqueries]

theorem messages_eq_of_text_eq (hok : ok.ExcludesNaN) {as bs : List Get}
    (ha : ∀ g ∈ as, g.Plain ok) (hb : ∀ g ∈ bs, g.Plain ok)
    (h : (documentOf as).text = (documentOf bs).text) : as.map message = bs.map message := by
  have htokens := congrArg tokensOf h
  rw [(shaped_documentOf fun g hg => (ha g hg).generative).tokensOf_text hok
      (legible_documentOf ha),
    (shaped_documentOf fun g hg => (hb g hg).generative).tokensOf_text hok
      (legible_documentOf hb)] at htokens
  have htrees : (documentOf as).trees = (documentOf bs).trees := by
    rw [trees, trees, htokens]
  rw [trees_documentOf ha, trees_documentOf hb] at htrees
  simp only [List.cons.injEq, TokenTree.node.injEq, true_and, and_true] at htrees
  exact messages_eq hok ha hb htrees

/-- A number that is a number. -/
def notNaN : FloatProperty := fun _ x => x.isNaN = false

theorem notNaN_excludesNaN : notNaN.ExcludesNaN := fun _ _ h => h

/-- The text of a query determines its message, and the text of several queries in one document
determines their messages: whatever clauses are set and whatever their strings hold, as long as
nothing is generated, the names are names of the query language and no number is NaN. -/
theorem text_determines_message :
    (∀ a b : Get, a.Plain notNaN → b.Plain notNaN → a.document.text = b.document.text →
      a.message = b.message) ∧
    (∀ as bs : List Get, (∀ g ∈ as, g.Plain notNaN) → (∀ g ∈ bs, g.Plain notNaN) →
      (documentOf as).text = (documentOf bs).text → as.map message = bs.map message) := by
  have hlists : ∀ as bs : List Get, (∀ g ∈ as, g.Plain notNaN) → (∀ g ∈ bs, g.Plain notNaN) →
      (documentOf as).text = (documentOf bs).text → as.map message = bs.map message :=
    fun as bs ha hb h => messages_eq_of_text_eq notNaN_excludesNaN ha hb h
  refine ⟨fun a b ha hb h => ?_, hlists⟩
  rw [document_eq_documentOf, document_eq_documentOf] at h
  have hmessages := hlists [a] [b] (List.forall_mem_singleton.2 ha)
    (List.forall_mem_singleton.2 hb) h
  simpa using hmessages

/-- A query for the objects near a vector that hold all words of a text. -/
def allWords (minimum : Option Int32) : Get where
  className := "Pizza"
  fields := [⟨"name", []⟩]
  nearVector := some { vector := [.zero, .infinite true] }
  bm25 := some { query := "\"\x7d", searchOperator := some { all := true, minimum } }

theorem plain_allWords (minimum : Option Int32) : (allWords minimum).Plain notNaN where
  generative := rfl
  className := (by decide : isName "Pizza" = true)
  fields := ⟨⟨by decide, trivial⟩, trivial⟩
  filter := by simp [allWords]
  nearText := by simp [allWords]
  nearVector := by
    intro c hc
    cases hc
    refine ⟨?_, by simp, by simp [SimilarityOptions.Plain, SimilarityOptions.effectiveTargets]⟩
    exact List.forall_mem_cons.2 ⟨(by decide : (Binary.zero : Single).isNaN = false),
      List.forall_mem_singleton.2 (by decide : (Binary.infinite true : Single).isNaN = false)⟩
  nearObject := by simp [allWords]
  nearMedia := by simp [allWords]
  hybrid := by simp [allWords]

/-- Where all words must be found their least number has no meaning, so two queries that differ in
it alone have the same text. -/
theorem text_determines_message_allWords :
    (allWords none).document.text = (allWords (some 2)).document.text ∧
    (allWords none).message = (allWords (some 2)).message ∧
    [allWords none, allWords (some 1)].map message =
      [allWords (some 2), allWords none].map message := by
  have hdocument : ∀ minimum, (allWords minimum).classDocument = (allWords none).classDocument :=
    fun _ => rfl
  have htext : (allWords none).document.text = (allWords (some 2)).document.text := by
    rw [document, document, hdocument (some 2)]
  refine ⟨htext, text_determines_message.1 _ _ (plain_allWords _) (plain_allWords _) htext,
    text_determines_message.2 _ _ (by simp [plain_allWords]) (by simp [plain_allWords]) ?_⟩
  simp only [documentOf, List.map_cons, List.map_nil, hdocument (some 1), hdocument (some 2)]

end Get

end VectorQuery
