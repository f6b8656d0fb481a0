import VectorQuery.Proofs.Query.ClauseText

/-!
# What the text of a similarity clause determines

The options of all similarity clauses are found among the arguments in the same way: a threshold
under its own name, and either a combination of targets or plain names of targets.
-/

namespace VectorQuery

open Number Document Grammar

variable {ok : FloatProperty}

/-! ## Combinations of targets -/

namespace TargetWeight

@[simp] theorem isValue_document (w : TargetWeight) : IsValue w.document := by
  cases w <;> simp [document]

/-- A single weight and a list of weights are told apart by the brackets. -/
theorem values_eq {v w : TargetWeight} (hv : ∀ x ∈ v.values, x.isNaN = false)
    (hw : ∀ x ∈ w.values, x.isNaN = false) (h : v.document.tree = w.document.tree) :
    v.values = w.values := by
  cases v with
  | single x =>
    cases w with
    | single y => rw [single_inj (hv x (by simp [values])) (hw y (by simp [values])) h]
    | multi ys => simp [document] at h
  | multi xs =>
    cases w with
    | single y => simp [document] at h
    | multi ys => exact singles_inj hv hw h

end TargetWeight

namespace Combination

@[simp] theorem isValue_weightsDocument (c : Combination) : IsValue c.weightsDocument :=
  isValue_braces (shaped_spaced c.shaped_weights)

theorem isArgument_document (c : Combination) : IsArgument "targets" c.document := by
  rw [document_eq]
  exact isArgument_entry (by decide) (isValue_braces (shaped_spaced
    (by simp [c.isValue_weightsDocument.1])))

theorem arguments_document (c : Combination) : c.document.value.arguments =
    (c.method.map fun method => ("combinationMethod", tree [.word method.name])).toList ++
      ("targetVectors", tree (strings c.targetVectors)) ::
        if c.weights.isEmpty then [] else [("weights", c.weightsDocument.tree)] := by
  rw [document_eq, arguments_entry_spaced (by decide) (by simp [c.isValue_weightsDocument.1])]
  simp +decide [CombinationMethod.isName_name]

theorem arguments_weights {c : Combination} (h : c.Plain ok) : c.weightsDocument.tree.arguments =
    (c.targetVectors.zip c.weights).map fun p => (p.1, p.2.document.tree) := by
  have hargument : ∀ p ∈ c.targetVectors.zip c.weights,
      IsArgument p.1 (field p.1 p.2.document) :=
    fun p hp => isArgument_field (h p hp).1 (by simp)
  rw [weightsDocument, tree_braces (shaped_spaced c.shaped_weights),
    trees_spaced c.shaped_weights, List.flatMap_map]
  refine (argumentsOf_flatMap hargument).trans ?_
  refine List.map_congr_left fun p hp => ?_
  rw [value_field (h p hp).1 (by simp)]

/-- Combinations with the same text have the same message: the text shows every target with its
weights, and whether there are weights at all. -/
theorem message_eq (hok : ok.ExcludesNaN) {a b : Combination} (ha : a.Plain ok) (hb : b.Plain ok)
    (h : a.document.value = b.document.value) : a.message = b.message := by
  have harguments := congrArg TokenTree.arguments h
  rw [arguments_document, arguments_document] at harguments
  have hmethod : a.method = b.method := by
    refine optional_word_inj CombinationMethod.isName_name CombinationMethod.name_injective ?_
    simpa using congrArg (List.lookup "combinationMethod") harguments
  have hnames : a.targetVectors = b.targetVectors := by
    refine strings_inj ?_
    simpa using congrArg (List.lookup "targetVectors") harguments
  have hweights : (if a.weights.isEmpty then none else some a.weightsDocument.tree) =
      if b.weights.isEmpty then none else some b.weightsDocument.tree := by
    simpa using congrArg (List.lookup "weights") harguments
  cases haw : a.weights.isEmpty with
  | true =>
    cases hbw : b.weights.isEmpty with
    | true => simp [message, haw, hbw, hmethod, hnames]
    | false => simp [haw, hbw] at hweights
  | false =>
    cases hbw : b.weights.isEmpty with
    | true => simp [haw, hbw] at hweights
    | false =>
      have hexpanded : a.expanded = b.expanded := by
        simp only [haw, hbw] at hweights
        have hpairs := congrArg TokenTree.arguments (Option.some.inj hweights)
        rw [arguments_weights ha, arguments_weights hb] at hpairs
        have hvalues := map_eq_map_of_map_eq
          (g := fun p : String × TargetWeight => p.2.values.map fun v => (p.1, v))
          (fun p hp q hq hpq => by
            simp only [Prod.mk.injEq] at hpq
            rw [hpq.1, TargetWeight.values_eq (fun x hx => hok _ x ((ha p hp).2 x hx))
              (fun x hx => hok _ x ((hb q hq).2 x hx)) hpq.2]) hpairs
        simpa [expanded, List.flatMap_def] using congrArg List.flatten hvalues
      simp [message, haw, hbw, hmethod, hexpanded]

end Combination

/-! ## Options -/

namespace SimilarityOptions

@[simp] theorem entries_threshold (o : SimilarityOptions) (parts : List (Option Document)) :
    entries (o.thresholdDocument :: parts) =
      (o.certainty.map fun x => ("certainty", tree [.single x])).toList ++
        ((o.distance.map fun x => ("distance", tree [.single x])).toList ++ entries parts) := by
  unfold thresholdDocument certainty distance
  rcases o.threshold with _ | ⟨x⟩ | ⟨x⟩ <;> simp +decide [Threshold.document]

@[simp] theorem entries_targets (o : SimilarityOptions) (parts : List (Option Document)) :
    entries (o.targetsDocument :: parts) =
      (o.effectiveTargets.map fun c => ("targets", c.document.value)).toList ++
        ((if o.messageTargetVectors.isEmpty then []
          else [("targetVectors", tree (strings o.messageTargetVectors))]) ++ entries parts) := by
  unfold targetsDocument messageTargetVectors
  cases o.effectiveTargets with
  | none => simp +decide
  | some c => simp [entries_some c.isArgument_document]

/-- Thresholds with the same arguments are the same. -/
theorem threshold_eq (hok : ok.ExcludesNaN) {a b : SimilarityOptions} (ha : a.Plain ok)
    (hb : b.Plain ok)
    (hcertainty : (a.certainty.map fun x => tree [.single x]) =
      b.certainty.map fun x => tree [.single x])
    (hdistance : (a.distance.map fun x => tree [.single x]) =
      b.distance.map fun x => tree [.single x]) :
    a.certainty = b.certainty ∧ a.distance = b.distance := by
  have hcertain : ∀ {o : SimilarityOptions}, o.Plain ok → ∀ x ∈ o.certainty, x.isNaN = false := by
    intro o ho x hx
    unfold certainty at hx
    split at hx
    · rename_i y hy
      cases hx
      exact hok _ _ (ho.1 _ hy)
    · cases hx
  have hdistant : ∀ {o : SimilarityOptions}, o.Plain ok → ∀ x ∈ o.distance, x.isNaN = false := by
    intro o ho x hx
    unfold distance at hx
    split at hx
    · rename_i y hy
      cases hx
      exact hok _ _ (ho.1 _ hy)
    · cases hx
  exact ⟨optional_single_inj (hcertain ha) (hcertain hb) hcertainty,
    optional_single_inj (hdistant ha) (hdistant hb) hdistance⟩

/-- Targets with the same arguments are the same in messages. -/
theorem targets_eq (hok : ok.ExcludesNaN) {a b : SimilarityOptions}
    (ha : ∀ c ∈ a.effectiveTargets, c.Plain ok) (hb : ∀ c ∈ b.effectiveTargets, c.Plain ok)
    (htargets : (a.effectiveTargets.map fun c => c.document.value) =
      b.effectiveTargets.map fun c => c.document.value)
    (hnames : (if a.messageTargetVectors.isEmpty then none
        else some (tree (strings a.messageTargetVectors))) =
      if b.messageTargetVectors.isEmpty then none
        else some (tree (strings b.messageTargetVectors))) :
    a.messageTargetVectors = b.messageTargetVectors ∧ a.messageTargets = b.messageTargets :=
  ⟨optional_strings_inj hnames,
    option_map_eq_of_map_eq (fun x hx y hy => Combination.message_eq hok (ha x hx) (hb y hy))
      htargets⟩

end SimilarityOptions

/-! ## Search near concepts -/

/-- A string that is left out when it is empty is determined by what is written of it. -/
theorem string_eq_of_unlessEmpty_eq {s t : String}
    (h : (if s.toList.isEmpty then none else some (tree [.quoted s])) =
      if t.toList.isEmpty then none else some (tree [.quoted t])) : s = t := by
  refine String.toList_inj.1 (eq_of_unlessEmpty_eq
    (f := fun cs => tree [.quoted (String.ofList cs)]) (fun heq => ?_) (by simpa using h))
  exact String.toList_inj.2 (by simpa using heq)

namespace MoveObject

@[simp] theorem isValue_document (o : MoveObject) : IsValue o.document :=
  isValue_braces (shaped_spaced (by simp))

theorem arguments_document (o : MoveObject) : o.document.tree.arguments =
    (if o.id.toList.isEmpty then [] else [("id", tree [.quoted o.id])]) ++
      if o.beacon.toList.isEmpty then [] else [("beacon", tree [.quoted o.beacon])] := by
  rw [document, arguments_spaced _ (by simp)]
  simp +decide

theorem eq_of_tree_eq {a b : MoveObject} (h : a.document.tree = b.document.tree) : a = b := by
  have harguments := congrArg TokenTree.arguments h
  rw [arguments_document, arguments_document] at harguments
  have hid : a.id = b.id := by
    refine string_eq_of_unlessEmpty_eq ?_
    simpa using congrArg (List.lookup "id") harguments
  have hbeacon : a.beacon = b.beacon := by
    refine string_eq_of_unlessEmpty_eq ?_
    simpa using congrArg (List.lookup "beacon") harguments
  cases a
  cases b
  simp_all

end MoveObject

namespace Move

/-- The objects of a move in a document. -/
theorem tree_objects (m : Move) : tree (brackets (listed (m.objects.map MoveObject.document))) =
    .node '[' (m.objects.map fun o => o.document.tree) := by
  have hshaped : ∀ d ∈ m.objects.map MoveObject.document, Shaped d := by simp
  rw [tree_brackets (shaped_listed hshaped), trees_listed hshaped, List.flatMap_map,
    List.map_eq_flatMap]
  simp only [(MoveObject.isValue_document _).trees_eq]

@[simp] theorem shaped_objects (m : Move) :
    Shaped (listed (m.objects.map MoveObject.document)) := shaped_listed (by simp)

@[simp] theorem isValue_document (m : Move) : IsValue m.document :=
  isValue_braces (shaped_spaced (by simp))

theorem arguments_document (m : Move) : m.document.tree.arguments =
    (if m.concepts.isEmpty then [] else [("concepts", tree (strings m.concepts))]) ++
      ((if m.objects.isEmpty then []
          else [("objects", .node '[' (m.objects.map fun o => o.document.tree))]) ++
        [("force", tree [.single m.force])]) := by
  rw [document, arguments_spaced _ (by simp), ← tree_objects]
  simp +decide [-tree_brackets]

theorem eq_of_tree_eq {a b : Move} (ha : a.force.isNaN = false) (hb : b.force.isNaN = false)
    (h : a.document.tree = b.document.tree) : a = b := by
  have harguments := congrArg TokenTree.arguments h
  rw [arguments_document, arguments_document] at harguments
  have hconcepts : a.concepts = b.concepts := by
    refine optional_strings_inj ?_
    simpa using congrArg (List.lookup "concepts") harguments
  have hobjects : a.objects = b.objects := by
    refine eq_of_unlessEmpty_eq
      (f := fun os : List MoveObject => TokenTree.node '[' (os.map fun o => o.document.tree))
      (fun heq => ?_) ?_
    · rw [TokenTree.node.injEq] at heq
      simpa using map_eq_map_of_map_eq (g := id) (fun _ _ _ _ => MoveObject.eq_of_tree_eq) heq.2
    · simpa using congrArg (List.lookup "objects") harguments
  have hforce : a.force = b.force := by
    refine single_inj ha hb ?_
    simpa using congrArg (List.lookup "force") harguments
  cases a
  cases b
  simp_all

end Move

namespace NearText

@[simp] theorem isValue_body (c : NearText) : IsValue c.body :=
  isValue_braces (shaped_spaced (by simp))

theorem isArgument_document (c : NearText) : IsArgument "nearText" c.document :=
  isArgument_entry (by decide) c.isValue_body

theorem arguments_body (c : NearText) : c.body.tree.arguments =
    ("concepts", tree (strings c.concepts)) ::
      entries [c.options.thresholdDocument,
        c.moveTo.map fun m => field "moveTo" m.document,
        c.moveAwayFrom.map fun m => field "moveAwayFrom" m.document,
        c.autocorrect.map fun b => field "autocorrect" [.bool b],
        c.options.targetsDocument] := by
  rw [body, arguments_spaced _ (by simp)]
  exact entries_field (by decide) (isValue_strings _)

theorem message_eq (hok : ok.ExcludesNaN) {a b : NearText} (ha : a.Plain ok) (hb : b.Plain ok)
    (h : a.body.tree = b.body.tree) : a.message = b.message := by
  have harguments := congrArg TokenTree.arguments h
  rw [arguments_body, arguments_body] at harguments
  simp +decide only [SimilarityOptions.entries_threshold, SimilarityOptions.entries_targets,
    entries_map_field, entries_nil, Move.isValue_document, isValue_bool, implies_true] at harguments
  have hconcepts : a.concepts = b.concepts := by
    refine strings_inj ?_
    simpa using congrArg (List.lookup "concepts") harguments
  have hto : a.moveTo = b.moveTo := by
    refine option_eq_of_map_eq (f := fun m => m.document.tree) (fun m hm n hn =>
      Move.eq_of_tree_eq (hok _ _ (ha.1 m hm)) (hok _ _ (hb.1 n hn))) ?_
    simpa using congrArg (List.lookup "moveTo") harguments
  have haway : a.moveAwayFrom = b.moveAwayFrom := by
    refine option_eq_of_map_eq (f := fun m => m.document.tree) (fun m hm n hn =>
      Move.eq_of_tree_eq (hok _ _ (ha.2.1 m hm)) (hok _ _ (hb.2.1 n hn))) ?_
    simpa using congrArg (List.lookup "moveAwayFrom") harguments
  have hautocorrect : a.autocorrect = b.autocorrect := by
    refine option_eq_of_map_eq (f := fun b : Bool => tree [.bool b]) (fun x _ y _ hxy => ?_) ?_
    · cases x <;> cases y <;> simp_all
    · simpa using congrArg (List.lookup "autocorrect") harguments
  obtain ⟨hcertainty, hdistance⟩ := SimilarityOptions.threshold_eq hok ha.2.2 hb.2.2
    (by simpa using congrArg (List.lookup "certainty") harguments)
    (by simpa using congrArg (List.lookup "distance") harguments)
  obtain ⟨hnames, htargets⟩ := SimilarityOptions.targets_eq hok ha.2.2.2 hb.2.2.2
    (by simpa using congrArg (List.lookup "targets") harguments)
    (by simpa using congrArg (List.lookup "targetVectors") harguments)
  simp [message, hconcepts, hto, haway, hautocorrect, hcertainty, hdistance, hnames, htargets]

end NearText

/-! ## Search near a vector, an object or a medium -/

namespace NearVector

@[simp] theorem isValue_perTargetDocument (c : NearVector) : IsValue c.perTargetDocument :=
  isValue_braces (shaped_spaced c.shaped_perTarget)

@[simp] theorem isValue_body (c : NearVector) : IsValue c.body := by
  rw [body_eq]
  exact isValue_braces (shaped_spaced (by simp [c.isValue_perTargetDocument.1]))

theorem isArgument_document (c : NearVector) : IsArgument "nearVector" c.document :=
  isArgument_entry (by decide) c.isValue_body

theorem arguments_body (c : NearVector) : c.body.tree.arguments =
    (if c.vector.isEmpty && !c.vectorPerTarget.isEmpty then []
      else [("vector", tree (singles c.vector))]) ++
    ((if c.vectorPerTarget.isEmpty then []
      else [("vectorPerTarget", c.perTargetDocument.tree)]) ++
    entries [c.options.thresholdDocument, c.options.targetsDocument]) := by
  rw [body_eq, arguments_spaced _ (by simp [c.isValue_perTargetDocument.1]),
    entries_unless_field (by decide) (isValue_singles _),
    entries_unlessEmpty_entry (by decide) c.isValue_perTargetDocument]

theorem arguments_perTarget {c : NearVector} (h : c.Plain ok) :
    c.perTargetDocument.tree.arguments =
      c.vectorPerTarget.map fun p => (p.1, tree (singles p.2)) := by
  have hargument : ∀ p ∈ c.vectorPerTarget, IsArgument p.1 (field p.1 (singles p.2)) :=
    fun p hp => isArgument_field (h.2.1 p hp).1 (by simp)
  rw [perTargetDocument, tree_braces (shaped_spaced c.shaped_perTarget),
    trees_spaced c.shaped_perTarget, List.flatMap_map]
  refine (argumentsOf_flatMap hargument).trans ?_
  refine List.map_congr_left fun p hp => ?_
  rw [value_field (h.2.1 p hp).1 (isValue_singles _)]

theorem perTarget_eq (hok : ok.ExcludesNaN) {a b : NearVector} (ha : a.Plain ok) (hb : b.Plain ok)
    (h : a.perTargetDocument.tree = b.perTargetDocument.tree) :
    a.vectorPerTarget = b.vectorPerTarget := by
  have harguments := congrArg TokenTree.arguments h
  rw [arguments_perTarget ha, arguments_perTarget hb] at harguments
  simpa using map_eq_map_of_map_eq (g := id) (fun p hp q hq hpq => by
    simp only [Prod.mk.injEq] at hpq
    exact Prod.ext hpq.1 (singles_inj (fun x hx => hok _ x ((ha.2.1 p hp).2 x hx))
      (fun x hx => hok _ x ((hb.2.1 q hq).2 x hx)) hpq.2)) harguments

theorem message_eq (hok : ok.ExcludesNaN) {a b : NearVector} (ha : a.Plain ok) (hb : b.Plain ok)
    (h : a.body.tree = b.body.tree) : a.message = b.message := by
  have harguments := congrArg TokenTree.arguments h
  rw [arguments_body, arguments_body] at harguments
  simp only [SimilarityOptions.entries_threshold, SimilarityOptions.entries_targets,
    entries_nil] at harguments
  have hperTarget : a.vectorPerTarget = b.vectorPerTarget := by
    have hlookup : (if a.vectorPerTarget.isEmpty then none else some a.perTargetDocument.tree) =
        if b.vectorPerTarget.isEmpty then none else some b.perTargetDocument.tree := by
      simpa using congrArg (List.lookup "vectorPerTarget") harguments
    cases hae : a.vectorPerTarget.isEmpty <;> cases hbe : b.vectorPerTarget.isEmpty <;>
      simp only [hae, hbe] at hlookup
    · exact perTarget_eq hok ha hb (Option.some.inj hlookup)
    · cases hlookup
    · cases hlookup
    · rw [List.isEmpty_iff.1 hae, List.isEmpty_iff.1 hbe]
  have hvector : a.vector = b.vector := by
    have hlookup : (if a.vector.isEmpty && !a.vectorPerTarget.isEmpty then none
          else some (tree (singles a.vector))) =
        if b.vector.isEmpty && !b.vectorPerTarget.isEmpty then none
          else some (tree (singles b.vector)) := by
      simpa using congrArg (List.lookup "vector") harguments
    have hinj := singles_inj (fun x hx => hok _ x (ha.1 x hx)) (fun x hx => hok _ x (hb.1 x hx))
    rw [hperTarget] at hlookup
    cases hbe : b.vectorPerTarget.isEmpty with
    | true => exact hinj (by simpa [hbe] using hlookup)
    | false =>
      refine eq_of_unlessEmpty_eq (f := fun xs => tree (singles xs)) hinj ?_
      simpa [hbe] using hlookup
  obtain ⟨hcertainty, hdistance⟩ := SimilarityOptions.threshold_eq hok ha.2.2 hb.2.2
    (by simpa using congrArg (List.lookup "certainty") harguments)
    (by simpa using congrArg (List.lookup "distance") harguments)
  obtain ⟨hnames, htargets⟩ := SimilarityOptions.targets_eq hok ha.2.2.2 hb.2.2.2
    (by simpa using congrArg (List.lookup "targets") harguments)
    (by simpa using congrArg (List.lookup "targetVectors") harguments)
  simp [message, hperTarget, hvector, hcertainty, hdistance, hnames, htargets]

end NearVector

namespace NearObject

theorem isArgument_document (c : NearObject) : IsArgument "nearObject" c.document :=
  isArgument_entry (by decide) (isValue_braces (shaped_spaced (by simp)))

theorem arguments_document (c : NearObject) : c.document.value.arguments =
    (if c.id.toList.isEmpty then [] else [("id", tree [.quoted c.id])]) ++
      ((if c.beacon.toList.isEmpty then [] else [("beacon", tree [.quoted c.beacon])]) ++
        entries [c.options.thresholdDocument, c.options.targetsDocument]) := by
  rw [document, arguments_entry_spaced (by decide) (by simp),
    entries_unlessEmpty_field (by decide) (isValue_quoted _),
    entries_unlessEmpty_field (by decide) (isValue_quoted _)]

theorem message_eq (hok : ok.ExcludesNaN) {a b : NearObject} (ha : a.options.Plain ok)
    (hb : b.options.Plain ok) (h : a.document.value = b.document.value) :
    a.message = b.message := by
  have harguments := congrArg TokenTree.arguments h
  rw [arguments_document, arguments_document] at harguments
  simp only [SimilarityOptions.entries_threshold, SimilarityOptions.entries_targets,
    entries_nil] at harguments
  have hid : a.id = b.id := by
    refine string_eq_of_unlessEmpty_eq ?_
    simpa using congrArg (List.lookup "id") harguments
  have hbeacon : a.beacon = b.beacon := by
    refine string_eq_of_unlessEmpty_eq ?_
    simpa using congrArg (List.lookup "beacon") harguments
  obtain ⟨hcertainty, hdistance⟩ := SimilarityOptions.threshold_eq hok ha hb
    (by simpa using congrArg (List.lookup "certainty") harguments)
    (by simpa using congrArg (List.lookup "distance") harguments)
  obtain ⟨hnames, htargets⟩ := SimilarityOptions.targets_eq hok ha.2 hb.2
    (by simpa using congrArg (List.lookup "targets") harguments)
    (by simpa using congrArg (List.lookup "targetVectors") harguments)
  simp [message, hid, hbeacon, hcertainty, hdistance, hnames, htargets]

end NearObject

namespace NearMedia

theorem isArgument_document (c : NearMedia) : IsArgument c.kind.clauseName c.document :=
  isArgument_entry (MediaKind.isName_clauseName c.kind) (isValue_braces (shaped_spaced (by simp)))

theorem arguments_document (c : NearMedia) : c.document.value.arguments =
    (c.kind.fieldName, tree [.quoted c.encoded]) ::
      entries [c.options.thresholdDocument, c.options.targetsDocument] := by
  rw [document, arguments_entry_spaced (MediaKind.isName_clauseName c.kind) (by simp),
    entries_field (MediaKind.isName_fieldName c.kind) (isValue_quoted _)]

/-- Clauses of one kind with the same text have the same message. -/
theorem message_eq (hok : ok.ExcludesNaN) {a b : NearMedia} (hkind : a.kind = b.kind)
    (ha : a.options.Plain ok) (hb : b.options.Plain ok)
    (h : a.document.value = b.document.value) : a.message = b.message := by
  have harguments := congrArg TokenTree.arguments h
  rw [arguments_document, arguments_document, List.cons.injEq, Prod.mk.injEq, tree_quoted,
    tree_quoted] at harguments
  obtain ⟨⟨-, hencoded⟩, harguments⟩ := harguments
  have hencoded : a.encoded = b.encoded := Token.string.inj (TokenTree.leaf.inj hencoded)
  simp only [SimilarityOptions.entries_threshold, SimilarityOptions.entries_targets,
    entries_nil] at harguments
  obtain ⟨hcertainty, hdistance⟩ := SimilarityOptions.threshold_eq hok ha hb
    (by simpa using congrArg (List.lookup "certainty") harguments)
    (by simpa using congrArg (List.lookup "distance") harguments)
  obtain ⟨hnames, htargets⟩ := SimilarityOptions.targets_eq hok ha.2 hb.2
    (by simpa using congrArg (List.lookup "targets") harguments)
    (by simpa using congrArg (List.lookup "targetVectors") harguments)
  simp [message, hkind, hencoded, hcertainty, hdistance, hnames, htargets]

end NearMedia

/-! ## Hybrid search -/

namespace HybridSearch

/-- The search inside of its braces. -/
def inner : HybridSearch → Document
  | nearText clause => clause.document
  | nearVector clause => clause.document

theorem document_eq (s : HybridSearch) : s.document = entry "searches" (braces s.inner) := by
  cases s <;> rfl

@[simp] theorem shaped_inner (s : HybridSearch) : Shaped s.inner := by
  cases s with
  | nearText clause => exact shaped_entry clause.shaped_body
  | nearVector clause => exact shaped_entry clause.shaped_body

theorem isArgument_document (s : HybridSearch) : IsArgument "searches" s.document := by
  rw [document_eq]
  exact isArgument_entry (by decide) (isValue_braces s.shaped_inner)

/-- The name of the search tells which kind it is. -/
theorem message_eq (hok : ok.ExcludesNaN) {a b : HybridSearch} (ha : a.Plain ok) (hb : b.Plain ok)
    (h : a.document.value = b.document.value) :
    a.nearTextMessage? = b.nearTextMessage? ∧ a.nearVectorMessage? = b.nearVectorMessage? := by
  rw [document_eq, document_eq, value_entry (by decide) (isValue_braces a.shaped_inner),
    value_entry (by decide) (isValue_braces b.shaped_inner), tree_braces a.shaped_inner,
    tree_braces b.shaped_inner, TokenTree.node.injEq] at h
  have htext := fun c : NearText =>
    trees_entry_value (show isName "nearText" = true by decide) c.isValue_body
  have hvector := fun c : NearVector =>
    trees_entry_value (show isName "nearVector" = true by decide) c.isValue_body
  cases a with
  | nearText c =>
    cases b with
    | nearText d =>
      have hbody : c.body.tree = d.body.tree := by
        simpa [inner, NearText.document, htext] using h.2
      simp [nearTextMessage?, nearVectorMessage?, NearText.message_eq hok ha hb hbody]
    | nearVector d => simp [inner, NearText.document, NearVector.document, htext, hvector] at h
  | nearVector c =>
    cases b with
    | nearText d => simp [inner, NearText.document, NearVector.document, htext, hvector] at h
    | nearVector d =>
      have hbody : c.body.tree = d.body.tree := by
        simpa [inner, NearVector.document, hvector] using h.2
      simp [nearTextMessage?, nearVectorMessage?, NearVector.message_eq hok ha hb hbody]

end HybridSearch

namespace Hybrid

theorem isArgument_document (c : Hybrid) : IsArgument "hybrid" c.document :=
  isArgument_entry (by decide) (isValue_braces (shaped_listed (by simp)))

theorem arguments_document (c : Hybrid) : c.document.value.arguments =
    ("query", tree [.quoted c.query]) ::
      ((if c.vector.isEmpty then [] else [("vector", tree (singles c.vector))]) ++
      ((c.alpha.map fun x => ("alpha", tree [.single x])).toList ++
      ((if c.properties.isEmpty then [] else [("properties", tree (strings c.properties))]) ++
      ((c.fusionType.map fun fusion => ("fusionType", tree [.word fusion.name])).toList ++
      ((c.targets.effectiveTargets.map fun t => ("targets", t.document.value)).toList ++
      ((if c.targets.messageTargetVectors.isEmpty then []
        else [("targetVectors", tree (strings c.targets.messageTargetVectors))]) ++
      ((c.maxVectorDistance.map fun x => ("maxVectorDistance", tree [.single x])).toList ++
      ((c.bm25SearchOperator.map fun m => ("bm25SearchOperator", m.body.tree)).toList ++
      (c.search.map fun s => ("searches", s.document.value)).toList)))))))) := by
  rw [document, arguments_entry_listed (by decide) (by simp)]
  simp +decide [FusionType.isName_name, entries_map HybridSearch.isArgument_document]

theorem message_eq (hok : ok.ExcludesNaN) {a b : Hybrid} (ha : a.Plain ok) (hb : b.Plain ok)
    (h : a.document.value = b.document.value) : a.message = b.message := by
  have harguments := congrArg TokenTree.arguments h
  rw [arguments_document, arguments_document] at harguments
  obtain ⟨havector, haalpha, hadistance, hatargets, hasearch⟩ := ha
  obtain ⟨hbvector, hbalpha, hbdistance, hbtargets, hbsearch⟩ := hb
  have hquery : a.query = b.query := by
    simpa using congrArg (List.lookup "query") harguments
  have hvector : a.vector = b.vector := by
    refine eq_of_unlessEmpty_eq (f := fun xs => tree (singles xs))
      (singles_inj (fun x hx => hok _ x (havector x hx)) (fun x hx => hok _ x (hbvector x hx))) ?_
    simpa using congrArg (List.lookup "vector") harguments
  have halpha : a.alpha = b.alpha := by
    refine optional_single_inj (fun x hx => hok _ x (haalpha x hx))
      (fun y hy => hok _ y (hbalpha y hy)) ?_
    simpa using congrArg (List.lookup "alpha") harguments
  have hproperties : a.properties = b.properties := by
    refine optional_strings_inj ?_
    simpa using congrArg (List.lookup "properties") harguments
  have hfusion : a.fusionType = b.fusionType := by
    refine optional_word_inj FusionType.isName_name FusionType.name_injective ?_
    simpa using congrArg (List.lookup "fusionType") harguments
  have hdistance : a.maxVectorDistance = b.maxVectorDistance := by
    refine optional_single_inj (fun x hx => hok _ x (hadistance x hx))
      (fun y hy => hok _ y (hbdistance y hy)) ?_
    simpa using congrArg (List.lookup "maxVectorDistance") harguments
  have hoperator : a.bm25SearchOperator.map WordMatching.message =
      b.bm25SearchOperator.map WordMatching.message := by
    refine option_map_eq_of_map_eq (f := fun m => m.body.tree)
      (fun _ _ _ _ => WordMatching.message_eq) ?_
    simpa using congrArg (List.lookup "bm25SearchOperator") harguments
  obtain ⟨hnames, htargets⟩ := SimilarityOptions.targets_eq hok hatargets hbtargets
    (by simpa using congrArg (List.lookup "targets") harguments)
    (by simpa using congrArg (List.lookup "targetVectors") harguments)
  have hsearch : (a.search.map fun s => (s.nearTextMessage?, s.nearVectorMessage?)) =
      b.search.map fun s => (s.nearTextMessage?, s.nearVectorMessage?) := by
    refine option_map_eq_of_map_eq (f := fun s => s.document.value) (fun s hs t ht hst =>
      Prod.ext_iff.2 (HybridSearch.message_eq hok (hasearch s hs) (hbsearch t ht) hst)) ?_
    simpa using congrArg (List.lookup "searches") harguments
  have hnearText : a.search.bind HybridSearch.nearTextMessage? =
      b.search.bind HybridSearch.nearTextMessage? := by
    simpa [Option.bind_map] using congrArg (fun o => Option.bind o Prod.fst) hsearch
  have hnearVector : a.search.bind HybridSearch.nearVectorMessage? =
      b.search.bind HybridSearch.nearVectorMessage? := by
    simpa [Option.bind_map] using congrArg (fun o => Option.bind o Prod.snd) hsearch
  simp [message, hquery, hvector, halpha, hproperties, hfusion, hdistance, hoperator, hnames,
    htargets, hnearText, hnearVector]

end Hybrid

end VectorQuery
