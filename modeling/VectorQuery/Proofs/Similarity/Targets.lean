import VectorQuery.Hybrid
import VectorQuery.Proofs.Language.Legible
import VectorQuery.Proofs.Similarity.Combination
import VectorQuery.Similarity.Clause

/-!
# Which targets a combination searches

A document lists the names of the targets of a combination, and a message lists each of them once
for each of its weights. So the two name the same targets but for those that are given no weight at
all: a target whose lists of weights are empty stands in the document and not in the message. What
holds of a combination holds of every clause that it is set in.
-/

namespace VectorQuery

/-! ## Reading the names -/

namespace Grammar

/-- The strings of a list behind its opening bracket. -/
def strings? : List Token → Option (List String)
  | .punctuator ']' :: _ => some []
  | .string s :: rest => (strings? rest).map (s :: ·)
  | _ => none

/-- The strings of the first list that stands under a name. -/
def listUnder? (name : String) : List Token → Option (List String)
  | [] => none
  | t :: rest =>
    match t, rest with
    | .name s, .punctuator ':' :: .punctuator '[' :: items =>
      if s = name then strings? items else listUnder? name rest
    | _, _ => listUnder? name rest

/-- The names of target vectors that a text lists. -/
def listedTargets? (text : String) : Option (List String) :=
  listUnder? "targetVectors" (tokensOf text)

theorem strings?_append (ss : List String) (rest : List Token) :
    strings? (ss.map .string ++ .punctuator ']' :: rest) = some ss := by
  induction ss with
  | nil => rfl
  | cons s ss ih =>
    rw [List.map_cons, List.cons_append, strings?, ih]
    rfl

end Grammar

namespace Document

open Grammar Piece

theorem tokens_strings (ss : List String) :
    tokens (strings ss) = .punctuator '[' :: (ss.map .string ++ [.punctuator ']']) := by
  have hpacked : tokens (packed (ss.map fun s => [quoted s])) = ss.map .string := by
    rw [tokens, packed, flatMap_intercalate rfl, List.flatMap_map, List.map_eq_flatMap]
    rfl
  show (mark '[').tokens ++ tokens (packed (ss.map fun s => [quoted s]) ++ [mark ']']) = _
  rw [tokens_append, hpacked]
  rfl

theorem tokens_field {name : String} (h : isName name = true) (d : Document) :
    tokens (field name d) = .name name :: .punctuator ':' :: tokens d := by
  show nameTokens name ++ ((mark ':').tokens ++ ((mark ' ').tokens ++ tokens d)) = _
  rw [nameTokens_of_isName h]
  rfl

theorem listUnder?_field_strings (name : String) (h : isName name = true) (ss : List String)
    (rest : List Token) : listUnder? name (tokens (field name (strings ss)) ++ rest) = some ss := by
  rw [tokens_field h, tokens_strings]
  show (if name = name then strings? ((ss.map .string ++ [.punctuator ']']) ++ rest) else _) = _
  rw [if_pos rfl, List.append_assoc]
  exact strings?_append ss rest

/-- A part stands in the parts that are joined. -/
theorem infix_intercalate {d : Document} {parts : List Document} (h : d ∈ parts) (sep : Document) :
    d <:+: sep.intercalate parts := by
  induction parts with
  | nil => cases h
  | cons e parts ih =>
    cases parts with
    | nil =>
      rw [List.mem_singleton.1 h]
      simp
    | cons f parts =>
      rw [List.intercalate_cons_cons]
      rcases List.mem_cons.1 h with rfl | h
      · exact ((List.prefix_append d sep).trans (List.prefix_append _ _)).isInfix
      · exact (ih h).trans (List.suffix_append _ _).isInfix

theorem infix_given {d : Document} {parts : List (Option Document)} (h : some d ∈ parts)
    (sep : Document) : d <:+: sep.intercalate (given parts) :=
  infix_intercalate (List.mem_filterMap.2 ⟨some d, h, rfl⟩) sep

theorem infix_entry_braces {d e : Document} (h : d <:+: e) (name : String) :
    d <:+: entry name (braces e) := by
  refine h.trans ⟨[word name, mark ':', mark '{'], [mark '}'], ?_⟩
  rfl

end Document

namespace Combination

open Document Grammar Piece

/-! ## The names in a document -/

/-- The front of a combination in a document, with the names of its targets. -/
def front (c : Combination) : Document :=
  spaced (given [c.method.map fun method => field "combinationMethod" [.word method.name],
    some (field "targetVectors" (strings c.targetVectors))])

/-- The back of a combination in a document, with its weights. -/
def back (c : Combination) : Document :=
  (if c.weights.isEmpty then [] else mark ' ' :: field "weights" c.weightsDocument) ++ [mark '}']

theorem document_eq_front_back (c : Combination) :
    c.document = word "targets" :: mark ':' :: mark '{' :: (c.front ++ c.back) := by
  rw [document_eq, front, back]
  by_cases hweights : c.weights.isEmpty = true
  · cases c.method <;> simp [hweights, unlessEmpty, given, entry, braces, spaced]
  · cases c.method <;>
      simp [hweights, unlessEmpty, given, entry, braces, spaced, List.intercalate_cons_cons]

theorem delimited_back (c : Combination) (rest : List Char) : Delimited (c.back.chars ++ rest) := by
  unfold back
  by_cases hweights : c.weights.isEmpty = true
  · rw [if_pos hweights]
    exact Delimited.cons (by decide) _
  · rw [if_neg hweights]
    exact Delimited.cons (by decide) _

theorem listUnder?_front (c : Combination) (rest : List Token) :
    listUnder? "targetVectors" (c.front.tokens ++ rest) = some c.targetVectors := by
  have hnames := listUnder?_field_strings "targetVectors" (by decide) c.targetVectors rest
  unfold front
  cases c.method with
  | none => simpa [given, spaced] using hnames
  | some method =>
    have hmethod : tokens (field "combinationMethod" [.word method.name]) =
        [.name "combinationMethod", .punctuator ':', .name method.name] := by
      rw [tokens_field (by decide), Document.tokens_cons]
      exact congrArg _ (congrArg _ (congrArg (· ++ _)
        (nameTokens_of_isName (CombinationMethod.isName_name method))))
    have hspaced : tokens (spaced [field "combinationMethod" [.word method.name],
        field "targetVectors" (strings c.targetVectors)]) =
        [.name "combinationMethod", .punctuator ':', .name method.name] ++
          tokens (field "targetVectors" (strings c.targetVectors)) := by
      rw [spaced, List.intercalate_cons_cons, Document.tokens_append, Document.tokens_append,
        hmethod]
      simp [Piece.tokens, ignored]
    show listUnder? _ (tokens (spaced [_, _]) ++ rest) = _
    rw [hspaced, List.append_assoc, ← hnames]
    rw [tokens_field (by decide)]
    rfl

/-- Whatever the names are and whatever weights stand behind them, a reader finds the names that are
listed. -/
theorem listedTargets?_document (c : Combination) :
    listedTargets? c.document.text = some c.targetVectors := by
  have hshaped : Shaped c.front := shaped_spaced (by simp)
  have hlegible : Legible .finite c.front := by
    simp +decide [front, isFieldName_of_isName, CombinationMethod.isName_name]
  have hfront := hshaped.tokens_chars_append FloatProperty.finite_excludesNaN hlegible
    (c.delimited_back [])
  have htokens : tokensOf c.document.text = .name "targets" :: .punctuator ':' ::
      .punctuator '{' :: (c.front.tokens ++ Grammar.tokens c.back.chars) := by
    rw [List.append_nil] at hfront
    rw [← hfront, tokensOf, text, String.toList_ofList, document_eq_front_back]
    show Grammar.tokens ("targets".toList ++ ':' :: '{' :: chars (c.front ++ c.back)) = _
    rw [tokens_name (by decide) (Delimited.cons (by decide) _), tokens_punctuator (by decide),
      tokens_punctuator (by decide), chars_append]
  rw [listedTargets?, htokens]
  exact c.listUnder?_front _

/-! ## The names in a message -/

/-- Whether a target counts in messages after a choice: it does unless all the lists of weights that
it is given are empty. -/
def Setting.weighs : Setting → String → Bool
  | .unweighted _ _, _ => true
  | .weighted _ pairs, name => !(weightsFor name pairs).isEmpty

theorem foldl_addName_of_mem {names more : List String} (h : ∀ name ∈ more, name ∈ names) :
    more.foldl addName names = names := by
  induction more with
  | nil => rfl
  | cons name more ih =>
    obtain ⟨hname, hmore⟩ := List.forall_mem_cons.1 h
    rw [List.foldl_cons, addName, if_pos (List.contains_iff_mem.2 hname), ih hmore]

/-- A name that comes several times in a row is added once, and one that does not come is not. -/
theorem foldl_addName_group {names group : List String} {name : String} (hnew : name ∉ names)
    (h : ∀ other ∈ group, other = name) :
    group.foldl addName names = if group.isEmpty then names else names ++ [name] := by
  cases group with
  | nil => rfl
  | cons other group =>
    obtain ⟨rfl, hgroup⟩ := List.forall_mem_cons.1 h
    rw [List.foldl_cons, addName, if_neg fun hmem => hnew (List.contains_iff_mem.1 hmem)]
    refine foldl_addName_of_mem fun name hname => ?_
    rw [hgroup name hname]
    exact List.mem_append_right _ (List.mem_singleton_self _)

/-- Of names that each come some times in a row, those that come are left. -/
theorem distinct_flatMap {names : List String} (hnodup : names.Nodup)
    {group : String → List String} (h : ∀ name, ∀ other ∈ group name, other = name) :
    distinct (names.flatMap group) = names.filter fun name => !(group name).isEmpty := by
  have hfold : ∀ before : List String, (∀ name ∈ names, name ∉ before) →
      (names.flatMap group).foldl addName before =
        before ++ names.filter fun name => !(group name).isEmpty := by
    induction names with
    | nil => exact fun before _ => (List.append_nil _).symm
    | cons name names ih =>
      intro before hbefore
      obtain ⟨hname, hnames⟩ := List.nodup_cons.1 hnodup
      obtain ⟨hnew, hbefore⟩ := List.forall_mem_cons.1 hbefore
      rw [List.flatMap_cons, List.foldl_append, foldl_addName_group hnew (h name), List.filter_cons]
      by_cases hempty : (group name).isEmpty = true
      · rw [if_pos hempty, if_neg (by simp [hempty])]
        exact ih hnames before hbefore
      · have hfresh : ∀ other ∈ names, other ∉ before ++ [name] := by
          intro other hother hmem
          rcases List.mem_append.1 hmem with hmem | hmem
          · exact hbefore other hother hmem
          · exact hname (List.mem_singleton.1 hmem ▸ hother)
        rw [if_neg hempty, if_pos (by simpa using hempty), ih hnames _ hfresh, List.append_assoc]
        rfl
  exact hfold [] fun _ _ => List.not_mem_nil

theorem targets_message_set {s : Setting} (hs : s.names ≠ []) (c : Combination) :
    distinct (c.set s).message.targetVectors = (c.set s).targetVectors.filter s.weighs := by
  have hnodup := (inFirstOrder_set hs c).nodup
  cases s with
  | unweighted method names =>
    rw [set_unweighted (ne_nil_of_unweighted hs)] at hnodup ⊢
    have hgroup : ∀ name : String, ∀ other ∈ [name], other = name :=
      fun _ _ => List.mem_singleton.1
    have hself := distinct_flatMap hnodup hgroup
    rw [List.flatMap_singleton'] at hself
    exact hself
  | weighted method pairs =>
    have hregroups : Regroups (c.set (.weighted method pairs)).targetVectors pairs
        (c.set (.weighted method pairs)).message := regroups_set (ne_nil_of_weighted hs) c
    rw [hregroups.named, hregroups.listed, List.map_flatMap, distinct_flatMap hnodup]
    · refine List.filter_congr fun name _ => ?_
      rw [Setting.weighs, List.isEmpty_map]
    · intro name other hother
      obtain ⟨w, hw, rfl⟩ := List.mem_map.1 hother
      exact of_decide_eq_true (List.mem_filter.1 hw).2

end Combination

/-! ## Clauses -/

/-- The names of all targets in the two fields of a message. -/
def Rpc.namedTargets (targetVectors : List String) (targets : Option Rpc.Targets) : List String :=
  targetVectors ++ (targets.map Rpc.Targets.targetVectors).getD []

/-- A clause that searches vectors. -/
inductive VectorClause where
  /-- A similarity clause. -/
  | similarity (clause : SimilarityClause)
  /-- A hybrid search. -/
  | hybrid (clause : Hybrid)

namespace VectorClause

open Document

/-- The options of the clause. -/
def options : VectorClause → SimilarityOptions
  | similarity (.nearText clause) => clause.options
  | similarity (.nearVector clause) => clause.options
  | similarity (.nearObject clause) => clause.options
  | similarity (.nearMedia clause) => clause.options
  | hybrid clause => clause.targets

/-- The clause in a document. -/
def document : VectorClause → Document
  | similarity clause => clause.document
  | hybrid clause => clause.document

/-- The names of the targets in the message of the clause. -/
def messageTargets : VectorClause → List String
  | similarity (.nearText clause) =>
    Rpc.namedTargets clause.message.targetVectors clause.message.targets
  | similarity (.nearVector clause) =>
    Rpc.namedTargets clause.message.targetVectors clause.message.targets
  | similarity (.nearObject clause) =>
    Rpc.namedTargets clause.message.targetVectors clause.message.targets
  | similarity (.nearMedia clause) =>
    Rpc.namedTargets clause.message.targetVectors clause.message.targets
  | hybrid clause => Rpc.namedTargets clause.message.targetVectors clause.message.targets

/-- The targets stand in the document of the clause as one of its arguments. -/
theorem infix_document (clause : VectorClause) {part : Document}
    (h : clause.options.targetsDocument = some part) : part <:+: clause.document := by
  cases clause with
  | similarity clause =>
    cases clause with
    | nearText clause => exact infix_entry_braces (infix_given (by rw [← h]; simp [options]) _) _
    | nearVector clause => exact infix_entry_braces (infix_given (by rw [← h]; simp [options]) _) _
    | nearObject clause => exact infix_entry_braces (infix_given (by rw [← h]; simp [options]) _) _
    | nearMedia clause => exact infix_entry_braces (infix_given (by rw [← h]; simp [options]) _) _
  | hybrid clause => exact infix_entry_braces (infix_given (by rw [← h]; simp [options]) _) _

theorem messageTargets_eq (clause : VectorClause) : clause.messageTargets =
    Rpc.namedTargets clause.options.messageTargetVectors clause.options.messageTargets := by
  cases clause with
  | similarity clause => cases clause <;> rfl
  | hybrid clause => rfl

end VectorClause

namespace Combination

open Document Grammar

/-- What a combination after choices searches, by itself and in a clause. -/
structure Searches (settings : List Setting) (c : Combination) : Prop where
  /-- The text lists the targets. -/
  listed : listedTargets? c.document.text = some c.targetVectors
  /-- After choices without targets there are none, in the text and in the message. -/
  fresh : (∀ s ∈ settings, s.names = []) → c.targetVectors = [] ∧ c.message.targetVectors = []
  /-- The message names those targets of the text, in the same order, that the last choice with
  targets gives a weight to. -/
  latest : ∀ before s after, settings = before ++ s :: after → s.names ≠ [] →
    (∀ t ∈ after, t.names = []) →
    distinct c.message.targetVectors = c.targetVectors.filter s.weighs
  /-- So the message names the targets of the text exactly when all of them are given a weight. -/
  agree_iff : ∀ before s after, settings = before ++ s :: after → s.names ≠ [] →
    (∀ t ∈ after, t.names = []) →
    (distinct c.message.targetVectors = c.targetVectors ↔ ∀ name ∈ s.names, s.weighs name = true)
  /-- In a clause that the combination is set in, the text and the message name the same targets as
  its own text and message. -/
  carried : ∀ clause : VectorClause, clause.options.effectiveTargets = some c →
    (∃ part, clause.options.targetsDocument = some part ∧ part <:+: clause.document ∧
      listedTargets? part.text = some c.targetVectors) ∧
    clause.messageTargets = c.message.targetVectors

/-- A combination is searched in the text and in the message under the same names, but for those
that are given no weight. -/
theorem text_and_message_search (settings : List Setting) :
    Searches settings (ofSettings settings) := by
  have hlatest : ∀ before s after, settings = before ++ s :: after → s.names ≠ [] →
      (∀ t ∈ after, t.names = []) → distinct (ofSettings settings).message.targetVectors =
        (ofSettings settings).targetVectors.filter s.weighs := by
    rintro before s after rfl hs hafter
    rw [ofSettings_of_latest hs hafter]
    exact targets_message_set hs {}
  refine ⟨listedTargets?_document _, ?_, hlatest, ?_, ?_⟩
  · intro hnames
    have hfresh : ofSettings settings = {} := foldl_set_of_names_nil hnames {}
    rw [hfresh]
    exact ⟨rfl, rfl⟩
  · intro before s after hsettings hs hafter
    rw [hlatest before s after hsettings hs hafter, List.filter_eq_self]
    have hmem : ∀ name, name ∈ (ofSettings settings).targetVectors ↔ name ∈ s.names := by
      rw [hsettings, ofSettings_of_latest hs hafter]
      exact (inFirstOrder_set hs {}).mem_iff
    simp only [hmem]
  · intro clause htargets
    have hpart : clause.options.targetsDocument = some (ofSettings settings).document := by
      rw [SimilarityOptions.targetsDocument, htargets]
    refine ⟨⟨_, hpart, clause.infix_document hpart, listedTargets?_document _⟩, ?_⟩
    rw [clause.messageTargets_eq, SimilarityOptions.messageTargetVectors,
      SimilarityOptions.messageTargets, htargets]
    rfl

/-- A choice of two targets, of which the second is given an empty list of weights. -/
def halfWeighted : List Setting :=
  [.weighted .manualWeights [("a", .single .zero), ("b", .multi [])]]

/-- The text lists both targets and the message only the first. -/
theorem target_without_weight :
    listedTargets? (ofSettings halfWeighted).document.text = some ["a", "b"] ∧
      distinct (ofSettings halfWeighted).message.targetVectors = ["a"] :=
  ⟨listedTargets?_document _, rfl⟩

end Combination

end VectorQuery
