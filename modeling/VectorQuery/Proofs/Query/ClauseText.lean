import VectorQuery.Proofs.Language.LegibleQuery
import VectorQuery.Proofs.Language.Tree

/-!
# What the text of a clause determines

Two clauses that are written with the same trees have the same message. The arguments of a clause
have names of their own, so each of them can be found among the trees whichever others are left out,
and its value determines what the message holds of it.
-/

namespace VectorQuery

open Number Document Grammar

/-! ## Values -/

theorem map_eq_map_of_map_eq {α β γ : Type} {xs ys : List α} {f : α → β} {g : α → γ}
    (hfg : ∀ x ∈ xs, ∀ y ∈ ys, f x = f y → g x = g y) (h : xs.map f = ys.map f) :
    xs.map g = ys.map g := by
  induction xs generalizing ys with
  | nil => simp_all
  | cons x xs ih =>
    cases ys with
    | nil => simp at h
    | cons y ys =>
      simp only [List.map_cons, List.cons.injEq] at h ⊢
      exact ⟨hfg x (by simp) y (by simp) h.1,
        ih (fun x hx y hy => hfg x (by simp [hx]) y (by simp [hy])) h.2⟩

theorem option_map_eq_of_map_eq {α β γ : Type} {o o' : Option α} {f : α → β} {g : α → γ}
    (hfg : ∀ x ∈ o, ∀ y ∈ o', f x = f y → g x = g y) (h : o.map f = o'.map f) :
    o.map g = o'.map g := by
  cases o <;> cases o' <;> simp_all

theorem option_eq_of_map_eq {α β : Type} {o o' : Option α} {f : α → β}
    (hf : ∀ x ∈ o, ∀ y ∈ o', f x = f y → x = y) (h : o.map f = o'.map f) : o = o' := by
  simpa using option_map_eq_of_map_eq (g := id) hf h

/-- Values that are left out when there are none are determined by what is written of them. -/
theorem eq_of_unlessEmpty_eq {α β : Type} {xs ys : List α} {f : List α → β}
    (hf : f xs = f ys → xs = ys)
    (h : (if xs.isEmpty then none else some (f xs)) = if ys.isEmpty then none else some (f ys)) :
    xs = ys := by
  cases xs <;> cases ys <;> simp_all

theorem floatToken_inj {f : Format} {x y : Binary f} (hx : x.isNaN = false) (hy : y.isNaN = false)
    (h : TokenTree.leaf (floatToken x) = .leaf (floatToken y)) : x = y :=
  floatToken_injective hx hy (TokenTree.leaf.inj h)

theorem single_inj {x y : Single} (hx : x.isNaN = false) (hy : y.isNaN = false)
    (h : tree [.single x] = tree [.single y]) : x = y := by
  rw [tree_single, tree_single] at h
  exact floatToken_inj hx hy h

theorem optional_single_inj {o o' : Option Single} (ho : ∀ x ∈ o, x.isNaN = false)
    (ho' : ∀ y ∈ o', y.isNaN = false)
    (h : (o.map fun x => tree [.single x]) = o'.map fun x => tree [.single x]) : o = o' :=
  option_eq_of_map_eq (fun x hx y hy => single_inj (ho x hx) (ho' y hy)) h

/-- A choice is determined by the name that stands for it. -/
theorem optional_word_inj {α : Type} {name : α → String} (hname : ∀ x, isName (name x) = true)
    (hinjective : ∀ {x y}, name x = name y → x = y) {o o' : Option α}
    (h : (o.map fun x => tree [.word (name x)]) = o'.map fun x => tree [.word (name x)]) :
    o = o' := by
  refine option_eq_of_map_eq (fun x _ y _ hxy => ?_) h
  rw [tree_word (hname x), tree_word (hname y)] at hxy
  exact hinjective (Token.name.inj (TokenTree.leaf.inj hxy))

theorem strings_inj {xs ys : List String} (h : tree (strings xs) = tree (strings ys)) :
    xs = ys := by
  rw [tree_strings, tree_strings, TokenTree.node.injEq] at h
  simpa using map_eq_map_of_map_eq (g := id) (fun x _ y _ heq => by simpa using heq) h.2

/-- Strings that are left out when there are none are determined by what is written of them. -/
theorem optional_strings_inj {xs ys : List String}
    (h : (if xs.isEmpty then none else some (tree (strings xs))) =
      if ys.isEmpty then none else some (tree (strings ys))) : xs = ys :=
  eq_of_unlessEmpty_eq (f := fun xs => tree (strings xs)) strings_inj h

theorem singles_inj {xs ys : List Single} (hx : ∀ x ∈ xs, x.isNaN = false)
    (hy : ∀ y ∈ ys, y.isNaN = false) (h : tree (singles xs) = tree (singles ys)) : xs = ys := by
  rw [tree_singles, tree_singles, TokenTree.node.injEq] at h
  simpa using map_eq_map_of_map_eq (g := id)
    (fun x hxs y hys => floatToken_inj (hx x hxs) (hy y hys)) h.2

theorem integer_inj {m n : Int} (h : tree [.integer m] = tree [.integer n]) : m = n := by
  simp only [tree_integer, TokenTree.leaf.injEq, Token.number.injEq] at h
  exact intChars_injective (String.ofList_injective h)

variable {ok : FloatProperty}

/-! ## Keyword search -/

namespace WordMatching

@[simp] theorem isValue_body (m : WordMatching) : IsValue m.body :=
  isValue_braces (shaped_spaced (by simp))

theorem arguments_body (m : WordMatching) : m.body.tree.arguments =
    [("operator", .leaf (.name m.name)),
      ("minimumOrTokensMatch", tree [.integer m.effectiveMinimum.toInt])] := by
  refine (arguments_spaced [some (entry "operator" [.word m.name]),
    some (entry "minimumOrTokensMatch" [.integer m.effectiveMinimum.toInt])] (by simp)).trans ?_
  simp +decide [isName_name]

theorem message_eq {a b : WordMatching} (h : a.body.tree = b.body.tree) :
    a.message = b.message := by
  have harguments := congrArg TokenTree.arguments h
  simp only [arguments_body, List.cons.injEq, Prod.mk.injEq, TokenTree.leaf.injEq, Token.name.injEq,
    true_and, and_true] at harguments
  have hall : a.all = b.all := by
    have hname := harguments.1
    unfold name at hname
    cases ha : a.all <;> cases hb : b.all <;> simp_all
  have hminimum : a.effectiveMinimum = b.effectiveMinimum :=
    Int32.toInt_inj.1 (integer_inj harguments.2)
  simp [message, hall, hminimum]

end WordMatching

namespace Bm25

theorem isArgument_document (c : Bm25) : IsArgument "bm25" c.document :=
  isArgument_entry (by decide) (isValue_braces (shaped_listed (by simp)))

theorem arguments_document (c : Bm25) : c.document.value.arguments =
    ("query", tree [.quoted c.query]) ::
      ((if c.properties.isEmpty then [] else [("properties", tree (strings c.properties))]) ++
        (c.searchOperator.map fun m => ("searchOperator", m.body.tree)).toList) := by
  rw [document, arguments_entry_listed (by decide) (by simp)]
  simp +decide

theorem message_eq {a b : Bm25} (h : a.document.value = b.document.value) :
    a.message = b.message := by
  have harguments := congrArg TokenTree.arguments h
  rw [arguments_document, arguments_document] at harguments
  have hquery : a.query = b.query := by
    simpa using congrArg (List.lookup "query") harguments
  have hproperties : a.properties = b.properties := by
    refine optional_strings_inj ?_
    simpa using congrArg (List.lookup "properties") harguments
  have hoperator : a.searchOperator.map WordMatching.message =
      b.searchOperator.map WordMatching.message := by
    refine option_map_eq_of_map_eq (f := fun m => m.body.tree)
      (fun _ _ _ _ => WordMatching.message_eq) ?_
    simpa using congrArg (List.lookup "searchOperator") harguments
  simp [message, hquery, hproperties, hoperator]

end Bm25

/-! ## Results -/

namespace SortKey

@[simp] theorem isValue_body (s : SortKey) : IsValue s.body :=
  isValue_braces (shaped_spaced (by simp))

theorem arguments_body (s : SortKey) : s.body.tree.arguments =
    ("path", tree (strings s.path)) ::
      (s.order.map fun order => ("order", tree [.word order.name])).toList := by
  rw [body, arguments_spaced _ (by simp)]
  simp +decide [SortOrder.isName_name]

theorem eq_of_tree_eq {a b : SortKey} (h : a.body.tree = b.body.tree) : a = b := by
  have harguments := congrArg TokenTree.arguments h
  rw [arguments_body, arguments_body] at harguments
  have hpath : a.path = b.path := by
    refine strings_inj ?_
    simpa using congrArg (List.lookup "path") harguments
  have horder : a.order = b.order := by
    refine optional_word_inj SortOrder.isName_name SortOrder.name_injective ?_
    simpa using congrArg (List.lookup "order") harguments
  cases a
  cases b
  simp_all

theorem isArgument_document (keys : List SortKey) : IsArgument "sort" (SortKey.document keys) :=
  isArgument_entry (by decide) (isValue_brackets (shaped_listed (by simp)))

/-- The keys are determined by their trees, one by one. -/
theorem eq_of_value_eq {xs ys : List SortKey}
    (h : (SortKey.document xs).value = (SortKey.document ys).value) : xs = ys := by
  have htree : ∀ keys : List SortKey, (SortKey.document keys).value =
      .node '[' (keys.map fun s => s.body.tree) := by
    intro keys
    have hshaped : ∀ d ∈ keys.map body, Shaped d := by simp
    rw [SortKey.document, value_entry (by decide) (isValue_brackets (shaped_listed hshaped)),
      tree_brackets (shaped_listed hshaped), trees_listed hshaped, List.flatMap_map,
      List.map_eq_flatMap]
    simp only [(isValue_body _).trees_eq]
  rw [htree, htree, TokenTree.node.injEq] at h
  simpa using map_eq_map_of_map_eq (g := id) (fun x _ y _ => eq_of_tree_eq) h.2

end SortKey

namespace GroupBy

theorem isArgument_document (g : GroupBy) : IsArgument "groupBy" g.document :=
  isArgument_entry (by decide) (isValue_braces (shaped_spaced (by simp)))

theorem arguments_document (g : GroupBy) : g.document.value.arguments =
    [("path", tree (strings g.path)), ("groups", tree [.integer g.groups.toInt]),
      ("objectsPerGroup", tree [.integer g.objectsPerGroup.toInt])] := by
  have hparts : given [some (entry "path" (strings g.path)),
      some (entry "groups" [.integer g.groups.toInt]),
      some (entry "objectsPerGroup" [.integer g.objectsPerGroup.toInt])] =
        [entry "path" (strings g.path), entry "groups" [.integer g.groups.toInt],
          entry "objectsPerGroup" [.integer g.objectsPerGroup.toInt]] := rfl
  rw [document, ← hparts, arguments_entry_spaced (by decide) (by simp)]
  simp +decide

theorem eq_of_value_eq {a b : GroupBy} (h : a.document.value = b.document.value) : a = b := by
  have harguments := congrArg TokenTree.arguments h
  rw [arguments_document, arguments_document] at harguments
  simp only [List.cons.injEq, Prod.mk.injEq, true_and, and_true] at harguments
  obtain ⟨hpath, hgroups, hobjects⟩ := harguments
  have hpath := strings_inj hpath
  have hgroups := Int32.toInt_inj.1 (integer_inj hgroups)
  have hobjects := Int32.toInt_inj.1 (integer_inj hobjects)
  cases a
  cases b
  simp_all

end GroupBy

end VectorQuery
