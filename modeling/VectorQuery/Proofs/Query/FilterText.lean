import VectorQuery.Proofs.Filter.Nodes
import VectorQuery.Proofs.Query.ClauseText

/-!
# What the text of a filter and of a selection determines

Filters with the same text have the same message, and selections with the same text are the same.
Both are inductions over the trees that the text is read as: a filter is read argument by argument,
and a selection name by name, where a group behind a name holds what is selected of it.
-/

namespace VectorQuery

open Number Document Grammar

variable {ok : FloatProperty}

/-! ## Values of leaves -/

namespace FilterValue

section Values

variable {α β : Type} {piece : α → Piece} {token : α → Token}

theorem isValue_scalarOrArray (hpiece : ∀ x, (piece x).IsToken (token x)) (asArray : Bool)
    (values : List α) : IsValue (scalarOrArray piece asArray values) := by
  unfold scalarOrArray
  split
  · exact isValue_token (hpiece _)
  · exact ⟨shaped_array fun x => .unit (hpiece x).isUnit, _, trees_array hpiece values⟩

theorem tree_scalarOrArray (hpiece : ∀ x, (piece x).IsToken (token x)) (asArray : Bool)
    (values : List α) : (scalarOrArray piece asArray values).tree =
      match single? asArray values with
      | some x => .leaf (token x)
      | none => .node '[' (values.map fun x => .leaf (token x)) := by
  unfold scalarOrArray
  cases single? asArray values with
  | some x => exact tree_token (hpiece x)
  | none => exact tree_eq (trees_array hpiece values)

/-- A value that stands for itself and an array are told apart by the brackets. -/
theorem scalarOrArrayTest_eq (hpiece : ∀ x, (piece x).IsToken (token x)) {asArray asArray' : Bool}
    {xs ys : List α} {item : α → β}
    (hitem : ∀ x ∈ xs, ∀ y ∈ ys, token x = token y → item x = item y)
    {scalar : β → Rpc.TestValue} {array : List β → Rpc.TestValue}
    (h : (scalarOrArray piece asArray xs).tree = (scalarOrArray piece asArray' ys).tree) :
    scalarOrArrayTest item scalar array asArray xs =
      scalarOrArrayTest item scalar array asArray' ys := by
  rw [tree_scalarOrArray hpiece, tree_scalarOrArray hpiece] at h
  unfold scalarOrArrayTest
  cases hx : single? asArray xs with
  | none =>
    cases hy : single? asArray' ys with
    | none =>
      simp only [hx, hy, TokenTree.node.injEq] at h
      have hmap := map_eq_map_of_map_eq (g := item)
        (fun x hxs y hys heq => hitem x hxs y hys (TokenTree.leaf.inj heq)) h.2
      simp only [hmap]
    | some y => simp [hx, hy] at h
  | some x =>
    cases hy : single? asArray' ys with
    | none => simp [hx, hy] at h
    | some y =>
      simp only [hx, hy, TokenTree.leaf.injEq] at h
      simp only [hitem x (single?_mem hx) y (single?_mem hy) h]

end Values

theorem isValue_body (asArray : Bool) (v : FilterValue) : IsValue (v.body asArray) := by
  cases v with
  | int values => exact isValue_scalarOrArray (fun n : Int64 => Piece.isToken_integer n.toInt) _ _
  | number values => exact isValue_scalarOrArray Piece.isToken_double _ _
  | boolean values => exact isValue_scalarOrArray Piece.isToken_bool _ _
  | string values => exact isValue_scalarOrArray Piece.isToken_quoted _ _
  | text values => exact isValue_scalarOrArray Piece.isToken_quoted _ _
  | date values =>
    exact isValue_scalarOrArray (fun t : Timestamp => Piece.isToken_quoted t.rfc3339) _ _
  | geoRange range =>
    have hcentre : Shaped (packed [entry "latitude" [.single range.latitude],
        entry "longitude" [.single range.longitude]]) := shaped_packed (by simp)
    have hdistance : Shaped (entry "max" [.single range.maxDistance]) := by simp
    exact isValue_braces (shaped_packed (by simp [hcentre, hdistance]))

theorem isArgument_document (asArray : Bool) (v : FilterValue) :
    IsArgument v.key (v.document asArray) :=
  isArgument_field (isName_key v) (v.isValue_body asArray)

theorem value_document (asArray : Bool) (v : FilterValue) :
    (v.document asArray).value = (v.body asArray).tree :=
  value_field (isName_key v) (v.isValue_body asArray)

/-- The centre of a circle in a document. -/
def centre (r : GeoRange) : Document :=
  braces (packed [entry "latitude" [.single r.latitude], entry "longitude" [.single r.longitude]])

/-- The radius of a circle in a document. -/
def reach (r : GeoRange) : Document := braces (entry "max" [.single r.maxDistance])

theorem isValue_centre (r : GeoRange) : IsValue (centre r) :=
  isValue_braces (shaped_packed (by simp))

theorem isValue_reach (r : GeoRange) : IsValue (reach r) := isValue_braces (by simp)

theorem arguments_centre (r : GeoRange) : (centre r).tree.arguments =
    [("latitude", tree [.single r.latitude]), ("longitude", tree [.single r.longitude])] := by
  refine (arguments_packed [some (entry "latitude" [.single r.latitude]),
    some (entry "longitude" [.single r.longitude])] (by simp)).trans ?_
  simp +decide

theorem tree_reach (r : GeoRange) : (reach r).tree =
    .node '{' [.leaf (.name "max"), colon, tree [.single r.maxDistance]] := by
  rw [reach, tree_braces (by simp), trees_entry_value (by decide) (isValue_single _)]

theorem arguments_geoRange (r : GeoRange) (asArray : Bool) :
    ((geoRange r).body asArray).tree.arguments =
      [("geoCoordinates", (centre r).tree), ("distance", (reach r).tree)] := by
  refine (arguments_packed [some (entry "geoCoordinates" (centre r)),
    some (entry "distance" (reach r))]
    (by simp [(isValue_centre r).1, (isValue_reach r).1])).trans ?_
  simp +decide [isValue_centre, isValue_reach]

theorem geoRange_eq {r s : GeoRange} {asArray asArray' : Bool}
    (hr : r.latitude.isNaN = false ∧ r.longitude.isNaN = false ∧ r.maxDistance.isNaN = false)
    (hs : s.latitude.isNaN = false ∧ s.longitude.isNaN = false ∧ s.maxDistance.isNaN = false)
    (h : ((geoRange r).body asArray).tree = ((geoRange s).body asArray').tree) : r = s := by
  have harguments := congrArg TokenTree.arguments h
  rw [arguments_geoRange, arguments_geoRange] at harguments
  simp only [List.cons.injEq, Prod.mk.injEq, true_and, and_true] at harguments
  have hcentre := congrArg TokenTree.arguments harguments.1
  rw [arguments_centre, arguments_centre] at hcentre
  simp only [List.cons.injEq, Prod.mk.injEq, true_and, and_true] at hcentre
  have hreach := harguments.2
  rw [tree_reach, tree_reach] at hreach
  simp only [TokenTree.node.injEq, List.cons.injEq, true_and, and_true] at hreach
  have hlatitude := single_inj hr.1 hs.1 hcentre.1
  have hlongitude := single_inj hr.2.1 hs.2.1 hcentre.2
  have hdistance := single_inj hr.2.2 hs.2.2 hreach
  cases r
  cases s
  simp_all

/-- Values under the same key with the same text are the same in messages. -/
theorem message_eq (hok : ok.ExcludesNaN) {v w : FilterValue} (hv : v.Plain ok) (hw : w.Plain ok)
    {asArray asArray' : Bool} (hkey : v.key = w.key)
    (h : (v.body asArray).tree = (w.body asArray').tree) :
    v.message asArray = w.message asArray' := by
  cases v <;> cases w <;> first
    | exact absurd hkey (by simp only [key]; decide)
    | skip
  case int.int xs ys =>
    refine scalarOrArrayTest_eq (fun n : Int64 => Piece.isToken_integer n.toInt)
      (fun x _ y _ hxy => ?_) h
    exact Int64.toInt_inj.1 (intChars_injective (String.ofList_injective (Token.number.inj hxy)))
  case number.number xs ys =>
    exact scalarOrArrayTest_eq Piece.isToken_double (fun x hx y hy =>
      floatToken_injective (hok _ x (hv x hx)) (hok _ y (hw y hy))) h
  case boolean.boolean xs ys =>
    refine scalarOrArrayTest_eq Piece.isToken_bool (fun x _ y _ hxy => ?_) h
    cases x <;> cases y <;> simp_all
  case string.string xs ys =>
    exact scalarOrArrayTest_eq Piece.isToken_quoted (fun x _ y _ => Token.string.inj) h
  case text.text xs ys =>
    exact scalarOrArrayTest_eq Piece.isToken_quoted (fun x _ y _ => Token.string.inj) h
  case date.date xs ys =>
    exact scalarOrArrayTest_eq (fun t : Timestamp => Piece.isToken_quoted t.rfc3339)
      (fun x _ y _ => Token.string.inj) h
  case geoRange.geoRange r s =>
    rw [geoRange_eq ⟨hok _ _ hv.1, hok _ _ hv.2.1, hok _ _ hv.2.2⟩
      ⟨hok _ _ hw.1, hok _ _ hw.2.1, hok _ _ hw.2.2⟩ h]
    rfl

end FilterValue

/-! ## Filters -/

namespace Filter

theorem bodies_eq_map (fs : List Filter) : bodies fs = fs.map fun f => braces f.body := by
  induction fs with
  | nil => rfl
  | cons f fs ih => rw [bodies, ih, List.map_cons]

theorem plainList_iff (fs : List Filter) : PlainList ok fs ↔ ∀ f ∈ fs, f.Plain ok := by
  induction fs with
  | nil => simp [PlainList]
  | cons f fs ih => simp [PlainList, ih]

/-- The arguments in front: the operator and the path. -/
def frontEntries (operator : Option Operator) (path : List String) : List (String × TokenTree) :=
  (operator.map fun operator => ("operator", tree [.word operator.name])).toList ++
    if path.isEmpty then [] else [("path", tree (strings path))]

theorem entries_front (operator : Option Operator) (path : List String)
    (parts : List (Option Document)) :
    entries ((operator.map fun operator => field "operator" [.word operator.name]) ::
      unlessEmpty path (field "path" (strings path)) :: parts) =
        frontEntries operator path ++ entries parts := by
  rw [entries_map_field (by decide) fun operator => isValue_word (Operator.isName_name operator),
    entries_unlessEmpty_field (by decide) (isValue_strings _), frontEntries, List.append_assoc]

theorem tree_bodies {fs : List Filter} : tree (brackets (packed (bodies fs))) =
    .node '[' (fs.map fun f => .node '{' f.body.trees) := by
  have hshaped := shaped_bodies fs
  rw [tree_brackets (shaped_packed hshaped), trees_packed hshaped, bodies_eq_map,
    List.flatMap_map, List.map_eq_flatMap]
  simp only [trees_braces (shaped_body _)]

/-- The arguments behind: the operands, or else the value. -/
def backEntries (value : Option FilterValue) (asArray : Bool) :
    List Filter → List (String × TokenTree)
  | [] => (value.map fun v => (v.key, (v.body asArray).tree)).toList
  | operands => [("operands", .node '[' (operands.map fun f => .node '{' f.body.trees))]

theorem argumentsOf_body (f : Filter) : argumentsOf f.body.trees =
    frontEntries f.operator f.path ++ backEntries f.value f.rendersArray f.operands := by
  obtain ⟨operator, path, value, operands⟩ := f
  cases operands with
  | nil =>
    rw [body, trees_spaced (by simp [valueDocument])]
    refine (entries_front operator path _).trans ?_
    congr 1
    rw [valueDocument, entries_map fun v => v.isArgument_document _]
    simp only [FilterValue.value_document, entries_nil, List.append_nil]
    rfl
  | cons operand operands =>
    have hshaped := shaped_bodies (operand :: operands)
    have hpacked : Shaped (brackets (packed (bodies (operand :: operands)))) :=
      shaped_brackets (shaped_packed hshaped)
    have hvalue : IsValue (brackets (packed (bodies (operand :: operands)))) :=
      isValue_brackets (shaped_packed hshaped)
    rw [body, ← bodies, trees_spaced (by simp [hpacked])]
    refine (entries_front operator path _).trans ?_
    rw [entries_entry (by decide) hvalue, tree_bodies]
    rfl

theorem frontEntries_inj {a b : Filter} {xs ys : List (String × TokenTree)}
    (hx : ∀ e ∈ xs, e.1 ≠ "operator" ∧ e.1 ≠ "path")
    (hy : ∀ e ∈ ys, e.1 ≠ "operator" ∧ e.1 ≠ "path")
    (h : frontEntries a.operator a.path ++ xs = frontEntries b.operator b.path ++ ys) :
    a.operator = b.operator ∧ a.path = b.path ∧ xs = ys := by
  have hnone : ∀ {k : String} {zs : List (String × TokenTree)}, (∀ e ∈ zs, e.1 ≠ k) →
      zs.lookup k = none := by
    intro k zs hzs
    exact List.lookup_eq_none_iff.2 fun e he => by simpa using (hzs e he).symm
  have hoperator : a.operator = b.operator := by
    refine optional_word_inj Operator.isName_name Operator.name_injective ?_
    simpa [frontEntries, List.append_assoc, hnone fun e he => (hx e he).1,
      hnone fun e he => (hy e he).1] using congrArg (List.lookup "operator") h
  have hpath : a.path = b.path := by
    refine optional_strings_inj ?_
    simpa [frontEntries, List.append_assoc, hnone fun e he => (hx e he).2,
      hnone fun e he => (hy e he).2] using congrArg (List.lookup "path") h
  rw [hoperator, hpath] at h
  exact ⟨hoperator, hpath, List.append_cancel_left h⟩

theorem backEntries_ne (value : Option FilterValue) (asArray : Bool) (operands : List Filter) :
    ∀ e ∈ backEntries value asArray operands, e.1 ≠ "operator" ∧ e.1 ≠ "path" := by
  intro e he
  cases operands with
  | nil =>
    simp only [backEntries, Option.mem_toList, Option.map_eq_some_iff] at he
    obtain ⟨v, -, rfl⟩ := he
    exact ⟨v.key_ne.1, v.key_ne.2.1⟩
  | cons operand operands =>
    rw [List.mem_singleton.1 he]
    simp

/-- Operands are told apart from a value by their key. -/
theorem backEntries_nil_ne_cons (value value' : Option FilterValue) (asArray asArray' : Bool)
    (operand : Filter) (operands : List Filter) :
    backEntries value asArray [] ≠ backEntries value' asArray' (operand :: operands) := by
  intro h
  cases value with
  | none => simp [backEntries] at h
  | some v =>
    simp only [backEntries, Option.map_some, Option.toList_some, List.cons.injEq,
      Prod.mk.injEq] at h
    exact v.key_ne.2.2 h.1.1

/-- Values of leaves that differ in nothing but what messages do not hold. -/
theorem testValue_eq (hok : ok.ExcludesNaN) {value value' : Option FilterValue}
    {asArray asArray' : Bool} (ha : ∀ v ∈ value, v.Plain ok) (hb : ∀ v ∈ value', v.Plain ok)
    (h : backEntries value asArray [] = backEntries value' asArray' []) :
    (value.map fun v => v.message asArray) = value'.map fun v => v.message asArray' := by
  cases value <;> cases value' <;> simp only [backEntries, Option.map_none, Option.map_some,
    Option.toList_none, Option.toList_some, List.cons.injEq, Prod.mk.injEq, and_true,
    reduceCtorEq] at h ⊢
  exact congrArg some (FilterValue.message_eq hok (ha _ rfl) (hb _ rfl) h.1 h.2)

/-- The parts of a filter are determined by its text. -/
theorem parts_eq {a b : Filter} (h : a.body.trees = b.body.trees) :
    a.operator = b.operator ∧ a.path = b.path ∧
      backEntries a.value a.rendersArray a.operands =
        backEntries b.value b.rendersArray b.operands := by
  have harguments := congrArg argumentsOf h
  rw [argumentsOf_body, argumentsOf_body] at harguments
  exact frontEntries_inj (backEntries_ne _ _ _) (backEntries_ne _ _ _) harguments

/-- Filters with the same text have the same message, at any depth. -/
theorem message_eq (hok : ok.ExcludesNaN) : ∀ a b : Filter, a.Plain ok → b.Plain ok →
    a.body.trees = b.body.trees → a.message = b.message
  | ⟨operator, path, value, []⟩, ⟨operator', path', value', []⟩, ha, hb, h => by
    obtain ⟨hoperator, hpath, hback⟩ := parts_eq h
    simp only at hoperator hpath
    subst hoperator hpath
    rw [Plain] at ha hb
    have htest := testValue_eq hok ha hb hback
    simp only [message, messages, Rpc.Filters.mk.injEq, true_and]
    cases value with
    | none =>
      cases value' with
      | none => rfl
      | some w => simp at htest
    | some v =>
      cases value' with
      | none => simp at htest
      | some w => exact htest
  | ⟨_, _, _, []⟩, ⟨_, _, _, _ :: _⟩, _, _, h =>
    absurd (parts_eq h).2.2 (backEntries_nil_ne_cons _ _ _ _ _ _)
  | ⟨_, _, _, _ :: _⟩, ⟨_, _, _, []⟩, _, _, h =>
    absurd (parts_eq h).2.2.symm (backEntries_nil_ne_cons _ _ _ _ _ _)
  | ⟨operator, path, value, operand :: operands⟩, ⟨operator', path', value', operand' :: operands'⟩,
      ha, hb, h => by
    obtain ⟨hoperator, hpath, hback⟩ := parts_eq h
    simp only [backEntries, List.cons.injEq, Prod.mk.injEq, TokenTree.node.injEq, true_and,
      and_true] at hoperator hpath hback
    subst hoperator hpath
    -- a value beside operands is neither in the text nor in the message
    have ha' := (plainList_iff (operand :: operands)).1 (by rwa [Plain] at ha)
    have hb' := (plainList_iff (operand' :: operands')).1 (by rwa [Plain] at hb)
    have hmessages : messages (operand :: operands) = messages (operand' :: operands') := by
      rw [messages_eq_map, messages_eq_map]
      refine map_eq_map_of_map_eq (fun x hx y hy hxy => ?_) hback
      rw [TokenTree.node.injEq] at hxy
      exact message_eq hok x y (ha' x hx) (hb' y hy) hxy.2
    simp only [message, hmessages]
termination_by a => sizeOf a
decreasing_by
  have hsize := List.sizeOf_lt_of_mem hx
  simp only [List.cons.sizeOf_spec] at hsize
  simp_wf
  omega

theorem isArgument_document (f : Filter) : IsArgument "where" f.document :=
  isArgument_entry (by decide) (isValue_braces f.shaped_body)

/-- The clauses of filters with the same text have the same message. -/
theorem message_eq_of_value_eq (hok : ok.ExcludesNaN) {a b : Filter} (ha : a.Plain ok)
    (hb : b.Plain ok) (h : a.document.value = b.document.value) : a.message = b.message := by
  rw [document, document, value_entry (by decide) (isValue_braces a.shaped_body),
    value_entry (by decide) (isValue_braces b.shaped_body), tree_braces a.shaped_body,
    tree_braces b.shaped_body, TokenTree.node.injEq] at h
  exact message_eq hok a b ha hb h.2

end Filter

/-! ## Selections -/

namespace Field

/-- The trees of a selection. -/
def treesOf (fields : List Field) : List TokenTree := (documents fields).flatMap trees

theorem trees_selection (fields : List Field) : (selection fields).trees = treesOf fields :=
  trees_spaced (shaped_documents fields)

/-- The group behind a name, if fields are selected of it. -/
def group : List Field → List TokenTree
  | [] => []
  | fields => [.node '{' (treesOf fields)]

theorem treesOf_cons (name : String) (fields rest : List Field) :
    treesOf (⟨name, fields⟩ :: rest) =
      (nameTokens name).map .leaf ++ (group fields ++ treesOf rest) := by
  have hdocument : (document ⟨name, fields⟩).trees =
      (nameTokens name).map .leaf ++ group fields := by
    cases fields with
    | nil =>
      rw [document, trees_unit (show (Piece.word name).IsUnit from trivial)]
      simp [group, Piece.tokens]
    | cons field fields =>
      have hfields := shaped_documents (field :: fields)
      have htrees := trees_append_braces (shaped_word name) (shaped_spaced hfields)
      rw [trees_unit (show (Piece.word name).IsUnit from trivial), trees_spaced hfields] at htrees
      rw [document, ← documents]
      exact htrees
  rw [treesOf, documents, List.flatMap_cons, hdocument, List.append_assoc]
  rfl

/-- A selection is empty or begins with a token, never with a group. -/
theorem treesOf_head (fields : List Field) :
    treesOf fields = [] ∧ fields = [] ∨ ∃ t us, treesOf fields = .leaf t :: us := by
  cases fields with
  | nil => exact Or.inl ⟨rfl, rfl⟩
  | cons field rest =>
    obtain ⟨name, fields⟩ := field
    refine Or.inr ?_
    rw [treesOf_cons]
    rcases nameTokens_cases name with ⟨fragment, -, h⟩ | h <;> rw [h]
    · exact ⟨_, _, rfl⟩
    · exact ⟨_, _, rfl⟩

/-- The tokens of a name show where it ends: a fragment has three and begins with the punctuator
`...`, any other name is one token. -/
theorem nameTokens_append_inj {m n : String} {us vs : List TokenTree}
    (h : (nameTokens m).map TokenTree.leaf ++ us = (nameTokens n).map .leaf ++ vs) :
    m = n ∧ us = vs := by
  rcases nameTokens_cases m with ⟨c, hm, hmt⟩ | hmt <;>
    rcases nameTokens_cases n with ⟨d, hn, hnt⟩ | hnt <;> rw [hmt, hnt] at h
  · simp only [List.map_cons, List.map_nil, List.cons_append, List.nil_append, List.cons.injEq,
      TokenTree.leaf.injEq, Token.name.injEq, true_and] at h
    refine ⟨String.toList_inj.1 ?_, h.2⟩
    rw [toList_of_fragmentClass? hm, toList_of_fragmentClass? hn, h.1]
  · simp at h
  · simp at h
  · simpa using h

/-- Selections with the same text are the same. -/
theorem eq_of_treesOf_eq : ∀ xs ys : List Field, treesOf xs = treesOf ys → xs = ys
  | [], ys, h => by
    rcases treesOf_head ys with ⟨-, hys⟩ | ⟨t, us, hys⟩
    · exact hys.symm
    · rw [hys] at h
      cases h
  | x :: xs, [], h => by
    rcases treesOf_head (x :: xs) with ⟨-, hxs⟩ | ⟨t, us, hxs⟩
    · exact hxs
    · rw [hxs] at h
      cases h
  | ⟨name, fields⟩ :: xs, ⟨name', fields'⟩ :: ys, h => by
    rw [treesOf_cons, treesOf_cons] at h
    obtain ⟨rfl, hrest⟩ := nameTokens_append_inj h
    -- a group behind the name cannot be mistaken for the field after it
    have hgroup : fields = fields' ∧ treesOf xs = treesOf ys := by
      cases hf : fields with
      | nil =>
        cases hf' : fields' with
        | nil => exact ⟨rfl, by simpa [hf, hf', group] using hrest⟩
        | cons y' ys' =>
          rw [hf, hf'] at hrest
          rcases treesOf_head xs with ⟨hxs, -⟩ | ⟨t, us, hxs⟩ <;> rw [hxs] at hrest <;>
            simp [group] at hrest
      | cons x' xs' =>
        cases hf' : fields' with
        | nil =>
          rw [hf, hf'] at hrest
          rcases treesOf_head ys with ⟨hys, -⟩ | ⟨t, us, hys⟩ <;> rw [hys] at hrest <;>
            simp [group] at hrest
        | cons y' ys' =>
          rw [hf, hf'] at hrest
          simp only [group, List.cons_append, List.nil_append, List.cons.injEq,
            TokenTree.node.injEq, true_and] at hrest
          have hfields := eq_of_treesOf_eq fields fields' (by rw [hf, hf']; exact hrest.1)
          exact ⟨by rw [← hf, ← hf', hfields], hrest.2⟩
    rw [hgroup.1, eq_of_treesOf_eq xs ys hgroup.2]
termination_by xs => sizeOf xs

end Field

end VectorQuery
