import VectorQuery.Proofs.Language.Shape

/-!
# The bracket structure of documents

Tokens with matched brackets are grouped into trees: what stands between two brackets is one node. A
shaped document has such a structure, and the trees of a document that is put together from shaped
parts are those of its parts. An argument of a clause is three trees, its name, a colon and its
value, so the arguments of a clause can be told apart whatever their values are.
-/

namespace VectorQuery

open Grammar

namespace Grammar

/-- Tokens grouped by brackets. -/
inductive TokenTree where
  /-- A token that is no bracket. -/
  | leaf (t : Token)
  /-- What stands between an opening bracket and its closing bracket. -/
  | node (opening : Char) (children : List TokenTree)

/-- What a token does to the grouping. -/
inductive Role where
  /-- It opens a group. -/
  | opens (opening : Char)
  /-- It closes a group that the given bracket has opened. -/
  | closes (opening : Char)
  /-- It stands for itself. -/
  | stands

/-- The role of a token. -/
def Token.role : Token → Role
  | punctuator '(' => .opens '('
  | punctuator '[' => .opens '['
  | punctuator '{' => .opens '{'
  | punctuator ')' => .closes '('
  | punctuator ']' => .closes '['
  | punctuator '}' => .closes '{'
  | _ => .stands

/-- The trees of all tokens, if the brackets among them match: `outer` are the groups that are open,
the innermost first, with the trees in front of each, and `done` are the trees of the innermost
group so far. -/
def grow : List (Char × List TokenTree) → List TokenTree → List Token → Option (List TokenTree)
  | [], done, [] => some done
  | _ :: _, _, [] => none
  | outer, done, t :: ts =>
    match t.role, outer with
    | .opens o, outer => grow ((o, done) :: outer) [] ts
    | .closes o, (o', before) :: outer =>
      if o = o' then grow outer (before ++ [.node o done]) ts else none
    | .closes _, [] => none
    | .stands, outer => grow outer (done ++ [.leaf t]) ts

/-- The trees of tokens, if their brackets are properly nested. -/
def forest? (ts : List Token) : Option (List TokenTree) := grow [] [] ts

theorem grow_stands {t : Token} (ht : t.role = .stands) (outer : List (Char × List TokenTree))
    (done : List TokenTree) (ts : List Token) :
    grow outer done (t :: ts) = grow outer (done ++ [.leaf t]) ts := by
  cases outer <;> simp [grow, ht]

theorem grow_all_stand {us : List Token} (hus : ∀ t ∈ us, t.role = .stands)
    (outer : List (Char × List TokenTree)) (done : List TokenTree) (ts : List Token) :
    grow outer done (us ++ ts) = grow outer (done ++ us.map .leaf) ts := by
  induction us generalizing done with
  | nil => simp
  | cons t us ih =>
    rw [List.cons_append, grow_stands (hus t (by simp)), ih fun u hu => hus u (by simp [hu])]
    simp

theorem grow_opens {o : Char} {t : Token} (ht : t.role = .opens o)
    (outer : List (Char × List TokenTree)) (done : List TokenTree) (ts : List Token) :
    grow outer done (t :: ts) = grow ((o, done) :: outer) [] ts := by
  cases outer <;> simp [grow, ht]

theorem grow_closes {o : Char} {t : Token} (ht : t.role = .closes o)
    (outer : List (Char × List TokenTree)) (before done : List TokenTree) (ts : List Token) :
    grow ((o, before) :: outer) done (t :: ts) = grow outer (before ++ [.node o done]) ts := by
  simp [grow, ht]

/-- The arguments among trees, each with its name: as long as there are a name, a colon and a
value. -/
def argumentsOf : List TokenTree → List (String × TokenTree)
  | .leaf (.name name) :: .leaf (.punctuator ':') :: value :: rest =>
    (name, value) :: argumentsOf rest
  | _ => []

/-- The arguments among the trees of a group. -/
def TokenTree.arguments : TokenTree → List (String × TokenTree)
  | .leaf _ => []
  | .node _ children => argumentsOf children

end Grammar

namespace Document

open Piece

variable {d e f : Document}

/-- The trees of a document. -/
def trees (d : Document) : List TokenTree := (forest? d.tokens).getD []

theorem role_floatToken {f : Number.Format} (x : Number.Binary f) :
    (floatToken x).role = .stands := by
  obtain ⟨s, h | h | h⟩ := floatToken_cases x <;> rw [h] <;> rfl

theorem role_nameTokens (s : String) : ∀ t ∈ nameTokens s, t.role = .stands := by
  rcases nameTokens_cases s with ⟨name, -, h⟩ | h <;> rw [h] <;> simp [Token.role]

theorem role_of_isUnit {p : Piece} (hp : p.IsUnit) : ∀ t ∈ p.tokens, t.role = .stands := by
  cases p with
  | mark c => exact hp.elim
  | word name => exact role_nameTokens name
  | single x => exact List.forall_mem_singleton.2 (role_floatToken x)
  | double x => exact List.forall_mem_singleton.2 (role_floatToken x)
  | integer n => exact List.forall_mem_singleton.2 rfl
  | quoted s => exact List.forall_mem_singleton.2 rfl
  | block s => exact List.forall_mem_singleton.2 rfl

theorem role_of_separator {c : Char} (hc : c ∈ separators) :
    ∀ t ∈ (mark c).tokens, t.role = .stands := by
  revert c
  simp [separators, Piece.tokens, ignored, Token.role]

theorem role_of_enclosure {o c : Char} (hoc : (o, c) ∈ enclosures) :
    (Token.punctuator o).role = .opens o ∧ (Token.punctuator c).role = .closes o := by
  simp only [enclosures, List.mem_cons, Prod.mk.injEq, List.not_mem_nil, or_false] at hoc
  rcases hoc with ⟨rfl, rfl⟩ | ⟨rfl, rfl⟩ | ⟨rfl, rfl⟩ <;> exact ⟨rfl, rfl⟩

/-- The tokens of a document add trees to the group that they stand in and leave the groups around
it as they are. -/
def Grows (d : Document) (us : List TokenTree) : Prop :=
  ∀ outer done ts, grow outer done (d.tokens ++ ts) = grow outer (done ++ us) ts

theorem Grows.forest?_tokens {us : List TokenTree} (h : Grows d us) :
    forest? d.tokens = some us := by
  have hend := h [] [] []
  rw [List.append_nil] at hend
  rw [forest?, hend]
  rfl

theorem Grows.trees_eq {us : List TokenTree} (h : Grows d us) : d.trees = us := by
  rw [trees, h.forest?_tokens]
  rfl

theorem grows_unit {p : Piece} (hp : p.IsUnit) : Grows [p] (p.tokens.map .leaf) := by
  intro outer done ts
  simpa using grow_all_stand (role_of_isUnit hp) outer done ts

theorem Grows.separated {c : Char} (hc : c ∈ separators) {us vs : List TokenTree} (hd : Grows d us)
    (he : Grows e vs) : Grows (d ++ mark c :: e) (us ++ ((mark c).tokens.map .leaf ++ vs)) := by
  intro outer done ts
  simp only [tokens_append, tokens_cons, List.append_assoc]
  rw [hd, grow_all_stand (role_of_separator hc), he]
  simp

theorem Grows.enclosed {o c : Char} (hoc : (o, c) ∈ enclosures) {us vs ws : List TokenTree}
    (hd : Grows d us) (he : Grows e vs) (hf : Grows f ws) :
    Grows (d ++ mark o :: (e ++ mark c :: f)) (us ++ .node o vs :: ws) := by
  obtain ⟨ho, hc⟩ := role_of_enclosure hoc
  obtain ⟨-, -, hotokens, hctokens⟩ := tokens_enclosure hoc
  intro outer done ts
  simp only [tokens_append, tokens_cons, hotokens, hctokens, List.append_assoc, List.cons_append,
    List.nil_append]
  rw [hd, grow_opens ho, he, grow_closes hc, hf]
  simp

theorem Shaped.exists_grows (hd : Shaped d) : ∃ us, Grows d us := by
  induction hd with
  | nil => exact ⟨[], fun _ _ _ => by simp⟩
  | unit hp => exact ⟨_, grows_unit hp⟩
  | separated hc _ _ ihd ihe =>
    obtain ⟨us, hus⟩ := ihd
    obtain ⟨vs, hvs⟩ := ihe
    exact ⟨_, hus.separated hc hvs⟩
  | enclosed hoc _ _ _ ihd ihe ihf =>
    obtain ⟨us, hus⟩ := ihd
    obtain ⟨vs, hvs⟩ := ihe
    obtain ⟨ws, hws⟩ := ihf
    exact ⟨_, hus.enclosed hoc hvs hws⟩

theorem Shaped.grows (hd : Shaped d) : Grows d d.trees := by
  obtain ⟨us, hus⟩ := hd.exists_grows
  rwa [hus.trees_eq]

/-! ## Trees of parts -/

theorem trees_unit {p : Piece} (hp : p.IsUnit) : trees [p] = p.tokens.map .leaf :=
  (grows_unit hp).trees_eq

theorem trees_separated {c : Char} (hc : c ∈ separators) (hd : Shaped d) (he : Shaped e) :
    trees (d ++ mark c :: e) = d.trees ++ ((mark c).tokens.map .leaf ++ e.trees) :=
  (hd.grows.separated hc he.grows).trees_eq

theorem trees_enclosed {o c : Char} (hoc : (o, c) ∈ enclosures) (hd : Shaped d) (he : Shaped e)
    (hf : Shaped f) :
    trees (d ++ mark o :: (e ++ mark c :: f)) = d.trees ++ .node o e.trees :: f.trees :=
  (hd.grows.enclosed hoc he.grows hf.grows).trees_eq

@[simp] theorem trees_nil : trees [] = [] := rfl

@[simp] theorem trees_word (s : String) : trees [word s] = (nameTokens s).map .leaf :=
  trees_unit trivial

theorem trees_token {p : Piece} {t : Token} (h : p.IsToken t) : trees [p] = [.leaf t] := by
  rw [trees_unit h.isUnit, h.tokens_eq]
  rfl

@[simp] theorem trees_braces (hd : Shaped d) : trees (braces d) = [.node '{' d.trees] :=
  trees_enclosed (o := '{') (c := '}') (by decide) .nil hd .nil

@[simp] theorem trees_brackets (hd : Shaped d) : trees (brackets d) = [.node '[' d.trees] :=
  trees_enclosed (o := '[') (c := ']') (by decide) .nil hd .nil

theorem trees_append_braces (hd : Shaped d) (he : Shaped e) :
    trees (d ++ braces e) = d.trees ++ [.node '{' e.trees] :=
  trees_enclosed (o := '{') (c := '}') (by decide) hd he .nil

theorem trees_append_parens (hd : Shaped d) (he : Shaped e) :
    trees (d ++ parens e) = d.trees ++ [.node '(' e.trees] :=
  trees_enclosed (o := '(') (c := ')') (by decide) hd he .nil

/-- The colon between a name and its value. -/
abbrev colon : TokenTree := .leaf (.punctuator ':')

@[simp] theorem trees_entry {name : String} (hname : isName name = true) (hd : Shaped d) :
    trees (entry name d) = .leaf (.name name) :: colon :: d.trees := by
  have h := trees_separated (c := ':') (by decide) (shaped_word name) hd
  rw [trees_token (isToken_word hname)] at h
  exact h

theorem trees_blank (hd : Shaped d) : trees (mark ' ' :: d) = d.trees :=
  trees_separated (c := ' ') (by decide) .nil hd

theorem trees_word_blank {s : String} (hs : isName s = true) (hd : Shaped d) :
    trees (word s :: mark ' ' :: d) = .leaf (.name s) :: d.trees := by
  have h := trees_separated (c := ' ') (by decide) (shaped_word s) hd
  rw [trees_token (isToken_word hs)] at h
  exact h

@[simp] theorem trees_field {name : String} (hname : isName name = true) (hd : Shaped d) :
    trees (field name d) = .leaf (.name name) :: colon :: d.trees := by
  rw [← trees_blank hd]
  exact trees_entry hname (Shaped.separator_cons (by decide) hd)

variable {parts : List Document}

theorem trees_intercalate {sep : Document}
    (hsep : ∀ d e : Document, Shaped d → Shaped e →
      Shaped (d ++ sep ++ e) ∧ trees (d ++ sep ++ e) = d.trees ++ e.trees)
    (h : ∀ d ∈ parts, Shaped d) : trees (sep.intercalate parts) = parts.flatMap trees := by
  induction parts with
  | nil => rfl
  | cons a parts ih =>
    have ha := h a (by simp)
    have hparts : ∀ d ∈ parts, Shaped d := fun d hd => h d (by simp [hd])
    cases parts with
    | nil => simp
    | cons b parts =>
      have hrest := shaped_intercalate (fun d e hd he => (hsep d e hd he).1) hparts
      rw [List.intercalate_cons_cons, (hsep _ _ ha hrest).2, ih hparts]
      rfl

@[simp] theorem trees_spaced (h : ∀ d ∈ parts, Shaped d) :
    trees (spaced parts) = parts.flatMap trees := by
  refine trees_intercalate (fun d e hd he => ?_) h
  rw [List.append_assoc]
  exact ⟨.separated (by decide) hd he, trees_separated (c := ' ') (by decide) hd he⟩

@[simp] theorem trees_packed (h : ∀ d ∈ parts, Shaped d) :
    trees (packed parts) = parts.flatMap trees := by
  refine trees_intercalate (fun d e hd he => ?_) h
  rw [List.append_assoc]
  exact ⟨.separated (by decide) hd he, trees_separated (c := ',') (by decide) hd he⟩

@[simp] theorem trees_listed (h : ∀ d ∈ parts, Shaped d) :
    trees (listed parts) = parts.flatMap trees := by
  refine trees_intercalate (fun d e hd he => ?_) h
  have hblank := Shaped.separator_cons (c := ' ') (by decide) he
  rw [List.append_assoc]
  refine ⟨.separated (c := ',') (by decide) hd hblank, ?_⟩
  rw [← trees_blank he]
  exact trees_separated (c := ',') (by decide) hd hblank

theorem trees_array {α : Type} {piece : α → Piece} {token : α → Token}
    (hpiece : ∀ x, (piece x).IsToken (token x)) (values : List α) :
    trees (array piece values) = [.node '[' (values.map fun x => .leaf (token x))] := by
  have hshaped : ∀ d ∈ values.map fun x => [piece x], Shaped d :=
    List.forall_mem_map.2 fun x _ => .unit (hpiece x).isUnit
  rw [array, trees_brackets (shaped_packed hshaped), trees_packed hshaped, List.flatMap_map,
    List.map_eq_flatMap]
  simp only [trees_token (hpiece _)]

@[simp] theorem trees_strings (values : List String) :
    trees (strings values) = [.node '[' (values.map fun s => .leaf (.string s))] :=
  trees_array isToken_quoted values

@[simp] theorem trees_singles (values : List Number.Single) :
    trees (singles values) = [.node '[' (values.map fun x => .leaf (floatToken x))] :=
  trees_array isToken_single values

/-! ## Values -/

/-- A document that is a value: it is one tree. -/
def IsValue (d : Document) : Prop := Shaped d ∧ ∃ t, d.trees = [t]

/-- The tree of a value. -/
def tree (d : Document) : TokenTree := d.trees.headD (.leaf .spread)

theorem IsValue.trees_eq (hd : IsValue d) : d.trees = [d.tree] := by
  obtain ⟨-, t, ht⟩ := hd
  simp [tree, ht]

theorem tree_eq {t : TokenTree} (h : d.trees = [t]) : d.tree = t := by
  simp [tree, h]

theorem isValue_token {p : Piece} {t : Token} (h : p.IsToken t) : IsValue [p] :=
  ⟨.unit h.isUnit, _, trees_token h⟩

theorem tree_token {p : Piece} {t : Token} (h : p.IsToken t) : tree [p] = .leaf t :=
  tree_eq (trees_token h)

@[simp] theorem isValue_integer (n : Int) : IsValue [integer n] :=
  isValue_token (isToken_integer n)

@[simp] theorem isValue_single (x : Number.Single) : IsValue [single x] :=
  isValue_token (isToken_single x)

@[simp] theorem isValue_double (x : Number.Double) : IsValue [double x] :=
  isValue_token (isToken_double x)

@[simp] theorem isValue_quoted (s : String) : IsValue [quoted s] :=
  isValue_token (isToken_quoted s)

@[simp] theorem isValue_bool (b : Bool) : IsValue [bool b] :=
  isValue_token (isToken_bool b)

@[simp] theorem isValue_word {s : String} (hs : isName s = true) : IsValue [word s] :=
  isValue_token (isToken_word hs)

@[simp] theorem isValue_braces (hd : Shaped d) : IsValue (braces d) :=
  ⟨shaped_braces hd, _, trees_braces hd⟩

@[simp] theorem isValue_brackets (hd : Shaped d) : IsValue (brackets d) :=
  ⟨shaped_brackets hd, _, trees_brackets hd⟩

@[simp] theorem isValue_strings (values : List String) : IsValue (strings values) :=
  ⟨shaped_strings values, _, trees_strings values⟩

@[simp] theorem isValue_singles (values : List Number.Single) : IsValue (singles values) :=
  ⟨shaped_singles values, _, trees_singles values⟩

@[simp] theorem tree_integer (n : Int) :
    tree [integer n] = .leaf (.number (String.ofList (Number.intChars n))) :=
  tree_token (isToken_integer n)

@[simp] theorem tree_single (x : Number.Single) : tree [single x] = .leaf (floatToken x) :=
  tree_token (isToken_single x)

@[simp] theorem tree_quoted (s : String) : tree [quoted s] = .leaf (.string s) :=
  tree_token (isToken_quoted s)

@[simp] theorem tree_bool (b : Bool) :
    tree [bool b] = .leaf (.name (if b then "true" else "false")) :=
  tree_token (isToken_bool b)

@[simp] theorem tree_word {s : String} (hs : isName s = true) : tree [word s] = .leaf (.name s) :=
  tree_token (isToken_word hs)

@[simp] theorem tree_braces (hd : Shaped d) : tree (braces d) = .node '{' d.trees :=
  tree_eq (trees_braces hd)

@[simp] theorem tree_brackets (hd : Shaped d) : tree (brackets d) = .node '[' d.trees :=
  tree_eq (trees_brackets hd)

@[simp] theorem tree_strings (values : List String) :
    tree (strings values) = .node '[' (values.map fun s => .leaf (.string s)) :=
  tree_eq (trees_strings values)

@[simp] theorem tree_singles (values : List Number.Single) :
    tree (singles values) = .node '[' (values.map fun x => .leaf (floatToken x)) :=
  tree_eq (trees_singles values)

/-! ## Arguments -/

/-- The arguments that the parts of a clause are. -/
def entries (parts : List (Option Document)) : List (String × TokenTree) :=
  argumentsOf ((given parts).flatMap trees)

section Entries

variable {parts : List (Option Document)} {name : String}

/-- A document that is an argument of a name: the name, a colon and a value. -/
def IsArgument (name : String) (d : Document) : Prop :=
  ∃ v, d.trees = [.leaf (.name name), colon, v]

/-- The value of an argument. -/
def value (d : Document) : TokenTree := (d.trees.drop 2).headD (.leaf .spread)

theorem IsArgument.trees_eq (hd : IsArgument name d) :
    d.trees = [.leaf (.name name), colon, d.value] := by
  obtain ⟨v, hv⟩ := hd
  simp [value, hv]

theorem trees_field_value (hname : isName name = true) (hd : IsValue d) :
    trees (field name d) = [.leaf (.name name), colon, d.tree] := by
  rw [trees_field hname hd.1, hd.trees_eq]

theorem trees_entry_value (hname : isName name = true) (hd : IsValue d) :
    trees (entry name d) = [.leaf (.name name), colon, d.tree] := by
  rw [trees_entry hname hd.1, hd.trees_eq]

theorem isArgument_field (hname : isName name = true) (hd : IsValue d) :
    IsArgument name (field name d) := ⟨_, trees_field_value hname hd⟩

theorem isArgument_entry (hname : isName name = true) (hd : IsValue d) :
    IsArgument name (entry name d) := ⟨_, trees_entry_value hname hd⟩

@[simp] theorem value_field (hname : isName name = true) (hd : IsValue d) :
    value (field name d) = d.tree := by
  simp [value, trees_field_value hname hd]

@[simp] theorem value_entry (hname : isName name = true) (hd : IsValue d) :
    value (entry name d) = d.tree := by
  simp [value, trees_entry_value hname hd]

theorem entries_some (hd : IsArgument name d) :
    entries (some d :: parts) = (name, d.value) :: entries parts := by
  simp [entries, given, hd.trees_eq, argumentsOf]

/-- A part that is left out or an argument adds that argument. -/
theorem entries_map {α : Type} {o : Option α} {name : α → String} {part : α → Document}
    (h : ∀ x, IsArgument (name x) (part x)) : entries (o.map part :: parts) =
      (o.map fun x => (name x, (part x).value)).toList ++ entries parts := by
  cases o with
  | none => rfl
  | some x => exact entries_some (h x)

@[simp] theorem entries_nil : entries [] = [] := rfl

@[simp] theorem entries_none : entries (none :: parts) = entries parts := rfl

@[simp] theorem entries_field (hname : isName name = true) (hd : IsValue d) :
    entries (some (field name d) :: parts) = (name, d.tree) :: entries parts := by
  rw [entries_some (isArgument_field hname hd), value_field hname hd]

@[simp] theorem entries_entry (hname : isName name = true) (hd : IsValue d) :
    entries (some (entry name d) :: parts) = (name, d.tree) :: entries parts := by
  rw [entries_some (isArgument_entry hname hd), value_entry hname hd]

@[simp] theorem entries_map_field {α : Type} {o : Option α} {v : α → Document}
    (hname : isName name = true) (hv : ∀ x, IsValue (v x)) :
    entries ((o.map fun x => field name (v x)) :: parts) =
      (o.map fun x => (name, (v x).tree)).toList ++ entries parts := by
  rw [entries_map fun x => isArgument_field hname (hv x)]
  simp only [value_field hname (hv _)]

@[simp] theorem entries_map_entry {α : Type} {o : Option α} {v : α → Document}
    (hname : isName name = true) (hv : ∀ x, IsValue (v x)) :
    entries ((o.map fun x => entry name (v x)) :: parts) =
      (o.map fun x => (name, (v x).tree)).toList ++ entries parts := by
  rw [entries_map fun x => isArgument_entry hname (hv x)]
  simp only [value_entry hname (hv _)]

@[simp] theorem entries_unless_field {p : Prop} [Decidable p] (hname : isName name = true)
    (hd : IsValue d) : entries ((if p then none else some (field name d)) :: parts) =
      (if p then [] else [(name, d.tree)]) ++ entries parts := by
  split
  · rfl
  · exact entries_field hname hd

@[simp] theorem entries_unless_entry {p : Prop} [Decidable p] (hname : isName name = true)
    (hd : IsValue d) : entries ((if p then none else some (entry name d)) :: parts) =
      (if p then [] else [(name, d.tree)]) ++ entries parts := by
  split
  · rfl
  · exact entries_entry hname hd

theorem entries_unlessEmpty {α : Type} {values : List α} (hd : IsArgument name d) :
    entries (unlessEmpty values d :: parts) =
      (if values.isEmpty then [] else [(name, d.value)]) ++ entries parts := by
  cases values with
  | nil => rfl
  | cons x values => exact entries_some hd

@[simp] theorem entries_unlessEmpty_field {α : Type} {values : List α}
    (hname : isName name = true) (hd : IsValue d) :
    entries (unlessEmpty values (field name d) :: parts) =
      (if values.isEmpty then [] else [(name, d.tree)]) ++ entries parts :=
  entries_unless_field hname hd

@[simp] theorem entries_unlessEmpty_entry {α : Type} {values : List α}
    (hname : isName name = true) (hd : IsValue d) :
    entries (unlessEmpty values (entry name d) :: parts) =
      (if values.isEmpty then [] else [(name, d.tree)]) ++ entries parts :=
  entries_unless_entry hname hd

theorem arguments_spaced (parts : List (Option Document)) (h : ∀ d ∈ given parts, Shaped d) :
    (tree (braces (spaced (given parts)))).arguments = entries parts := by
  rw [tree_braces (shaped_spaced h), trees_spaced h]
  rfl

theorem arguments_packed (parts : List (Option Document)) (h : ∀ d ∈ given parts, Shaped d) :
    (tree (braces (packed (given parts)))).arguments = entries parts := by
  rw [tree_braces (shaped_packed h), trees_packed h]
  rfl

theorem arguments_listed (parts : List (Option Document)) (h : ∀ d ∈ given parts, Shaped d) :
    (tree (braces (listed (given parts)))).arguments = entries parts := by
  rw [tree_braces (shaped_listed h), trees_listed h]
  rfl

/-- The arguments in the value of an argument whose value has parts. -/
theorem arguments_entry_spaced (hname : isName name = true) (h : ∀ d ∈ given parts, Shaped d) :
    (entry name (braces (spaced (given parts)))).value.arguments = entries parts := by
  rw [value_entry hname (isValue_braces (shaped_spaced h)), arguments_spaced parts h]

theorem arguments_entry_listed (hname : isName name = true) (h : ∀ d ∈ given parts, Shaped d) :
    (entry name (braces (listed (given parts)))).value.arguments = entries parts := by
  rw [value_entry hname (isValue_braces (shaped_listed h)), arguments_listed parts h]

/-- Arguments one after another. -/
theorem argumentsOf_flatMap {α : Type} {values : List α} {name : α → String}
    {part : α → Document} (h : ∀ x ∈ values, IsArgument (name x) (part x)) :
    argumentsOf (values.flatMap fun x => (part x).trees) =
      values.map fun x => (name x, (part x).value) := by
  induction values with
  | nil => rfl
  | cons x values ih =>
    rw [List.flatMap_cons, (h x (by simp)).trees_eq]
    exact congrArg ((name x, (part x).value) :: ·) (ih fun y hy => h y (by simp [hy]))

/-- What stands behind arguments does not change them. -/
theorem argumentsOf_append {ds : List Document} (h : ∀ d ∈ ds, ∃ name, IsArgument name d)
    (rest : List TokenTree) :
    argumentsOf (ds.flatMap trees ++ rest) =
      argumentsOf (ds.flatMap trees) ++ argumentsOf rest := by
  induction ds with
  | nil => rfl
  | cons d ds ih =>
    obtain ⟨name, hd⟩ := h d (by simp)
    rw [List.flatMap_cons, List.append_assoc, hd.trees_eq]
    exact congrArg ((name, d.value) :: ·) (ih fun e he => h e (by simp [he]))

@[simp] theorem lookup_cons_ite (k k' : String) {β : Type} (v : β) (rest : List (String × β)) :
    ((k', v) :: rest).lookup k = if k = k' then some v else rest.lookup k := by
  by_cases h : k = k'
  · simp [h]
  · have hne : (k == k') = false := by simpa using h
    rw [List.lookup_cons, hne, if_neg h]

@[simp] theorem lookup_toList_append (k k' : String) {β γ : Type} (o : Option γ) (f : γ → β)
    (rest : List (String × β)) :
    ((o.map fun x => (k', f x)).toList ++ rest).lookup k =
      if k = k' then (o.map f).or (rest.lookup k) else rest.lookup k := by
  cases o with
  | none => simp
  | some x => exact lookup_cons_ite k k' (f x) rest

@[simp] theorem lookup_toList (k k' : String) {β γ : Type} (o : Option γ) (f : γ → β) :
    (o.map fun x => (k', f x)).toList.lookup k = if k = k' then o.map f else none := by
  simpa using lookup_toList_append k k' o f []

@[simp] theorem lookup_ite_append (k k' : String) {β : Type} {p : Prop} [Decidable p] (v : β)
    (rest : List (String × β)) :
    ((if p then [] else [(k', v)]) ++ rest).lookup k =
      if k = k' then (if p then rest.lookup k else some v) else rest.lookup k := by
  split
  · simp
  · exact lookup_cons_ite k k' v rest

@[simp] theorem lookup_ite (k k' : String) {β : Type} {p : Prop} [Decidable p] (v : β) :
    (if p then [] else [(k', v)]).lookup k =
      if k = k' then (if p then none else some v) else none := by
  simpa using lookup_ite_append k k' (p := p) v []

/-- A filter that drops a key drops what is given under it. -/
theorem filter_toList {β γ : Type} {q : String × β → Bool} {k : String} (h : ∀ v, q (k, v) = false)
    (o : Option γ) (f : γ → β) : ((o.map fun x => (k, f x)).toList).filter q = [] := by
  cases o <;> simp [h]

theorem filter_ite {β : Type} {q : String × β → Bool} {k : String} (h : ∀ v, q (k, v) = false)
    {p : Prop} [Decidable p] (v : β) : (if p then [] else [(k, v)]).filter q = [] := by
  split <;> simp [h]

end Entries

end Document

end VectorQuery
