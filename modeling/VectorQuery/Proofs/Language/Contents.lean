import VectorQuery.Proofs.Language.Tree

/-!
# The strings in documents

A string enters a document as a quoted piece, and such a piece is read as one string token. So the
string tokens of a shaped document are the strings of its pieces, and what the strings hold has no
influence on the other tokens: the document whose strings are erased is read as the same tokens with
their strings erased.
-/

namespace VectorQuery

open Grammar

namespace Grammar

/-- A token with nothing in its string. -/
def Token.erased : Token → Token
  | string _ => string ""
  | t => t

/-- The string with nothing in it, in place of another. -/
def erasedString (_ : String) : String := ""

/-- A text is read without error, its brackets are properly nested, and its string tokens hold the
given strings in their order. -/
structure ReadsWith (text : String) (contents : List String) : Prop where
  /-- Everywhere a token begins. -/
  noStray : ∀ t ∈ tokensOf text, t.isStray = false
  /-- The brackets are properly nested. -/
  nested : (forest? (tokensOf text)).isSome = true
  /-- The strings are the given ones. -/
  strings : (tokensOf text).filterMap Token.string? = contents

end Grammar

namespace Piece

/-- The strings that a piece quotes, one or none. -/
def contents : Piece → List String
  | quoted s => [s]
  | _ => []

/-- A piece with nothing in its quotes. -/
def erased : Piece → Piece
  | quoted _ => quoted ""
  | p => p

theorem filterMap_string?_tokens (p : Piece) : p.tokens.filterMap Token.string? = p.contents := by
  have hfloat : ∀ {f : Number.Format} (x : Number.Binary f),
      [floatToken x].filterMap Token.string? = [] := by
    intro f x
    obtain ⟨s, h | h | h⟩ := floatToken_cases x <;> rw [h] <;> rfl
  cases p with
  | mark c =>
    simp only [tokens]
    split <;> rfl
  | word name =>
    rcases nameTokens_cases name with ⟨s, -, h⟩ | h <;> rw [tokens, h] <;> rfl
  | single x => exact hfloat x
  | double x => exact hfloat x
  | _ => rfl

theorem tokens_erased (p : Piece) : p.erased.tokens = p.tokens.map Token.erased := by
  have hfloat : ∀ {f : Number.Format} (x : Number.Binary f),
      [floatToken x].map Token.erased = [floatToken x] := by
    intro f x
    obtain ⟨s, h | h | h⟩ := floatToken_cases x <;> rw [h] <;> rfl
  cases p with
  | mark c =>
    simp only [erased, tokens]
    split <;> rfl
  | word name =>
    rcases nameTokens_cases name with ⟨s, -, h⟩ | h <;> simp [erased, tokens, h, Token.erased]
  | single x => exact (hfloat x).symm
  | double x => exact (hfloat x).symm
  | _ => rfl

theorem isStray_tokens {p : Piece} (h : p.Legible .finite) : ∀ t ∈ p.tokens, t.isStray = false := by
  have hfloat : ∀ {f : Number.Format} {x : Number.Binary f}, FloatProperty.finite _ x →
      (floatToken x).isStray = false := by
    intro f x hx
    have hfinite : x.isFinite = true := hx
    rw [floatToken, if_pos hfinite]
    rfl
  cases p with
  | mark c =>
    simp only [tokens]
    split <;> simp [Token.isStray]
  | word name =>
    rcases nameTokens_cases name with ⟨s, -, hs⟩ | hs <;> rw [tokens, hs] <;> simp [Token.isStray]
  | single x => exact List.forall_mem_singleton.2 (hfloat h)
  | double x => exact List.forall_mem_singleton.2 (hfloat h)
  | block s => exact h.elim
  | integer n => exact List.forall_mem_singleton.2 rfl
  | quoted s => exact List.forall_mem_singleton.2 rfl

end Piece

namespace Document

open Piece

variable {d e : Document} {parts : List Document}

/-- The strings of a document. -/
def contents (d : Document) : List String := d.flatMap Piece.contents

/-- A document with nothing in its quotes. -/
def erased (d : Document) : Document := d.map Piece.erased

theorem filterMap_string?_tokens (d : Document) :
    d.tokens.filterMap Token.string? = d.contents := by
  rw [tokens, contents, List.filterMap_flatMap]
  exact congrArg (d.flatMap ·) (funext Piece.filterMap_string?_tokens)

theorem tokens_erased (d : Document) : d.erased.tokens = d.tokens.map Token.erased := by
  rw [tokens, tokens, erased, List.flatMap_map, List.map_flatMap]
  exact congrArg (d.flatMap ·) (funext Piece.tokens_erased)

theorem isStray_tokens (h : Legible .finite d) : ∀ t ∈ d.tokens, t.isStray = false := by
  intro t ht
  obtain ⟨p, hp, ht⟩ := List.mem_flatMap.1 ht
  exact Piece.isStray_tokens (h p hp) t ht

/-- A shaped document is read without error, whatever its strings hold. -/
theorem Shaped.readsWith (hd : Shaped d) (hlegible : Legible .finite d) :
    ReadsWith d.text d.contents := by
  have htokens := hd.tokensOf_text FloatProperty.finite_excludesNaN hlegible
  refine ⟨?_, ?_, ?_⟩
  · rw [htokens]
    exact isStray_tokens hlegible
  · rw [htokens, hd.grows.forest?_tokens]
    rfl
  · rw [htokens, filterMap_string?_tokens]

/-- Shaped documents that are alike but for their strings are read alike but for their strings. -/
theorem Shaped.erased_tokensOf_text (hd : Shaped d) (hdl : Legible .finite d) (he : Shaped e)
    (hel : Legible .finite e) (h : d.erased = e.erased) :
    (tokensOf d.text).map Token.erased = (tokensOf e.text).map Token.erased := by
  rw [hd.tokensOf_text FloatProperty.finite_excludesNaN hdl,
    he.tokensOf_text FloatProperty.finite_excludesNaN hel, ← tokens_erased, ← tokens_erased, h]

/-! ## Strings of parts -/

@[simp] theorem contents_nil : contents [] = [] := rfl

@[simp] theorem contents_cons (p : Piece) (d : Document) :
    contents (p :: d) = p.contents ++ d.contents := rfl

@[simp] theorem contents_append (d e : Document) : contents (d ++ e) = d.contents ++ e.contents :=
  List.flatMap_append

@[simp] theorem contents_mark (c : Char) : (mark c).contents = [] := rfl

@[simp] theorem contents_word (s : String) : (word s).contents = [] := rfl

@[simp] theorem contents_integer (n : Int) : (integer n).contents = [] := rfl

@[simp] theorem contents_single (x : Number.Single) : (single x).contents = [] := rfl

@[simp] theorem contents_double (x : Number.Double) : (double x).contents = [] := rfl

@[simp] theorem contents_bool (b : Bool) : (bool b).contents = [] := rfl

@[simp] theorem contents_quoted (s : String) : (quoted s).contents = [s] := rfl

@[simp] theorem contents_braces (d : Document) : (braces d).contents = d.contents := by
  simp [braces]

@[simp] theorem contents_brackets (d : Document) : (brackets d).contents = d.contents := by
  simp [brackets]

@[simp] theorem contents_parens (d : Document) : (parens d).contents = d.contents := by
  simp [parens]

@[simp] theorem contents_field (name : String) (d : Document) :
    (field name d).contents = d.contents := rfl

@[simp] theorem contents_entry (name : String) (d : Document) :
    (entry name d).contents = d.contents := rfl

@[simp] theorem contents_spaced (parts : List Document) :
    (spaced parts).contents = parts.flatMap contents := flatMap_intercalate rfl parts

@[simp] theorem contents_packed (parts : List Document) :
    (packed parts).contents = parts.flatMap contents := flatMap_intercalate rfl parts

@[simp] theorem contents_listed (parts : List Document) :
    (listed parts).contents = parts.flatMap contents := flatMap_intercalate rfl parts

@[simp] theorem contents_array {α : Type} (piece : α → Piece) (values : List α) :
    (array piece values).contents = values.flatMap fun x => (piece x).contents := by
  simp [array, List.flatMap_map]

@[simp] theorem contents_strings (values : List String) : (strings values).contents = values := by
  simp [strings]

@[simp] theorem contents_singles (values : List Number.Single) :
    (singles values).contents = [] := by
  simp [singles]

@[simp] theorem flatMap_given {β : Type} (f : Document → List β) (os : List (Option Document)) :
    (given os).flatMap f = os.flatMap fun o => o.toList.flatMap f := by
  induction os with
  | nil => rfl
  | cons o os ih => cases o <;> simpa [given] using ih

@[simp] theorem flatMap_nothing {α β : Type} (values : List α) :
    (values.flatMap fun _ => ([] : List β)) = [] := by
  simp

@[simp] theorem contents_map {α : Type} (o : Option α) (part : α → Document) :
    (o.map part).toList.flatMap contents = o.toList.flatMap fun x => (part x).contents := by
  cases o <;> simp

@[simp] theorem contents_unless {p : Prop} [Decidable p] (h : d.contents = []) :
    (if p then none else some d).toList.flatMap contents = [] := by
  split <;> simp [h]

/-- A part that shows values holds what it holds, whether it is left out or not, if without values
there is nothing to hold. -/
@[simp] theorem contents_unlessEmpty {α : Type} {values : List α}
    (h : values = [] → d.contents = []) :
    (unlessEmpty values d).toList.flatMap contents = d.contents := by
  cases values with
  | nil => simpa [unlessEmpty] using (h rfl).symm
  | cons value values => simp [unlessEmpty]

/-! ## Erased parts -/

@[simp] theorem erased_nil : erased [] = [] := rfl

@[simp] theorem erased_cons (p : Piece) (d : Document) : erased (p :: d) = p.erased :: d.erased :=
  rfl

@[simp] theorem erased_append (d e : Document) : erased (d ++ e) = d.erased ++ e.erased :=
  List.map_append

@[simp] theorem erased_mark (c : Char) : (mark c).erased = mark c := rfl

@[simp] theorem erased_word (s : String) : (word s).erased = word s := rfl

@[simp] theorem erased_quoted (s : String) : (quoted s).erased = quoted "" := rfl

@[simp] theorem erased_braces (d : Document) : (braces d).erased = braces d.erased := by
  simp [braces]

@[simp] theorem erased_brackets (d : Document) : (brackets d).erased = brackets d.erased := by
  simp [brackets]

@[simp] theorem erased_parens (d : Document) : (parens d).erased = parens d.erased := by
  simp [parens]

@[simp] theorem erased_field (name : String) (d : Document) :
    (field name d).erased = field name d.erased := rfl

@[simp] theorem erased_entry (name : String) (d : Document) :
    (entry name d).erased = entry name d.erased := rfl

theorem erased_intercalate {sep : Document} (h : sep.erased = sep) (parts : List Document) :
    erased (sep.intercalate parts) = sep.intercalate (parts.map erased) := by
  induction parts with
  | nil => rfl
  | cons d parts ih =>
    cases parts with
    | nil => simp
    | cons e parts =>
      rw [List.intercalate_cons_cons, erased_append, erased_append, ih, h]
      simp [List.intercalate_cons_cons]

@[simp] theorem erased_spaced (parts : List Document) :
    (spaced parts).erased = spaced (parts.map erased) := erased_intercalate rfl parts

@[simp] theorem erased_packed (parts : List Document) :
    (packed parts).erased = packed (parts.map erased) := erased_intercalate rfl parts

@[simp] theorem erased_listed (parts : List Document) :
    (listed parts).erased = listed (parts.map erased) := erased_intercalate rfl parts

@[simp] theorem erased_array {α : Type} (piece : α → Piece) (values : List α) :
    (array piece values).erased = array (fun x => (piece x).erased) values := by
  simp [array, Function.comp_def]

@[simp] theorem erased_strings_map (f : String → String) (values : List String) :
    (strings (values.map f)).erased = (strings values).erased := by
  simp only [strings, erased_array, erased_quoted]
  simp only [array, List.map_map, Function.comp_def]

@[simp] theorem map_given (f : Document → Document) (os : List (Option Document)) :
    (given os).map f = given (os.map (Option.map f)) := by
  induction os with
  | nil => rfl
  | cons o os ih => cases o <;> simpa [given] using ih

@[simp] theorem map_unlessEmpty {α : Type} (f : Document → Document) (values : List α) :
    (unlessEmpty values d).map f = unlessEmpty values (f d) := by
  cases values <;> rfl

@[simp] theorem unlessEmpty_map {α β : Type} (f : α → β) (values : List α) (d : Document) :
    unlessEmpty (values.map f) d = unlessEmpty values d := by
  cases values <;> rfl

end Document

end VectorQuery
