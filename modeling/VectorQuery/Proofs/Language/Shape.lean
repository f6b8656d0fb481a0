import VectorQuery.Document
import VectorQuery.Proofs.Language.Literal

/-!
# How documents are read

A document is shaped when its brackets are matched and a separator or bracket stands between each
two of its other pieces. A shaped document is read piece by piece: the tokens of its text are the
tokens of its pieces, one after another.
-/

namespace VectorQuery

open Grammar Text

/-- A property of floating point numbers of any format. -/
abbrev FloatProperty := (f : Number.Format) → Number.Binary f → Prop

/-- A property that NaN does not have. -/
def FloatProperty.ExcludesNaN (ok : FloatProperty) : Prop :=
  ∀ (f : Number.Format) (x : Number.Binary f), ok f x → x.isNaN = false

/-- A number is finite. -/
def FloatProperty.finite : FloatProperty := fun _ x => x.isFinite = true

theorem FloatProperty.finite_excludesNaN : FloatProperty.finite.ExcludesNaN := by
  intro f x hx
  simp only [finite, Number.Binary.isFinite, Number.Binary.isNaN, decide_eq_true_eq,
    decide_eq_false_iff_not] at hx ⊢
  omega

variable {ok : FloatProperty}

namespace Piece

/-- The tokens that a piece is read as. -/
def tokens : Piece → List Token
  | mark c => if c ∈ ignored then [] else [.punctuator c]
  | word name => nameTokens name
  | integer n => [.number (String.ofList (Number.intChars n))]
  | single x => [floatToken x]
  | double x => [floatToken x]
  | quoted s => [.string s]
  | block s => [.block s]

/-- Whether a piece can be read: a word is the name of a field, and a floating point number has a
property that NaN does not have. Block strings, which have rules of their own, are left aside. -/
def Legible (ok : FloatProperty) : Piece → Prop
  | word name => isFieldName name = true
  | single x => ok _ x
  | double x => ok _ x
  | block _ => False
  | _ => True

/-- Whether a piece is a unit of its own, and no mark between units. -/
def IsUnit : Piece → Prop
  | mark _ => False
  | _ => True

/-- A unit is read as its tokens when a delimiter stands behind it. -/
theorem tokens_chars {p : Piece} (hok : ok.ExcludesNaN) (hunit : p.IsUnit) (h : p.Legible ok)
    {rest : List Char} (hrest : Delimited rest) :
    Grammar.tokens (p.chars ++ rest) = p.tokens ++ Grammar.tokens rest := by
  cases p with
  | mark c => exact hunit.elim
  | word name => exact tokens_fieldName h hrest
  | integer n => exact tokens_integer n hrest
  | single x => exact tokens_float (hok _ x h) hrest
  | double x => exact tokens_float (hok _ x h) hrest
  | quoted s => exact tokens_quoted s hrest
  | block s => exact h.elim

/-- A piece that is read as one token. -/
structure IsToken (p : Piece) (t : Token) : Prop where
  /-- It is no mark. -/
  isUnit : p.IsUnit
  /-- Its tokens are the one. -/
  tokens_eq : p.tokens = [t]

theorem isToken_integer (n : Int) :
    (integer n).IsToken (.number (String.ofList (Number.intChars n))) := ⟨trivial, rfl⟩

theorem isToken_single (x : Number.Single) : (single x).IsToken (floatToken x) := ⟨trivial, rfl⟩

theorem isToken_double (x : Number.Double) : (double x).IsToken (floatToken x) := ⟨trivial, rfl⟩

theorem isToken_quoted (s : String) : (quoted s).IsToken (.string s) := ⟨trivial, rfl⟩

theorem isToken_word {s : String} (hs : isName s = true) : (word s).IsToken (.name s) :=
  ⟨trivial, nameTokens_of_isName hs⟩

theorem isToken_bool (b : Bool) : (bool b).IsToken (.name (if b then "true" else "false")) :=
  isToken_word (by cases b <;> decide)

end Piece

namespace Document

open Piece

variable {d e f : Document}

/-- The marks that stand between units. -/
def separators : List Char := [' ', ',', ':']

/-- The marks that enclose parts. -/
def enclosures : List (Char × Char) := [('(', ')'), ('[', ']'), ('{', '}')]

/-- A document with matched brackets in which every two units are apart. -/
inductive Shaped : Document → Prop where
  /-- Nothing. -/
  | nil : Shaped []
  /-- One unit. -/
  | unit {p : Piece} (hp : p.IsUnit) : Shaped [p]
  /-- Two parts with a separator between them. -/
  | separated {d e : Document} {c : Char} (hc : c ∈ separators) (hd : Shaped d) (he : Shaped e) :
    Shaped (d ++ mark c :: e)
  /-- A part in brackets between two parts. -/
  | enclosed {d e f : Document} {o c : Char} (hoc : (o, c) ∈ enclosures) (hd : Shaped d)
    (he : Shaped e) (hf : Shaped f) : Shaped (d ++ mark o :: (e ++ mark c :: f))

/-- A document all of whose pieces can be read. -/
def Legible (ok : FloatProperty) (d : Document) : Prop := ∀ p ∈ d, p.Legible ok

/-- The tokens of the pieces of a document. -/
def tokens (d : Document) : List Token := d.flatMap Piece.tokens

@[simp] theorem legible_nil : Legible ok [] := by simp [Legible]

@[simp] theorem legible_cons {p : Piece} : Legible ok (p :: d) ↔ p.Legible ok ∧ Legible ok d := by
  simp [Legible]

@[simp] theorem legible_append : Legible ok (d ++ e) ↔ Legible ok d ∧ Legible ok e := by
  simp only [Legible, List.mem_append]
  exact ⟨fun h => ⟨fun p hp => h p (Or.inl hp), fun p hp => h p (Or.inr hp)⟩,
    fun h p hp => hp.elim (h.1 p) (h.2 p)⟩

@[simp] theorem tokens_nil : tokens [] = [] := rfl

@[simp] theorem tokens_cons (p : Piece) (d : Document) : tokens (p :: d) = p.tokens ++ tokens d :=
  rfl

@[simp] theorem tokens_append (d e : Document) : tokens (d ++ e) = tokens d ++ tokens e :=
  List.flatMap_append

/-! ## Reading -/

theorem tokens_separator {c : Char} (hc : c ∈ separators) (cs : List Char) :
    Grammar.tokens (c :: cs) = (mark c).tokens ++ Grammar.tokens cs := by
  have h : ∀ c ∈ separators, c ∈ ignored ∨ c ∈ punctuators ∧ c ∉ ignored :=
    forall_mem_of_all (by decide)
  rcases h c hc with hignored | ⟨hpunctuator, hignored⟩
  · rw [tokens_ignored hignored, Piece.tokens, if_pos hignored, List.nil_append]
  · rw [tokens_punctuator hpunctuator, Piece.tokens, if_neg hignored, List.cons_append,
      List.nil_append]

theorem tokens_enclosure {o c : Char} (hoc : (o, c) ∈ enclosures) :
    (∀ cs, Grammar.tokens (o :: cs) = .punctuator o :: Grammar.tokens cs) ∧
      (∀ cs, Grammar.tokens (c :: cs) = .punctuator c :: Grammar.tokens cs) ∧
      (mark o).tokens = [.punctuator o] ∧ (mark c).tokens = [.punctuator c] := by
  have h : ∀ b ∈ enclosures, (b.1 ∈ punctuators ∧ b.1 ∉ ignored) ∧
      b.2 ∈ punctuators ∧ b.2 ∉ ignored := forall_mem_of_all (by decide)
  obtain ⟨ho, hc⟩ := h (o, c) hoc
  exact ⟨tokens_punctuator ho.1, tokens_punctuator hc.1, if_neg ho.2, if_neg hc.2⟩

theorem delimited_separator {c : Char} (hc : c ∈ separators) (cs : List Char) :
    Delimited (c :: cs) := by
  have h : ∀ c ∈ separators, c ∈ delimiters := forall_mem_of_all (by decide)
  exact Delimited.cons (h c hc) cs

theorem delimited_enclosure {o c : Char} (hoc : (o, c) ∈ enclosures) (cs : List Char) :
    Delimited (o :: cs) ∧ Delimited (c :: cs) := by
  have h : ∀ b ∈ enclosures, b.1 ∈ delimiters ∧ b.2 ∈ delimiters := forall_mem_of_all (by decide)
  exact ⟨Delimited.cons (h (o, c) hoc).1 cs, Delimited.cons (h (o, c) hoc).2 cs⟩

/-- A shaped document is read piece by piece, whatever follows its delimiter. -/
theorem Shaped.tokens_chars_append (hok : ok.ExcludesNaN) (hd : Shaped d)
    (hlegible : Legible ok d) {rest : List Char} (hrest : Delimited rest) :
    Grammar.tokens (d.chars ++ rest) = d.tokens ++ Grammar.tokens rest := by
  induction hd generalizing rest with
  | nil => rfl
  | unit hp =>
    have hp' := (legible_cons.1 hlegible).1
    simpa using Piece.tokens_chars hok hp hp' hrest
  | @separated d e c hc hd he ihd ihe =>
    simp only [legible_append, legible_cons] at hlegible
    have hchars : chars (d ++ mark c :: e) ++ rest = chars d ++ c :: (chars e ++ rest) := by
      simp [Piece.chars]
    rw [hchars, ihd hlegible.1 (delimited_separator hc _), tokens_separator hc,
      ihe hlegible.2.2 hrest]
    simp
  | @enclosed d e f o c hoc hd he hf ihd ihe ihf =>
    simp only [legible_append, legible_cons] at hlegible
    have hchars : chars (d ++ mark o :: (e ++ mark c :: f)) ++ rest =
        chars d ++ o :: (chars e ++ c :: (chars f ++ rest)) := by
      simp [Piece.chars]
    obtain ⟨ho, hc, ho', hc'⟩ := tokens_enclosure hoc
    rw [hchars, ihd hlegible.1 (delimited_enclosure hoc _).1, ho,
      ihe hlegible.2.2.1 (delimited_enclosure hoc _).2, hc, ihf hlegible.2.2.2.2 hrest]
    simp [ho', hc']

/-- The tokens of the text of a shaped document are the tokens of its pieces. -/
theorem Shaped.tokensOf_text (hok : ok.ExcludesNaN) (hd : Shaped d) (hlegible : Legible ok d) :
    tokensOf d.text = d.tokens := by
  have h := hd.tokens_chars_append hok hlegible Delimited.nil
  rw [Grammar.tokens_nil, List.append_nil, List.append_nil] at h
  rw [tokensOf, text, String.toList_ofList, h]

/-! ## Parts -/

@[simp] theorem shaped_nil : Shaped [] := .nil

@[simp] theorem shaped_word (s : String) : Shaped [word s] := .unit trivial

@[simp] theorem shaped_integer (n : Int) : Shaped [integer n] := .unit trivial

@[simp] theorem shaped_single (x : Number.Single) : Shaped [single x] := .unit trivial

@[simp] theorem shaped_double (x : Number.Double) : Shaped [double x] := .unit trivial

@[simp] theorem shaped_quoted (s : String) : Shaped [quoted s] := .unit trivial

@[simp] theorem shaped_bool (b : Bool) : Shaped [bool b] := .unit trivial

/-- A part behind a word and a separator. -/
theorem Shaped.word_separated {s : String} {c : Char} (hc : c ∈ separators) (hd : Shaped d) :
    Shaped (word s :: mark c :: d) := .separated hc (shaped_word s) hd

theorem Shaped.separator_cons {c : Char} (hc : c ∈ separators) (hd : Shaped d) :
    Shaped (mark c :: d) := .separated hc .nil hd

theorem Shaped.append_braces (hd : Shaped d) (he : Shaped e) : Shaped (d ++ braces e) :=
  .enclosed (o := '{') (c := '}') (by decide) hd he .nil

theorem Shaped.append_parens (hd : Shaped d) (he : Shaped e) : Shaped (d ++ parens e) :=
  .enclosed (o := '(') (c := ')') (by decide) hd he .nil

@[simp] theorem shaped_braces (hd : Shaped d) : Shaped (braces d) :=
  .enclosed (by decide) .nil hd .nil

@[simp] theorem shaped_brackets (hd : Shaped d) : Shaped (brackets d) :=
  .enclosed (by decide) .nil hd .nil

@[simp] theorem shaped_field {name : String} (hd : Shaped d) : Shaped (field name d) :=
  .word_separated (by decide) (.separator_cons (by decide) hd)

@[simp] theorem shaped_entry {name : String} (hd : Shaped d) : Shaped (entry name d) :=
  .word_separated (by decide) hd

/-! ## Lists of parts -/

/-- What a part of a list yields is not changed by separators that yield nothing. -/
theorem flatMap_intercalate {α β : Type} {f : α → List β} {sep : List α} (h : sep.flatMap f = [])
    (parts : List (List α)) :
    (sep.intercalate parts).flatMap f = parts.flatMap fun part => part.flatMap f := by
  induction parts with
  | nil => rfl
  | cons a parts ih =>
    cases parts with
    | nil => simp
    | cons b parts =>
      rw [List.intercalate_cons_cons, List.flatMap_append, List.flatMap_append, h, ih,
        List.append_nil]
      rfl

variable {parts : List Document}

theorem shaped_intercalate {sep : Document}
    (hsep : ∀ d e : Document, Shaped d → Shaped e → Shaped (d ++ sep ++ e))
    (h : ∀ d ∈ parts, Shaped d) : Shaped (sep.intercalate parts) := by
  induction parts with
  | nil => exact .nil
  | cons a parts ih =>
    have ha := h a (by simp)
    have hparts := ih fun d hd => h d (by simp [hd])
    cases parts with
    | nil => simpa using ha
    | cons b parts =>
      rw [List.intercalate_cons_cons]
      exact hsep _ _ ha hparts

theorem legible_intercalate {sep : Document} (hsep : Legible ok sep) :
    Legible ok (sep.intercalate parts) ↔ ∀ d ∈ parts, Legible ok d := by
  induction parts with
  | nil => simp
  | cons a parts ih =>
    cases parts with
    | nil => simp
    | cons b parts =>
      rw [List.intercalate_cons_cons, legible_append, legible_append, ih,
        List.forall_mem_cons (a := a)]
      simp [hsep]

@[simp] theorem shaped_spaced (h : ∀ d ∈ parts, Shaped d) : Shaped (spaced parts) :=
  shaped_intercalate (fun d e hd he => by
    simpa using Shaped.separated (c := ' ') (by decide) hd he) h

@[simp] theorem shaped_packed (h : ∀ d ∈ parts, Shaped d) : Shaped (packed parts) :=
  shaped_intercalate (fun d e hd he => by
    simpa using Shaped.separated (c := ',') (by decide) hd he) h

@[simp] theorem shaped_listed (h : ∀ d ∈ parts, Shaped d) : Shaped (listed parts) :=
  shaped_intercalate (fun d e hd he => by
    simpa using Shaped.separated (c := ',') (by decide) hd
      (Shaped.separator_cons (c := ' ') (by decide) he)) h

@[simp] theorem shaped_array {α : Type} {piece : α → Piece} {values : List α}
    (h : ∀ x, Shaped [piece x]) : Shaped (array piece values) :=
  shaped_brackets (shaped_packed fun d hd => by
    obtain ⟨x, -, rfl⟩ := List.mem_map.1 hd
    exact h x)

@[simp] theorem shaped_strings (values : List String) : Shaped (strings values) :=
  shaped_array shaped_quoted

@[simp] theorem shaped_singles (values : List Number.Single) : Shaped (singles values) :=
  shaped_array shaped_single

@[simp] theorem legible_mark (c : Char) : (mark c).Legible ok := trivial

@[simp] theorem legible_integer (n : Int) : (integer n).Legible ok := trivial

@[simp] theorem legible_quoted (s : String) : (quoted s).Legible ok := trivial

@[simp] theorem legible_bool (b : Bool) : (bool b).Legible ok := by
  cases b with
  | true => exact (by decide : isFieldName "true" = true)
  | false => exact (by decide : isFieldName "false" = true)

@[simp] theorem legible_word {s : String} : (word s).Legible ok ↔ isFieldName s = true := Iff.rfl

@[simp] theorem legible_single {x : Number.Single} : (single x).Legible ok ↔ ok _ x := Iff.rfl

@[simp] theorem legible_double {x : Number.Double} : (double x).Legible ok ↔ ok _ x := Iff.rfl

@[simp] theorem legible_braces : Legible ok (braces d) ↔ Legible ok d := by simp [braces]

@[simp] theorem legible_brackets : Legible ok (brackets d) ↔ Legible ok d := by simp [brackets]

@[simp] theorem legible_parens : Legible ok (parens d) ↔ Legible ok d := by simp [parens]

@[simp] theorem legible_field {name : String} :
    Legible ok (field name d) ↔ isFieldName name = true ∧ Legible ok d := by simp [field]

@[simp] theorem legible_entry {name : String} :
    Legible ok (entry name d) ↔ isFieldName name = true ∧ Legible ok d := by simp [entry]

@[simp] theorem legible_spaced : Legible ok (spaced parts) ↔ ∀ d ∈ parts, Legible ok d :=
  legible_intercalate (by simp)

@[simp] theorem legible_packed : Legible ok (packed parts) ↔ ∀ d ∈ parts, Legible ok d :=
  legible_intercalate (by simp)

@[simp] theorem legible_listed : Legible ok (listed parts) ↔ ∀ d ∈ parts, Legible ok d :=
  legible_intercalate (by simp)

@[simp] theorem legible_array {α : Type} {piece : α → Piece} {values : List α} :
    Legible ok (array piece values) ↔ ∀ x ∈ values, (piece x).Legible ok := by
  simp [array]

@[simp] theorem legible_strings (values : List String) : Legible ok (strings values) := by
  simp [strings]

@[simp] theorem legible_singles {values : List Number.Single} :
    Legible ok (singles values) ↔ ∀ x ∈ values, ok _ x := by
  simp [singles]

/-! ## Parts that may be left out -/

@[simp] theorem given_nil : given [] = [] := rfl

/-- A part has a property unless it is left out. -/
def WhenGiven (P : Document → Prop) (part : Option Document) : Prop := ∀ d ∈ part, P d

variable {P : Document → Prop}

@[simp] theorem forall_mem_given_cons {o : Option Document} {os : List (Option Document)} :
    (∀ d ∈ given (o :: os), P d) ↔ WhenGiven P o ∧ ∀ d ∈ given os, P d := by
  cases o <;> simp [given, WhenGiven]

@[simp] theorem whenGiven_none : WhenGiven P none := by simp [WhenGiven]

@[simp] theorem whenGiven_some : WhenGiven P (some d) ↔ P d := by simp [WhenGiven]

@[simp] theorem whenGiven_map {α : Type} {o : Option α} {part : α → Document} :
    WhenGiven P (o.map part) ↔ ∀ a, o = some a → P (part a) := by
  cases o <;> simp [WhenGiven]

@[simp] theorem whenGiven_unless {p : Prop} [Decidable p] :
    WhenGiven P (if p then none else some d) ↔ (¬p → P d) := by
  split <;> simp [*]

@[simp] theorem whenGiven_unlessEmpty {α : Type} {values : List α} :
    WhenGiven P (unlessEmpty values d) ↔ (values ≠ [] → P d) := by
  cases values <;> simp [unlessEmpty]

end Document

end VectorQuery
