import VectorQuery.Proofs.Language.Token
import VectorQuery.Proofs.Number.Plain
import VectorQuery.Proofs.Text.Quoted
import VectorQuery.Selection.Request

/-!
# How single pieces of a document are read

A name, a number or a string literal is read as one token whenever a delimiter stands behind it. For
string literals this rests on the escapes: no character of the string is a quote or a backslash of
its own in the text, and every escape is read as the character it was written for.
-/

namespace VectorQuery.Grammar

open Number Text

/-- What is decided of all members of a list holds of each. -/
theorem forall_mem_of_all {α : Type} {P : α → Prop} [DecidablePred P] {xs : List α}
    (h : xs.all (fun x => decide (P x)) = true) : ∀ x ∈ xs, P x := by
  simpa using h

/-! ## Delimiters -/

/-- The characters that end the token in front of them. -/
def delimiters : List Char := ignored ++ punctuators

/-- A text that begins with a delimiter or is at its end. -/
def Delimited (rest : List Char) : Prop := ∀ c ∈ rest.head?, c ∈ delimiters

theorem Delimited.nil : Delimited [] := by simp [Delimited]

theorem Delimited.cons {c : Char} (hc : c ∈ delimiters) (rest : List Char) :
    Delimited (c :: rest) := by
  simpa [Delimited] using hc

/-- What no delimiter is in does not reach into a delimited text. -/
theorem Delimited.takeWhile {rest : List Char} (h : Delimited rest) {p : Char → Bool}
    (hp : ∀ c ∈ delimiters, p c = false) : rest.takeWhile p = [] := by
  cases rest with
  | nil => rfl
  | cons c rest => exact List.takeWhile_cons_of_neg (by simp [hp c (h c rfl)])

theorem Delimited.dropWhile {rest : List Char} (h : Delimited rest) {p : Char → Bool}
    (hp : ∀ c ∈ delimiters, p c = false) : rest.dropWhile p = rest := by
  cases rest with
  | nil => rfl
  | cons c rest => exact List.dropWhile_cons_of_neg (by simp [hp c (h c rfl)])

theorem isNameContinue_of_mem_delimiters : ∀ c ∈ delimiters, isNameContinue c = false :=
  forall_mem_of_all (by decide)

theorem isDigit_of_mem_delimiters : ∀ c ∈ delimiters, c.isDigit = false :=
  forall_mem_of_all (by decide)

theorem clingsToNumber_of_mem_delimiters : ∀ c ∈ delimiters, clingsToNumber c = false :=
  forall_mem_of_all (by decide)

theorem tokens_ignored {c : Char} (hc : c ∈ ignored) (rest : List Char) :
    tokens (c :: rest) = tokens rest := by
  rw [tokens_cons, step, if_pos hc]
  rfl

theorem tokens_punctuator {c : Char} (hc : c ∈ punctuators) (rest : List Char) :
    tokens (c :: rest) = .punctuator c :: tokens rest := by
  have hignored : ∀ c ∈ punctuators, c ∉ ignored := forall_mem_of_all (by decide)
  have hcomment : ∀ c ∈ punctuators, c ≠ '#' := forall_mem_of_all (by decide)
  rw [tokens_cons, step, if_neg (hignored c hc), if_neg (hcomment c hc), token, if_pos hc]
  rfl

/-- A token begins at every character that is neither passed over nor the start of a comment. -/
theorem tokens_token {c : Char} (h : c ∉ ignored) (hc : c ≠ '#') (rest : List Char) :
    tokens (c :: rest) = (token c rest).1 :: tokens (token c rest).2 := by
  rw [tokens_cons, step, if_neg h, if_neg hc]
  rfl

/-! ## Names -/

/-- Whether a string is a name. -/
def isName (s : String) : Bool :=
  match s.toList with
  | [] => false
  | c :: cs => isNameStart c && cs.all isNameContinue

theorem isName_spec {s : String} (h : isName s = true) :
    ∃ c cs, s.toList = c :: cs ∧ isNameStart c = true ∧ ∀ d ∈ cs, isNameContinue d = true := by
  unfold isName at h
  split at h
  · cases h
  · rename_i c cs heq
    simp only [Bool.and_eq_true, List.all_eq_true] at h
    exact ⟨c, cs, heq, h⟩

theorem not_mem_of_isNameStart {c : Char} (hc : isNameStart c = true) :
    c ∉ ignored ∧ c ≠ '#' ∧ c ∉ punctuators := by
  have h : ∀ c ∈ '#' :: delimiters, isNameStart c = false := forall_mem_of_all (by decide)
  have hnot : c ∉ '#' :: delimiters := fun hmem => by simp [h c hmem] at hc
  simp only [delimiters, List.mem_cons, List.mem_append, not_or] at hnot
  exact ⟨hnot.2.1, hnot.1, hnot.2.2⟩

theorem run_delimited (f : String → Token) (c : Char) {cs rest : List Char}
    (hcs : ∀ d ∈ cs, isNameContinue d = true) (hrest : Delimited rest) :
    run f c (cs ++ rest) = (f (String.ofList (c :: cs)), rest) := by
  rw [run, List.takeWhile_append_of_pos hcs, List.dropWhile_append_of_pos hcs,
    hrest.takeWhile isNameContinue_of_mem_delimiters,
    hrest.dropWhile isNameContinue_of_mem_delimiters, List.append_nil]

theorem tokens_name {s : String} (hs : isName s = true) {rest : List Char} (h : Delimited rest) :
    tokens (s.toList ++ rest) = .name s :: tokens rest := by
  obtain ⟨c, cs, heq, hc, hcs⟩ := isName_spec hs
  obtain ⟨hignored, hcomment, hpunctuator⟩ := not_mem_of_isNameStart hc
  rw [heq, List.cons_append, tokens_token hignored hcomment, token, if_neg hpunctuator, if_pos hc,
    run_delimited .name c hcs h, ← heq, String.ofList_toList]

/-- The class that a name of the form `... on` and a class names. -/
def fragmentClass? (s : String) : Option String :=
  if Field.fragmentStart.isPrefixOf s.toList then
    some (String.ofList (s.toList.drop Field.fragmentStart.length))
  else none

/-- Whether a string can be the name of a field: a name, or `... on` and the name of a class. -/
def isFieldName (s : String) : Bool := isName s || (fragmentClass? s).any isName

theorem isFieldName_of_isName {s : String} (h : isName s = true) : isFieldName s = true := by
  simp [isFieldName, h]

/-- The tokens of the name of a field. -/
def nameTokens (s : String) : List Token :=
  match fragmentClass? s with
  | some name => [.spread, .name "on", .name name]
  | none => [.name s]

theorem fragmentStart_eq : Field.fragmentStart = ['.', '.', '.', ' ', 'o', 'n', ' '] := by
  delta Field.fragmentStart
  simp

theorem fragmentClass?_of_isName {s : String} (hs : isName s = true) : fragmentClass? s = none := by
  obtain ⟨c, cs, heq, hc, -⟩ := isName_spec hs
  have hne : c ≠ '.' := by
    rintro rfl
    exact absurd hc (by decide)
  simp [fragmentClass?, heq, fragmentStart_eq, hne.symm]

theorem nameTokens_of_isName {s : String} (hs : isName s = true) : nameTokens s = [.name s] := by
  simp [nameTokens, fragmentClass?_of_isName hs]

theorem nameTokens_cases (s : String) :
    (∃ name, fragmentClass? s = some name ∧ nameTokens s = [.spread, .name "on", .name name]) ∨
      nameTokens s = [.name s] := by
  unfold nameTokens
  cases hclass : fragmentClass? s with
  | none => exact Or.inr rfl
  | some name => exact Or.inl ⟨name, rfl, rfl⟩

theorem toList_of_fragmentClass? {s name : String} (h : fragmentClass? s = some name) :
    s.toList = '.' :: '.' :: '.' :: ' ' :: 'o' :: 'n' :: ' ' :: name.toList := by
  unfold fragmentClass? at h
  split at h
  · rename_i hprefix
    obtain ⟨cs, hcs⟩ := List.isPrefixOf_iff_prefix.1 hprefix
    rw [← hcs, List.drop_left] at h
    rw [← hcs, ← Option.some.inj h, String.toList_ofList, fragmentStart_eq]
    rfl
  · cases h

theorem tokens_spread (rest : List Char) :
    tokens ('.' :: '.' :: '.' :: rest) = .spread :: tokens rest := by
  rw [tokens_token (by decide) (by decide), token, if_neg (by decide), if_neg (by decide),
    if_neg (by decide), if_neg (by decide), if_pos ⟨rfl, by simp⟩]
  rfl

/-- The name of a field is read as its tokens. -/
theorem tokens_fieldName {s : String} (hs : isFieldName s = true) {rest : List Char}
    (h : Delimited rest) : tokens (s.toList ++ rest) = nameTokens s ++ tokens rest := by
  cases hclass : fragmentClass? s with
  | none =>
    have hname : isName s = true := by simpa [isFieldName, hclass] using hs
    rw [tokens_name hname h, nameTokens_of_isName hname]
    rfl
  | some name =>
    have hname : isName name = true := by
      rcases Bool.or_eq_true_iff.1 hs with hs | hs
      · rw [fragmentClass?_of_isName hs] at hclass
        cases hclass
      · simpa [hclass] using hs
    have hon : tokens ('o' :: 'n' :: ' ' :: (name.toList ++ rest)) =
        .name "on" :: tokens (' ' :: (name.toList ++ rest)) :=
      tokens_name (s := "on") (by decide) (Delimited.cons (by decide) _)
    simp only [toList_of_fragmentClass? hclass, List.cons_append, tokens_spread,
      tokens_ignored (show ' ' ∈ ignored by decide), hon, tokens_name hname h, nameTokens, hclass,
      List.nil_append]

/-! ## Numbers -/

theorem isNameStart_of_isDigit {c : Char} (h : c.isDigit = true) : isNameStart c = false := by
  have hne : c ≠ '_' := by
    rintro rfl
    exact absurd h (by decide)
  have hdigit : c.val ≤ 57 := by
    simp only [Char.isDigit, Bool.and_eq_true, decide_eq_true_eq] at h
    exact h.2
  have hupper : c.isUpper = false :=
    decide_eq_false fun ⟨hle, _⟩ => absurd (UInt32.le_trans hle hdigit) (by decide)
  have hlower : c.isLower = false := by
    show (decide (97 ≤ c.val) && _) = false
    rw [decide_eq_false fun hle => absurd (UInt32.le_trans hle hdigit) (by decide), Bool.false_and]
  show (c.isUpper || c.isLower || decide (c = '_')) = false
  rw [hupper, hlower, decide_eq_false hne, Bool.or_self, Bool.or_self]

theorem digits?_append {ds rest : List Char} (hds : ∀ c ∈ ds, c.isDigit = true) (hne : ds ≠ [])
    (hrest : rest.takeWhile Char.isDigit = []) : digits? (ds ++ rest) = some (ds, rest) := by
  have hdrop : rest.dropWhile Char.isDigit = rest := by
    have := List.takeWhile_append_dropWhile (p := Char.isDigit) (l := rest)
    rwa [hrest, List.nil_append] at this
  rw [digits?, List.takeWhile_append_of_pos hds, List.dropWhile_append_of_pos hds, hrest, hdrop,
    List.append_nil, if_neg hne]

theorem whole?_append {ds rest : List Char} (hds : IsWholePart ds)
    (hrest : rest.takeWhile Char.isDigit = []) : whole? (ds ++ rest) = some (ds, rest) := by
  rw [whole?, digits?_append hds.1 hds.ne_nil hrest]
  rcases hds.2 with rfl | ⟨c, cs, rfl, hne⟩
  · rfl
  · split
    · rename_i heq
      simp only [Option.some.injEq, Prod.mk.injEq, List.cons.injEq] at heq
      exact absurd heq.1.1 hne
    · rfl

theorem takeWhile_pointed {fraction rest : List Char} (h : Delimited rest) :
    (pointed fraction ++ rest).takeWhile Char.isDigit = [] := by
  unfold pointed
  split
  · exact h.takeWhile isDigit_of_mem_delimiters
  · exact List.takeWhile_cons_of_neg (by decide)

theorem fraction?_pointed {fraction rest : List Char} (hds : ∀ c ∈ fraction, c.isDigit = true)
    (h : Delimited rest) :
    fraction? (pointed fraction ++ rest) = some (pointed fraction, rest) := by
  unfold pointed
  split
  · cases rest with
    | nil => rfl
    | cons c rest =>
      have hne : c ≠ '.' := by
        rintro rfl
        exact absurd (h '.' rfl) (by decide)
      simp [fraction?, hne]
  · rename_i hne
    rw [List.cons_append, fraction?, digits?_append hds hne (h.takeWhile isDigit_of_mem_delimiters)]
    rfl

theorem exponent?_delimited {rest : List Char} (h : Delimited rest) :
    exponent? rest = some ([], rest) := by
  cases rest with
  | nil => rfl
  | cons c rest =>
    have hne : ¬(c = 'e' ∨ c = 'E') := by
      rintro (rfl | rfl)
      · exact absurd (h 'e' rfl) (by decide)
      · exact absurd (h 'E' rfl) (by decide)
    simp [exponent?, hne]

theorem minus_signChars (negative : Bool) {cs : List Char} (h : cs.head? ≠ some '-') :
    minus (signChars negative ++ cs) = (signChars negative, cs) := by
  cases negative with
  | true => rfl
  | false =>
    cases cs with
    | nil => rfl
    | cons c cs =>
      have hne : c ≠ '-' := fun heq => h (by rw [heq]; rfl)
      simp [signChars, minus, hne]

theorem clings_delimited {rest : List Char} (h : Delimited rest) :
    rest.head?.any clingsToNumber = false := by
  cases rest with
  | nil => rfl
  | cons c rest => exact clingsToNumber_of_mem_delimiters c (h c rfl)

theorem number?_signed (negative : Bool) {cs rest : List Char} (hcs : IsUnsigned cs)
    (h : Delimited rest) :
    number? (signChars negative ++ cs ++ rest) = some (signChars negative ++ cs, rest) := by
  obtain ⟨d, ds, hd, hdigit⟩ := hcs.head
  have hhead : (cs ++ rest).head? ≠ some '-' := by
    rw [hd]
    rintro heq
    rw [Option.some.inj heq] at hdigit
    exact absurd hdigit (by decide)
  obtain ⟨whole, fraction, hwhole, hfraction, rfl⟩ := hcs
  rw [number?, List.append_assoc, minus_signChars negative hhead, List.append_assoc,
    whole?_append hwhole (takeWhile_pointed h)]
  simp [fraction?_pointed hfraction h, exponent?_delimited h, clings_delimited h]

theorem tokens_number (negative : Bool) {cs rest : List Char} (hcs : IsUnsigned cs)
    (h : Delimited rest) : tokens (signChars negative ++ cs ++ rest) =
      .number (String.ofList (signChars negative ++ cs)) :: tokens rest := by
  have hnumber := number?_signed negative hcs h
  obtain ⟨c, tail, hc, hstart⟩ : ∃ c tail, signChars negative ++ cs = c :: tail ∧
      (c = '-' ∨ c.isDigit = true) := by
    obtain ⟨d, ds, hd, hdigit⟩ := hcs.head
    cases negative with
    | true => exact ⟨'-', cs, rfl, Or.inl rfl⟩
    | false => exact ⟨d, ds, by rw [hd]; rfl, Or.inr hdigit⟩
  have hclass : c ∉ '#' :: delimiters ∧ isNameStart c = false := by
    have hdigits : ∀ c ∈ '#' :: delimiters, ¬(c = '-' ∨ c.isDigit = true) :=
      forall_mem_of_all (by decide)
    refine ⟨fun hmem => hdigits c hmem hstart, ?_⟩
    rcases hstart with rfl | hdigit
    · decide
    · exact isNameStart_of_isDigit hdigit
  simp only [delimiters, List.mem_cons, List.mem_append, not_or] at hclass
  rw [hc, List.cons_append] at hnumber ⊢
  rw [tokens_token hclass.1.2.1 hclass.1.1, token, if_neg hclass.1.2.2, if_neg (by simp [hclass.2]),
    if_pos (by simpa using hstart), hnumber]

theorem tokens_integer (n : Int) {rest : List Char} (h : Delimited rest) :
    tokens (intChars n ++ rest) = .number (String.ofList (intChars n)) :: tokens rest := by
  rw [intChars_eq]
  exact tokens_number _ (isUnsigned_digitChars _) h

/-- The token of a floating point number. Infinity reads as a name, and minus infinity as nothing of
the language. -/
def floatToken {f : Format} (x : Binary f) : Token :=
  let s := String.ofList (Layout.plain.chars x)
  if x.isFinite then .number s else if x.negative then .stray s else .name s

theorem floatToken_cases {f : Format} (x : Binary f) :
    ∃ s, floatToken x = .number s ∨ floatToken x = .stray s ∨ floatToken x = .name s := by
  refine ⟨String.ofList (Layout.plain.chars x), ?_⟩
  unfold floatToken
  cases x.isFinite <;> cases x.negative <;> simp

theorem tokens_float {f : Format} {x : Binary f} (hx : x.isNaN = false) {rest : List Char}
    (h : Delimited rest) :
    tokens (Layout.plain.chars x ++ rest) = floatToken x :: tokens rest := by
  rcases Layout.isFinite_or_isInfinite hx with hfinite | hinfinite
  · rw [floatToken, if_pos hfinite, Layout.plain_chars_of_isFinite hfinite]
    exact tokens_number _ (Layout.isUnsigned_of_isFinite hfinite) h
  · have hfinite : ¬x.isFinite = true := by
      simp only [Binary.isFinite, Binary.isInfinite, decide_eq_true_eq] at hinfinite ⊢
      omega
    rw [floatToken, if_neg hfinite, Layout.plain_chars_of_isInfinite hinfinite]
    cases x.negative with
    | true =>
      have hnumber : number? ('-' :: 'i' :: 'n' :: 'f' :: rest) = none := by
        simp [number?, minus, whole?, digits?]
      have hinf : ∀ d ∈ ['i', 'n', 'f'], isNameContinue d = true := forall_mem_of_all (by decide)
      have hrun := run_delimited .stray '-' hinf h
      simp only [signChars, if_true, List.cons_append, List.nil_append] at hrun ⊢
      rw [tokens_token (by decide) (by decide), token, if_neg (by decide), if_neg (by decide),
        if_pos (by decide), hnumber]
      simp only [hrun]
    | false => exact tokens_name (s := "inf") (by decide) h

/-- The token of a number tells numbers apart. -/
theorem floatToken_injective {f : Format} {x y : Binary f} (hx : x.isNaN = false)
    (hy : y.isNaN = false) (h : floatToken x = floatToken y) : x = y := by
  refine Layout.plain_chars_injective hx hy (String.ofList_injective ?_)
  revert h
  unfold floatToken
  cases x.isFinite <;> cases y.isFinite <;> cases x.negative <;> cases y.negative <;> simp

/-! ## String literals -/

theorem stringUnits?_escape (c : Char) (rest : List Char) :
    stringUnits? (escape c ++ rest) = consUnit? (unitOf c) (stringUnits? rest) := by
  rcases escape_cases c with ⟨e, hescape, hne, hshort⟩ | ⟨hescape, hcontrol⟩ |
    ⟨hescape, hquote, hbackslash, hcontrol⟩
  · simp only [unitOf, hescape, List.cons_append, List.nil_append]
    rw [stringUnits?, hshort]
    · rfl
    · intro a b c d rest' heq
      exact absurd heq hne
  · simp only [unitOf, hescape, List.cons_append, List.nil_append]
    rw [stringUnits?, codeUnit?_hexDigit hcontrol]
    rfl
  · simp only [unitOf, hescape, List.cons_append, List.nil_append]
    rw [stringUnits?, if_neg (by simp [hbackslash, hcontrol])]
    · rfl
    · exact hquote
    · exact fun _ _ _ _ _ heq => absurd heq hbackslash
    · exact fun _ _ heq => absurd heq hbackslash

theorem stringUnits?_quoted (s rest : List Char) :
    stringUnits? (s.flatMap escape ++ '"' :: rest) = some (s.map unitOf, rest) := by
  induction s with
  | nil => rfl
  | cons c s ih =>
    rw [List.flatMap_cons, List.append_assoc, stringUnits?_escape, ih]
    rfl

theorem string?_quoted (s : String) (rest : List Char) :
    string? (s.toList.flatMap escape ++ '"' :: rest) = some (.string s, rest) := by
  simp [string?, stringUnits?_quoted, Json.stringOf?, stringChars?_units]

/-- What a character in quotes is written as does not begin with a quote. -/
theorem escape_head (c : Char) : ∃ d cs, escape c = d :: cs ∧ d ≠ '"' := by
  rcases escape_cases c with ⟨e, hescape, -⟩ | ⟨hescape, -⟩ | ⟨hescape, hquote, -⟩
  · exact ⟨_, _, hescape, by decide⟩
  · exact ⟨_, _, hescape, by decide⟩
  · exact ⟨_, _, hescape, hquote⟩

/-- A text in quotes does not begin a block string, unless it is empty and a quote follows. -/
theorem literal?_quoted (s : String) {rest : List Char} (h : Delimited rest) :
    literal? (s.toList.flatMap escape ++ '"' :: rest) = some (.string s, rest) := by
  rw [← string?_quoted s rest, literal?]
  intro rest' heq
  cases hs : s.toList with
  | nil =>
    rw [hs] at heq
    have hquote : rest.head? = some '"' := by
      rw [List.tail_eq_of_cons_eq heq]
      rfl
    exact absurd (h '"' hquote) (by decide)
  | cons c cs =>
    obtain ⟨d, ds, hescape, hne⟩ := escape_head c
    rw [hs, List.flatMap_cons, hescape] at heq
    exact hne (List.cons.inj heq).1

/-- A string literal is read as the string, whatever the string holds. -/
theorem tokens_quoted (s : String) {rest : List Char} (h : Delimited rest) :
    tokens (quotedChars s.toList ++ rest) = .string s :: tokens rest := by
  have hchars : quotedChars s.toList ++ rest = '"' :: (s.toList.flatMap escape ++ '"' :: rest) := by
    simp [quotedChars]
  rw [hchars, tokens_token (by decide) (by decide), token, if_neg (by decide), if_neg (by decide),
    if_neg (by decide), if_pos rfl, literal?_quoted s h]
  rfl

end VectorQuery.Grammar
