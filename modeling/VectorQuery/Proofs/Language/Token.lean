import VectorQuery.Json.Reader

/-!
# Tokens of the query language

How a server reads the text of a document: from left to right, always the longest token. White
space, commas, comments and the byte order mark stand between tokens and are no tokens. A place at
which no token begins is an error; it is shown as a `stray` token, so that a text is read without
error when none of its tokens is stray.
-/

namespace VectorQuery.Grammar

/-- A token. -/
inductive Token where
  /-- A punctuator of one character. -/
  | punctuator (c : Char)
  /-- The punctuator `...`. -/
  | spread
  /-- A name or keyword. -/
  | name (s : String)
  /-- A number, as it is written. -/
  | number (s : String)
  /-- A string literal, as the string that it stands for. -/
  | string (s : String)
  /-- A block string literal, as the text between its triple quotes. -/
  | block (s : String)
  /-- Characters at which no token begins. -/
  | stray (s : String)
  deriving DecidableEq

namespace Token

/-- The string that a string literal stands for. -/
def string? : Token → Option String
  | string s => some s
  | _ => none

/-- Whether the token is an error. -/
def isStray : Token → Bool
  | stray _ => true
  | _ => false

end Token

/-! ## Classes of characters -/

/-- The characters between tokens that are passed over. -/
def ignored : List Char := ['\uFEFF', '\t', ' ', '\n', '\r', ',']

/-- The characters that are punctuators by themselves. -/
def punctuators : List Char := ['!', '$', '&', '(', ')', ':', '=', '@', '[', ']', '{', '|', '}']

/-- Whether a character can begin a name. -/
def isNameStart (c : Char) : Bool := c.isAlpha || c = '_'

/-- Whether a character can go on with a name. -/
def isNameContinue (c : Char) : Bool := isNameStart c || c.isDigit

/-- Whether a character ends a line. -/
def isLineEnd (c : Char) : Bool := c = '\n' || c = '\r'

/-! ## Numbers -/

/-- Digits, at least one, and what is behind them. -/
def digits? (cs : List Char) : Option (List Char × List Char) :=
  if cs.takeWhile Char.isDigit = [] then none
  else some (cs.takeWhile Char.isDigit, cs.dropWhile Char.isDigit)

/-- A minus sign, if there is one. -/
def minus : List Char → List Char × List Char
  | '-' :: rest => (['-'], rest)
  | rest => ([], rest)

/-- The digits of a whole number; no digit follows a zero in front. -/
def whole? (cs : List Char) : Option (List Char × List Char) :=
  match digits? cs with
  | some ('0' :: _ :: _, _) => none
  | result => result

/-- A point with digits, if there is a point. -/
def fraction? : List Char → Option (List Char × List Char)
  | '.' :: rest => (digits? rest).map fun (ds, rest) => ('.' :: ds, rest)
  | rest => some ([], rest)

/-- The sign of an exponent, if there is one. -/
def exponentSign : List Char → List Char × List Char
  | '+' :: rest => (['+'], rest)
  | rest => minus rest

/-- A letter with the digits of an exponent, if there is the letter. -/
def exponent? : List Char → Option (List Char × List Char)
  | [] => some ([], [])
  | e :: rest =>
    if e = 'e' ∨ e = 'E' then
      (digits? (exponentSign rest).2).map fun (ds, rest') =>
        (e :: (exponentSign rest).1 ++ ds, rest')
    else some ([], e :: rest)

/-- Whether a character may not stand behind a number. -/
def clingsToNumber (c : Char) : Bool := isNameContinue c || c = '.'

/-- A number. -/
def number? (cs : List Char) : Option (List Char × List Char) := do
  let (whole, rest) ← whole? (minus cs).2
  let (fraction, rest) ← fraction? rest
  let (exponent, rest) ← exponent? rest
  if rest.head?.any clingsToNumber then none
  else some ((minus cs).1 ++ whole ++ fraction ++ exponent, rest)

/-! ## Strings -/

/-- A unit in front of the units of a string. -/
def consUnit? (u : Json.StringUnit) :
    Option (List Json.StringUnit × List Char) → Option (List Json.StringUnit × List Char)
  | some (units, rest) => some (u :: units, rest)
  | none => none

/-- The units of a string literal behind its opening quote, and what is behind the closing one. A
character that stands for itself is a tab or none of the control characters. -/
def stringUnits? : List Char → Option (List Json.StringUnit × List Char)
  | [] => none
  | '"' :: rest => some ([], rest)
  | '\\' :: 'u' :: a :: b :: c :: d :: rest =>
    match Json.Tree.codeUnit? a b c d with
    | some n => consUnit? (.codeUnit n) (stringUnits? rest)
    | none => none
  | '\\' :: c :: rest =>
    match Json.Tree.shortEscape? c with
    | some c => consUnit? (.symbol (.char c)) (stringUnits? rest)
    | none => none
  | c :: rest =>
    if c = '\\' ∨ c.toNat < 0x20 ∧ c ≠ '\t' then none
    else consUnit? (.symbol (.char c)) (stringUnits? rest)

/-- A string literal behind its opening quote. -/
def string? (cs : List Char) : Option (Token × List Char) := do
  let (units, rest) ← stringUnits? cs
  let s ← Json.stringOf? units
  return (.string s, rest)

/-- A character in front of the text of a block string. -/
def consChar? (c : Char) : Option (List Char × List Char) → Option (List Char × List Char)
  | some (cs, rest) => some (c :: cs, rest)
  | none => none

/-- The text of a block string behind its opening quotes, up to triple quotes without a backslash in
front. -/
def blockText? : List Char → Option (List Char × List Char)
  | [] => none
  | '"' :: '"' :: '"' :: rest => some ([], rest)
  | '\\' :: '"' :: '"' :: '"' :: rest =>
    consChar? '"' (consChar? '"' (consChar? '"' (blockText? rest)))
  | c :: rest => consChar? c (blockText? rest)

/-- A string or block string behind its first quote. -/
def literal? : List Char → Option (Token × List Char)
  | '"' :: '"' :: rest =>
    (blockText? rest).map fun (cs, rest) => (.block (String.ofList cs), rest)
  | rest => string? rest

/-! ## Reading -/

/-- A name or a stray token: a character with those behind it that can go on with a name. -/
def run (token : String → Token) (c : Char) (rest : List Char) : Token × List Char :=
  (token (String.ofList (c :: rest.takeWhile isNameContinue)), rest.dropWhile isNameContinue)

/-- The token that begins with a character, and what is behind it. -/
def token (c : Char) (rest : List Char) : Token × List Char :=
  if c ∈ punctuators then (.punctuator c, rest)
  else if isNameStart c then run .name c rest
  else if c = '-' || c.isDigit then
    match number? (c :: rest) with
    | some (cs, rest) => (.number (String.ofList cs), rest)
    | none => run .stray c rest
  else if c = '"' then (literal? rest).getD (run .stray c rest)
  else if c = '.' ∧ ['.', '.'].isPrefixOf rest then (.spread, rest.drop 2)
  else run .stray c rest

/-- What stands at a character: a token, or something between tokens. -/
def step (c : Char) (rest : List Char) : List Token × List Char :=
  if c ∈ ignored then ([], rest)
  else if c = '#' then ([], rest.dropWhile (!isLineEnd ·))
  else ([(token c rest).1], (token c rest).2)

/-! ## Reading goes on -/

theorem length_digits? {cs ds rest : List Char} (h : digits? cs = some (ds, rest)) :
    rest.length < cs.length := by
  unfold digits? at h
  split at h
  · cases h
  · rename_i hne
    simp only [Option.some.injEq, Prod.mk.injEq] at h
    have hlen := congrArg List.length
      (List.takeWhile_append_dropWhile (p := Char.isDigit) (l := cs))
    rw [List.length_append, h.1, h.2] at hlen
    have : ds ≠ [] := h.1 ▸ hne
    have := List.length_pos_iff.2 this
    omega

theorem length_minus (cs : List Char) : (minus cs).2.length ≤ cs.length := by
  unfold minus
  split
  · simp
  · exact Nat.le_refl _

theorem length_whole? {cs ds rest : List Char} (h : whole? cs = some (ds, rest)) :
    rest.length < cs.length := by
  unfold whole? at h
  split at h
  · cases h
  · exact length_digits? h

theorem length_fraction? {cs ds rest : List Char} (h : fraction? cs = some (ds, rest)) :
    rest.length ≤ cs.length := by
  unfold fraction? at h
  split at h
  · obtain ⟨⟨ds', rest'⟩, hdigits, heq⟩ := Option.map_eq_some_iff.1 h
    cases heq
    exact Nat.le_succ_of_le (Nat.le_of_lt (length_digits? hdigits))
  · cases h
    exact Nat.le_refl _

theorem length_exponentSign (cs : List Char) : (exponentSign cs).2.length ≤ cs.length := by
  unfold exponentSign
  split
  · simp
  · exact length_minus _

theorem length_exponent? {cs ds rest : List Char} (h : exponent? cs = some (ds, rest)) :
    rest.length ≤ cs.length := by
  unfold exponent? at h
  split at h
  · cases h
    exact Nat.le_refl _
  · rename_i e tail
    split at h
    · obtain ⟨⟨ds', rest'⟩, hdigits, heq⟩ := Option.map_eq_some_iff.1 h
      cases heq
      have hdigits' := length_digits? hdigits
      have hsign := length_exponentSign tail
      simp only [List.length_cons]
      omega
    · cases h
      exact Nat.le_refl _

theorem length_number? {cs ds rest : List Char} (h : number? cs = some (ds, rest)) :
    rest.length < cs.length := by
  simp only [number?, Option.bind_eq_bind, Option.bind_eq_some_iff] at h
  obtain ⟨⟨whole, rest₁⟩, hwhole, ⟨fraction, rest₂⟩, hfraction, ⟨exponent, rest₃⟩, hexponent, h⟩ :=
    h
  split at h
  · cases h
  · cases h
    calc rest₃.length ≤ rest₂.length := length_exponent? hexponent
      _ ≤ rest₁.length := length_fraction? hfraction
      _ < (minus cs).2.length := length_whole? hwhole
      _ ≤ cs.length := length_minus cs

theorem consUnit?_eq_some {u : Json.StringUnit} {r : Option (List Json.StringUnit × List Char)}
    {units : List Json.StringUnit} {rest : List Char} (h : consUnit? u r = some (units, rest)) :
    ∃ units', r = some (units', rest) := by
  unfold consUnit? at h
  split at h
  · cases h
    exact ⟨_, rfl⟩
  · cases h

theorem length_stringUnits? {cs : List Char} {units : List Json.StringUnit} {rest : List Char}
    (h : stringUnits? cs = some (units, rest)) : rest.length < cs.length := by
  induction cs using stringUnits?.induct generalizing units with
  | case1 => simp [stringUnits?] at h
  | case2 rest' =>
    simp only [stringUnits?, Option.some.injEq, Prod.mk.injEq] at h
    simp [h.2]
  | case3 a b c d rest' n hn ih =>
    simp only [stringUnits?, hn] at h
    obtain ⟨units', h'⟩ := consUnit?_eq_some h
    have := ih h'
    simp only [List.length_cons]
    omega
  | case4 a b c d rest' hn => simp [stringUnits?, hn] at h
  | case5 c rest' hne c' hc ih =>
    rw [stringUnits?, hc] at h
    · obtain ⟨units', h'⟩ := consUnit?_eq_some h
      have := ih h'
      simp only [List.length_cons]
      omega
    · exact hne
  | case6 c rest' hne hc =>
    rw [stringUnits?, hc] at h
    · cases h
    · exact hne
  | case7 c rest' h₁ h₂ h₃ hc =>
    rw [stringUnits?, if_pos hc] at h
    · cases h
    all_goals assumption
  | case8 c rest' h₁ h₂ h₃ hc ih =>
    rw [stringUnits?, if_neg hc] at h
    · obtain ⟨units', h'⟩ := consUnit?_eq_some h
      have := ih h'
      simp only [List.length_cons]
      omega
    all_goals assumption

theorem consChar?_eq_some {c : Char} {r : Option (List Char × List Char)} {cs rest : List Char}
    (h : consChar? c r = some (cs, rest)) : ∃ cs', r = some (cs', rest) := by
  unfold consChar? at h
  split at h
  · cases h
    exact ⟨_, rfl⟩
  · cases h

theorem length_blockText? {cs text rest : List Char} (h : blockText? cs = some (text, rest)) :
    rest.length < cs.length := by
  induction cs using blockText?.induct generalizing text with
  | case1 => simp [blockText?] at h
  | case2 rest' =>
    simp only [blockText?, Option.some.injEq, Prod.mk.injEq] at h
    simp only [List.length_cons, ← h.2]
    omega
  | case3 rest' ih =>
    simp only [blockText?] at h
    obtain ⟨text₁, h⟩ := consChar?_eq_some h
    obtain ⟨text₂, h⟩ := consChar?_eq_some h
    obtain ⟨text₃, h⟩ := consChar?_eq_some h
    have := ih h
    simp only [List.length_cons]
    omega
  | case4 c rest' h₁ h₂ ih =>
    rw [blockText?] at h
    · obtain ⟨text', h⟩ := consChar?_eq_some h
      have := ih h
      simp only [List.length_cons]
      omega
    all_goals assumption

theorem length_string? {cs : List Char} {t : Token} {rest : List Char}
    (h : string? cs = some (t, rest)) : rest.length < cs.length := by
  simp only [string?, Option.bind_eq_bind, Option.bind_eq_some_iff] at h
  obtain ⟨⟨units, rest'⟩, hunits, s, -, h⟩ := h
  cases h
  exact length_stringUnits? hunits

theorem length_literal? {cs : List Char} {t : Token} {rest : List Char}
    (h : literal? cs = some (t, rest)) : rest.length < cs.length := by
  unfold literal? at h
  split at h
  · obtain ⟨⟨text, rest'⟩, htext, heq⟩ := Option.map_eq_some_iff.1 h
    cases heq
    have := length_blockText? htext
    simp only [List.length_cons]
    omega
  · exact length_string? h

theorem length_run (f : String → Token) (c : Char) (rest : List Char) :
    (run f c rest).2.length ≤ rest.length :=
  (List.dropWhile_sublist _).length_le

theorem length_token (c : Char) (rest : List Char) : (token c rest).2.length ≤ rest.length := by
  unfold token
  split
  · exact Nat.le_refl _
  · split
    · exact length_run _ _ _
    · split
      · split
        · rename_i cs rest' hnumber
          exact Nat.le_of_lt_succ (length_number? hnumber)
        · exact length_run _ _ _
      · split
        · cases hliteral : literal? rest with
          | none => exact length_run _ _ _
          | some result => exact Nat.le_of_lt (length_literal? hliteral)
        · split
          · exact (List.drop_sublist _ _).length_le
          · exact length_run _ _ _

/-- Every step leaves less to read. -/
theorem length_step (c : Char) (rest : List Char) : (step c rest).2.length ≤ rest.length := by
  unfold step
  split
  · exact Nat.le_refl _
  · split
    · exact (List.dropWhile_sublist _).length_le
    · exact length_token c rest

/-- The tokens of a text, as characters. -/
def tokens : List Char → List Token
  | [] => []
  | c :: rest => (step c rest).1 ++ tokens (step c rest).2
termination_by cs => cs.length
decreasing_by exact Nat.lt_succ_of_le (length_step c rest)

@[simp] theorem tokens_nil : tokens [] = [] := by rw [tokens]

theorem tokens_cons (c : Char) (rest : List Char) :
    tokens (c :: rest) = (step c rest).1 ++ tokens (step c rest).2 := by rw [tokens]

/-- The tokens of a text. -/
def tokensOf (text : String) : List Token := tokens text.toList

end VectorQuery.Grammar
