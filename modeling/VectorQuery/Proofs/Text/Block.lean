import VectorQuery.Proofs.Language.Literal

/-!
# Which texts a block string holds

Only triple quotes are escaped in a block string, so a text can run into the quotes that close it: a
backslash at its end escapes them, and single quotes at its end close the string too early. Every
other text is read back as it is.
-/

namespace VectorQuery.Grammar

open Text

/-- The text of a block string and what is behind its closing quotes. -/
def blockString? : List Char → Option (List Char × List Char)
  | '"' :: '"' :: '"' :: rest => blockText? rest
  | _ => none

/-- How many quotes stand at the end of a text. -/
def quotesAtEnd (s : List Char) : Nat := (s.reverse.takeWhile (· = '"')).length

/-- A text that ends neither in a backslash nor in quotes that are not three by three. -/
def EndsClear (s : List Char) : Prop := s.getLast? ≠ some '\\' ∧ 3 ∣ quotesAtEnd s

instance (s : List Char) : Decidable (EndsClear s) :=
  inferInstanceAs (Decidable (_ ∧ _))

/-! ## The end of a text -/

theorem quotesAtEnd_le (s : List Char) : quotesAtEnd s ≤ s.length := by
  have h := (List.takeWhile_prefix (fun c => decide (c = '"')) (l := s.reverse)).length_le
  rwa [List.length_reverse] at h

theorem quotesAtEnd_cons (c : Char) (s : List Char) :
    quotesAtEnd (c :: s) =
      if quotesAtEnd s = s.length then s.length + (if c = '"' then 1 else 0)
      else quotesAtEnd s := by
  unfold quotesAtEnd
  rw [List.reverse_cons, List.takeWhile_append, List.length_reverse]
  by_cases h : (s.reverse.takeWhile (· = '"')).length = s.length
  · rw [if_pos h, if_pos h]
    by_cases hc : c = '"' <;> simp [hc]
  · rw [if_neg h, if_neg h]

theorem eq_quote_of_quotesAtEnd {s : List Char} (h : quotesAtEnd s = s.length) :
    ∀ c ∈ s, c = '"' := by
  intro c hc
  have hall : s.reverse.takeWhile (· = '"') = s.reverse :=
    (List.takeWhile_prefix _).eq_of_length (by rwa [List.length_reverse])
  have hquotes := List.all_takeWhile (p := fun c => decide (c = '"')) (l := s.reverse)
  rw [hall, List.all_reverse, List.all_eq_true] at hquotes
  exact of_decide_eq_true (hquotes c hc)

theorem endsClear_tripleQuote (s : List Char) :
    EndsClear ('"' :: '"' :: '"' :: s) ↔ EndsClear s := by
  have hcount : 3 ∣ quotesAtEnd ('"' :: '"' :: '"' :: s) ↔ 3 ∣ quotesAtEnd s := by
    by_cases h : quotesAtEnd s = s.length
    · simp only [quotesAtEnd_cons, h, List.length_cons, if_true]
      omega
    · have hlt := Nat.lt_of_le_of_ne (quotesAtEnd_le s) h
      have hone : quotesAtEnd ('"' :: s) = quotesAtEnd s := by rw [quotesAtEnd_cons, if_neg h]
      have htwo : quotesAtEnd ('"' :: '"' :: s) = quotesAtEnd s := by
        rw [quotesAtEnd_cons, hone, List.length_cons, if_neg (by omega)]
      rw [quotesAtEnd_cons, htwo, List.length_cons, List.length_cons, if_neg (by omega)]
  cases s with
  | nil => simp [EndsClear, hcount]
  | cons c s => simp [EndsClear, hcount]

theorem endsClear_cons {c : Char} {s : List Char} (hbackslash : c = '\\' → s ≠ [])
    (hquote : c = '"' → ∃ d ∈ s, d ≠ '"') : EndsClear (c :: s) ↔ EndsClear s := by
  have hcount : quotesAtEnd (c :: s) = quotesAtEnd s := by
    rw [quotesAtEnd_cons]
    split
    · rename_i h
      have hc : c ≠ '"' := by
        intro hc
        obtain ⟨d, hd, hne⟩ := hquote hc
        exact hne (eq_quote_of_quotesAtEnd h d hd)
      rw [if_neg hc, h, Nat.add_zero]
    · rfl
  cases s with
  | nil =>
    have hc : c ≠ '\\' := fun hc => hbackslash hc rfl
    simp [EndsClear, hcount, hc]
  | cons d s => simp [EndsClear, hcount]

/-! ## What the reader meets -/

theorem consChar?_eq_some_iff {c : Char} {r : Option (List Char × List Char)}
    {cs rest : List Char} :
    consChar? c r = some (cs, rest) ↔ ∃ cs', r = some (cs', rest) ∧ cs = c :: cs' := by
  cases r with
  | none => simp [consChar?]
  | some result =>
    obtain ⟨cs', rest'⟩ := result
    constructor
    · rintro h
      cases h
      exact ⟨cs', rfl, rfl⟩
    · rintro ⟨_, h, rfl⟩
      cases h
      rfl

/-- A character that neither closes the string nor escapes quotes stands for itself. -/
theorem blockText?_cons {c : Char} {cs : List Char} (hclose : c = '"' → ¬['"', '"'] <+: cs)
    (hescape : c = '\\' → ¬['"', '"', '"'] <+: cs) :
    blockText? (c :: cs) = consChar? c (blockText? cs) := by
  rw [blockText?]
  · rintro rest rfl rfl
    exact hclose rfl ⟨rest, rfl⟩
  · rintro rest rfl rfl
    exact hescape rfl ⟨rest, rfl⟩

theorem escapeTripleQuotes_cons {c : Char} {s : List Char} (h : c = '"' → ¬['"', '"'] <+: s) :
    escapeTripleQuotes (c :: s) = c :: escapeTripleQuotes s := by
  rw [escapeTripleQuotes]
  rintro rest rfl rfl
  exact h rfl ⟨rest, rfl⟩

theorem escapeTripleQuotes_of_ne {c : Char} {s : List Char} (h : c ≠ '"') :
    escapeTripleQuotes (c :: s) = c :: escapeTripleQuotes s :=
  escapeTripleQuotes_cons fun hc => absurd hc h

/-- A quote alone in front is alone after escaping, unless there is nothing else. -/
theorem not_two_quotes {s rest : List Char} (hnil : s ≠ []) (hquote : s ≠ ['"'])
    (h : ¬['"', '"'] <+: s) : ¬['"', '"'] <+: escapeTripleQuotes s ++ rest := by
  cases s with
  | nil => exact absurd rfl hnil
  | cons c s =>
    by_cases hc : c = '"'
    · subst hc
      cases s with
      | nil => exact absurd rfl hquote
      | cons d s =>
        have hd : d ≠ '"' := by
          rintro rfl
          exact h ⟨s, rfl⟩
        rw [escapeTripleQuotes_cons (by simp [hd.symm]), escapeTripleQuotes_of_ne hd]
        simp [hd.symm]
    · rw [escapeTripleQuotes_of_ne hc]
      simp [Ne.symm hc]

/-- No three quotes stand in front after escaping, unless there is nothing but less of them. -/
theorem not_three_quotes {s rest : List Char} (hnil : s ≠ []) (hquote : s ≠ ['"'])
    (hquotes : s ≠ ['"', '"']) : ¬['"', '"', '"'] <+: escapeTripleQuotes s ++ rest := by
  by_cases h : ['"', '"'] <+: s
  · obtain ⟨t, rfl⟩ := h
    cases t with
    | nil => exact absurd rfl hquotes
    | cons c t =>
      by_cases hc : c = '"'
      · subst hc
        simp [escapeTripleQuotes]
      · simp only [List.cons_append, List.nil_append]
        rw [escapeTripleQuotes_cons (by simp [Ne.symm hc]),
          escapeTripleQuotes_cons (by simp [Ne.symm hc]), escapeTripleQuotes_of_ne hc]
        simp [Ne.symm hc]
  · intro hprefix
    exact not_two_quotes hnil hquote h ((List.prefix_append ['"', '"'] ['"']).trans hprefix)

/-- How a character and the text behind it meet the quotes that close the string. -/
inductive Meets : Char → List Char → Prop
  | quote : Meets '"' []
  | quotes : Meets '"' ['"']
  | backslash : Meets '\\' []
  | backslashQuote : Meets '\\' ['"']
  | backslashQuotes : Meets '\\' ['"', '"']

theorem Meets.not_endsClear {c : Char} {s : List Char} (h : Meets c s) : ¬EndsClear (c :: s) := by
  cases h <;> simp [EndsClear, quotesAtEnd]

theorem Meets.blockText?_ne {c : Char} {s rest rest' : List Char} (h : Meets c s) :
    blockText? (escapeTripleQuotes (c :: s) ++ '"' :: '"' :: '"' :: rest) ≠
      some (c :: s, rest') := by
  cases h <;> simp [escapeTripleQuotes, blockText?, consChar?_eq_some_iff]

/-- Any other character is read for itself, and the end of the text is where it was. -/
theorem blockText?_of_not_meets {c : Char} {s : List Char} (hmeets : ¬Meets c s)
    (h : c = '"' → ¬['"', '"'] <+: s) (rest : List Char) :
    blockText? (escapeTripleQuotes (c :: s) ++ '"' :: '"' :: '"' :: rest) =
      consChar? c (blockText? (escapeTripleQuotes s ++ '"' :: '"' :: '"' :: rest)) := by
  rw [escapeTripleQuotes_cons h, List.cons_append]
  refine blockText?_cons ?_ ?_
  · rintro rfl
    exact not_two_quotes (fun hs => hmeets (hs ▸ .quote)) (fun hs => hmeets (hs ▸ .quotes)) (h rfl)
  · rintro rfl
    exact not_three_quotes (fun hs => hmeets (hs ▸ .backslash))
      (fun hs => hmeets (hs ▸ .backslashQuote)) (fun hs => hmeets (hs ▸ .backslashQuotes))

theorem endsClear_of_not_meets {c : Char} {s : List Char} (hmeets : ¬Meets c s)
    (h : c = '"' → ¬['"', '"'] <+: s) : EndsClear (c :: s) ↔ EndsClear s := by
  refine endsClear_cons ?_ ?_
  · rintro rfl hs
    exact hmeets (hs ▸ .backslash)
  · rintro rfl
    match s with
    | [] => exact absurd .quote hmeets
    | [d] =>
      refine ⟨d, List.mem_singleton_self d, ?_⟩
      rintro rfl
      exact hmeets .quotes
    | d :: e :: s =>
      by_cases hd : d = '"'
      · refine ⟨e, by simp, ?_⟩
        rintro rfl
        exact h rfl ⟨s, by rw [hd]; rfl⟩
      · exact ⟨d, List.mem_cons_self .., hd⟩

/-! ## Reading back -/

/-- A text that ends clear is read up to the quotes that were written behind it, and a text that is
read as it is ends clear. The induction is along the escaping. -/
theorem blockText?_escapeTripleQuotes (s rest : List Char) :
    (EndsClear s →
      blockText? (escapeTripleQuotes s ++ '"' :: '"' :: '"' :: rest) = some (s, rest)) ∧
    (∀ rest', blockText? (escapeTripleQuotes s ++ '"' :: '"' :: '"' :: rest) = some (s, rest') →
      EndsClear s) := by
  induction s using escapeTripleQuotes.induct with
  | case1 s ih =>
    have hread : blockText? (escapeTripleQuotes ('"' :: '"' :: '"' :: s) ++
        '"' :: '"' :: '"' :: rest) = consChar? '"' (consChar? '"' (consChar? '"'
          (blockText? (escapeTripleQuotes s ++ '"' :: '"' :: '"' :: rest)))) := rfl
    rw [hread, endsClear_tripleQuote]
    constructor
    · intro hclear
      rw [ih.1 hclear]
      rfl
    · intro rest' h
      obtain ⟨cs₁, h, heq₁⟩ := consChar?_eq_some_iff.1 h
      obtain ⟨cs₂, h, heq₂⟩ := consChar?_eq_some_iff.1 h
      obtain ⟨cs₃, h, heq₃⟩ := consChar?_eq_some_iff.1 h
      have heq : s = cs₃ := by simpa [heq₂, heq₃] using heq₁
      exact ih.2 rest' (heq ▸ h)
  | case2 c s hne ih =>
    have h : c = '"' → ¬['"', '"'] <+: s := by
      rintro rfl ⟨t, rfl⟩
      exact hne t rfl rfl
    by_cases hmeets : Meets c s
    · exact ⟨fun hclear => absurd hclear hmeets.not_endsClear,
        fun rest' hread => absurd hread hmeets.blockText?_ne⟩
    · rw [blockText?_of_not_meets hmeets h, endsClear_of_not_meets hmeets h]
      constructor
      · intro hclear
        rw [ih.1 hclear]
        rfl
      · intro rest' hread
        obtain ⟨_, hread, heq⟩ := consChar?_eq_some_iff.1 hread
        rw [← (List.cons.inj heq).2] at hread
        exact ih.2 rest' hread
  | case3 =>
    refine ⟨fun _ => rfl, fun _ _ => ?_⟩
    simp [EndsClear, quotesAtEnd]

theorem toList_block (s : String) (rest : List Char) :
    (Text.block s).toList ++ rest =
      '"' :: '"' :: '"' :: (escapeTripleQuotes s.toList ++ '"' :: '"' :: '"' :: rest) := by
  simp [Text.block, blockChars]

/-- Triple quotes begin a block string. -/
theorem tokens_tripleQuote {cs text rest : List Char} (h : blockText? cs = some (text, rest)) :
    tokens ('"' :: '"' :: '"' :: cs) = .block (String.ofList text) :: tokens rest := by
  rw [tokens_token (by decide) (by decide), token, if_neg (by decide), if_neg (by decide),
    if_neg (by decide), if_pos rfl, literal?, h]
  rfl

theorem tokens_tripleQuote_none {cs : List Char} (h : blockText? cs = none) :
    ∃ s rest, tokens ('"' :: '"' :: '"' :: cs) = .stray s :: tokens rest := by
  rw [tokens_token (by decide) (by decide), token, if_neg (by decide), if_neg (by decide),
    if_neg (by decide), if_pos rfl, literal?, h]
  exact ⟨_, _, rfl⟩

/-- A block string is closed exactly by its last quotes, and stands for the text that it was written
for, if and only if the text ends clear, whatever is written behind the string. A document is read
on behind it in the same cases. -/
theorem reads_block_iff (s : String) (rest : List Char) :
    (blockString? ((Text.block s).toList ++ rest) = some (s.toList, rest) ↔ EndsClear s.toList) ∧
    (tokens ((Text.block s).toList ++ rest) = .block s :: tokens rest ↔ EndsClear s.toList) := by
  obtain ⟨hback, hclear⟩ := blockText?_escapeTripleQuotes s.toList rest
  rw [toList_block]
  refine ⟨⟨hclear rest, hback⟩, ?_, ?_⟩
  · intro h
    cases hread : blockText? (escapeTripleQuotes s.toList ++ '"' :: '"' :: '"' :: rest) with
    | none =>
      obtain ⟨_, _, hstray⟩ := tokens_tripleQuote_none hread
      rw [hstray] at h
      cases (List.cons.inj h).1
    | some result =>
      obtain ⟨text, rest'⟩ := result
      rw [tokens_tripleQuote hread] at h
      have hs : String.ofList text = s := Token.block.inj (List.cons.inj h).1
      refine hclear rest' ?_
      rw [hread, ← hs, String.toList_ofList]
  · intro h
    rw [tokens_tripleQuote (hback h), String.ofList_toList]

example : ¬EndsClear ['S', 'a', 'y', ' ', '"', 'h', 'i', '"'] := by decide

end VectorQuery.Grammar
