import VectorQuery.Proofs.Text.Block

/-!
# Marks that are found from the end

A text in which a mark is followed by something that does not hold the mark is split at the last
occurrence of the mark, and in one way only. A text in quotes holds no triple quotes, and a block
string holds none behind a colon.
-/

namespace VectorQuery.Text

section OnlyInFront

variable {mark rest rest' xs ys : List Char}

/-- In a mark and the text behind it, the mark occurs nowhere but in front. -/
def OnlyInFront (mark rest : List Char) : Prop :=
  ∀ before behind, mark ++ rest = before ++ (mark ++ behind) → before = []

/-- A text is split at the last occurrence of a mark in one way. -/
theorem OnlyInFront.split (h : OnlyInFront mark rest) (h' : OnlyInFront mark rest')
    (heq : xs ++ (mark ++ rest) = ys ++ (mark ++ rest')) : xs = ys ∧ rest = rest' := by
  -- If the places differed, the later one would stand in what follows the earlier one.
  rcases List.append_eq_append_iff.1 heq with ⟨zs, rfl, hzs⟩ | ⟨zs, rfl, hzs⟩
  · obtain rfl := h zs rest' hzs
    exact ⟨(List.append_nil xs).symm, List.append_cancel_left hzs⟩
  · obtain rfl := h' zs rest hzs
    exact ⟨List.append_nil ys, (List.append_cancel_left hzs).symm⟩

/-- A mark that begins with a character of its own overlaps no other occurrence of itself. -/
theorem onlyInFront_of_absent {c : Char} (hc : c ∉ mark) (h : ¬c :: mark <:+: rest) :
    OnlyInFront (c :: mark) rest := by
  intro before behind heq
  cases before with
  | nil => rfl
  | cons d before =>
    have htail : mark ++ rest = before ++ c :: (mark ++ behind) := (List.cons.inj heq).2
    rcases List.append_eq_append_iff.1 htail with ⟨zs, -, hzs⟩ | ⟨zs, hmark, hzs⟩
    · exact absurd ⟨zs, behind, by rw [hzs, List.append_assoc]; rfl⟩ h
    · cases zs with
      | nil => exact absurd ⟨[], behind, hzs⟩ h
      | cons e zs =>
        obtain ⟨rfl, -⟩ := List.cons.inj hzs
        exact absurd (hmark ▸ by simp) hc

end OnlyInFront

/-! ## Three quotes in a row -/

/-- There are no three quotes in a row in a text that stands behind `n` quotes. -/
def FewQuotes : Nat → List Char → Prop
  | _, [] => True
  | n, c :: cs => if c = '"' then n < 2 ∧ FewQuotes (n + 1) cs else FewQuotes 0 cs

@[simp] theorem fewQuotes_nil (n : Nat) : FewQuotes n [] := trivial

theorem fewQuotes_quote {n : Nat} {cs : List Char} :
    FewQuotes n ('"' :: cs) ↔ n < 2 ∧ FewQuotes (n + 1) cs := Iff.rfl

theorem fewQuotes_cons {c : Char} (hc : c ≠ '"') {n : Nat} {cs : List Char} :
    FewQuotes n (c :: cs) ↔ FewQuotes 0 cs := by
  rw [FewQuotes, if_neg hc]

theorem FewQuotes.mono {m n : Nat} {cs : List Char} (h : FewQuotes n cs) (hmn : m ≤ n) :
    FewQuotes m cs := by
  induction cs generalizing m n with
  | nil => trivial
  | cons c cs ih =>
    by_cases hc : c = '"'
    · subst hc
      obtain ⟨hn, hcs⟩ := fewQuotes_quote.1 h
      exact fewQuotes_quote.2 ⟨by omega, ih hcs (by omega)⟩
    · exact (fewQuotes_cons hc).2 ((fewQuotes_cons hc).1 h)

/-- The induction carries the quotes in front of the text, which the next one may complete. -/
theorem FewQuotes.absent {n : Nat} {cs : List Char} (h : FewQuotes n cs) (hn : n < 3) :
    ¬['"', '"', '"'] <:+: List.replicate n '"' ++ cs := by
  induction cs generalizing n with
  | nil =>
    intro hinside
    have hlength := hinside.length_le
    simp only [List.append_nil, List.length_replicate, List.length_cons, List.length_nil] at hlength
    omega
  | cons c cs ih =>
    by_cases hc : c = '"'
    · subst hc
      obtain ⟨hlt, hcs⟩ := fewQuotes_quote.1 h
      have hshift : List.replicate n '"' ++ '"' :: cs = List.replicate (n + 1) '"' ++ cs := by
        rw [List.replicate_succ', List.append_assoc]
        rfl
      rw [hshift]
      exact ih hcs (by omega)
    · have hcs : ¬['"', '"', '"'] <:+: cs := ih ((fewQuotes_cons hc).1 h) (by decide)
      rintro ⟨before, behind, heq⟩
      rw [List.append_assoc] at heq
      rcases List.append_eq_append_iff.1 heq with ⟨zs, hzs, hmark⟩ | ⟨zs, -, hmark⟩
      · have hlength := congrArg List.length hzs
        match zs, hmark, hlength with
        | [], hmark, _ => exact hc (List.cons.inj hmark).1.symm
        | [_], hmark, _ => exact hc (List.cons.inj (List.cons.inj hmark).2).1.symm
        | [_, _], hmark, _ =>
          exact hc (List.cons.inj (List.cons.inj (List.cons.inj hmark).2).2).1.symm
        | _ :: _ :: _ :: _, _, hlength => simp at hlength; omega
      · cases zs with
        | nil => exact hc (List.cons.inj hmark).1
        | cons d zs =>
          refine hcs ⟨zs, behind, ?_⟩
          rw [List.append_assoc]
          exact (List.cons.inj hmark).2.symm

/-- Three quotes in front of a text that neither goes on with a quote nor holds three of them. -/
theorem onlyInFront_tripleQuote {cs : List Char} (h : FewQuotes 2 cs) :
    OnlyInFront ['"', '"', '"'] cs := by
  intro before behind heq
  cases before with
  | nil => rfl
  | cons d before =>
    refine absurd ⟨before, behind, ?_⟩ (h.absent (by decide))
    rw [List.append_assoc]
    exact (List.cons.inj heq).2.symm

theorem fewQuotes_escape (c : Char) {cs : List Char} (h : FewQuotes 1 cs) :
    FewQuotes 1 (escape c ++ cs) := by
  have hzero : FewQuotes 0 cs := h.mono (by decide)
  rcases escape_cases c with ⟨e, hescape, -⟩ | ⟨hescape, hcontrol⟩ | ⟨hescape, hc, -⟩
  · rw [hescape]
    refine (fewQuotes_cons (by decide)).2 ?_
    by_cases he : e = '"'
    · subst he
      exact fewQuotes_quote.2 ⟨by decide, h⟩
    · exact (fewQuotes_cons he).2 hzero
  · have hhigh : hexDigit (c.toNat / 16) ≠ '"' := hexDigit_ne (by omega) (by decide)
    have hlow : hexDigit (c.toNat % 16) ≠ '"' := hexDigit_ne (by omega) (by decide)
    rw [hescape]
    simpa [fewQuotes_cons, hhigh, hlow] using hzero
  · rw [hescape]
    exact (fewQuotes_cons hc).2 hzero

/-- A text in quotes holds no three quotes in a row, since those inside it are escaped. -/
theorem fewQuotes_quotedChars (s : List Char) {cs : List Char} (h : FewQuotes 2 cs) :
    FewQuotes 0 (quotedChars s ++ cs) := by
  have hinside : FewQuotes 1 (s.flatMap escape ++ '"' :: cs) := by
    induction s with
    | nil => exact fewQuotes_quote.2 ⟨by decide, h⟩
    | cons c s ih =>
      rw [List.flatMap_cons, List.append_assoc]
      exact fewQuotes_escape c ih
  show FewQuotes 0 ('"' :: (s.flatMap escape ++ ['"'] ++ cs))
  rw [List.append_assoc]
  exact fewQuotes_quote.2 ⟨by decide, hinside⟩

/-! ## Block strings -/

theorem escapeTripleQuotes_append {c : Char} (hc : c ≠ '"') (s : List Char) :
    escapeTripleQuotes (s ++ [c]) = escapeTripleQuotes s ++ [c] := by
  induction s using escapeTripleQuotes.induct with
  | case1 s ih => simp [escapeTripleQuotes, ih]
  | case2 d s hne ih =>
    have hquotes : d = '"' → ¬['"', '"'] <+: s := by
      rintro rfl ⟨t, rfl⟩
      exact hne t rfl rfl
    have happend : d = '"' → ¬['"', '"'] <+: s ++ [c] := by
      intro hd hstart
      rcases List.prefix_concat_iff.1 hstart with heq | hstart
      · have hlast := congrArg List.getLast? heq
        exact hc (by simpa using hlast.symm)
      · exact hquotes hd hstart
    rw [List.cons_append, Grammar.escapeTripleQuotes_cons happend,
      Grammar.escapeTripleQuotes_cons hquotes, ih, List.cons_append]
  | case3 => exact Grammar.escapeTripleQuotes_of_ne hc

/-- A text can be told from what a block string holds for it. With a letter behind it, it is read
back. -/
theorem escapeTripleQuotes_injective : Function.Injective escapeTripleQuotes := by
  intro s t h
  have hclear : ∀ s : List Char, Grammar.EndsClear (s ++ ['x']) := by
    intro s
    simp [Grammar.EndsClear, Grammar.quotesAtEnd]
  have hread : ∀ s : List Char, Grammar.blockText?
      (escapeTripleQuotes s ++ ['x'] ++ '"' :: '"' :: '"' :: []) = some (s ++ ['x'], []) := by
    intro s
    rw [← escapeTripleQuotes_append (by decide)]
    exact (Grammar.blockText?_escapeTripleQuotes (s ++ ['x']) []).1 (hclear s)
  have hs := hread s
  rw [h, hread t] at hs
  exact (List.append_cancel_right (Prod.mk.inj (Option.some.inj hs)).1).symm

/-- Triple quotes in a block string stand behind a backslash or another quote, so never behind a
colon. -/
theorem absent_escapeTripleQuotes (s : List Char) :
    ¬[':', '"', '"', '"'] <:+: escapeTripleQuotes s := by
  induction s using escapeTripleQuotes.induct with
  | case1 s ih => simpa [escapeTripleQuotes, List.infix_cons_iff] using ih
  | case2 c s hne ih =>
    have hquotes : c = '"' → ¬['"', '"'] <+: s := by
      rintro rfl ⟨t, rfl⟩
      exact hne t rfl rfl
    rw [Grammar.escapeTripleQuotes_cons hquotes, List.infix_cons_iff]
    rintro (hstart | hinside)
    · have hthree := (List.cons_prefix_cons.1 hstart).2
      by_cases hshort : s = [] ∨ s = ['"'] ∨ s = ['"', '"']
      · rcases hshort with rfl | rfl | rfl <;> revert hthree <;> decide
      · simp only [not_or] at hshort
        have hnone : ¬['"', '"', '"'] <+: escapeTripleQuotes s ++ [] :=
          Grammar.not_three_quotes hshort.1 hshort.2.1 hshort.2.2
        rw [List.append_nil] at hnone
        exact hnone hthree
    · exact ih hinside
  | case3 => decide

end VectorQuery.Text
