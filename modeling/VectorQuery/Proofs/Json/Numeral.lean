import VectorQuery.Json.Printer
import VectorQuery.Json.Reader
import VectorQuery.Proofs.Number.Plain

/-!
# Numbers in printed JSON

A number is read the same wherever it stands: what follows it does not matter as long as it cannot
go on with it (`exists_numeral?`). So what is known of the text of a floating point number on its
own holds of that number inside a larger text. A whole number is read back from its digits.
-/

namespace VectorQuery.Json

open Number Text

namespace Tree

/-- Characters as symbols. -/
def symbols (cs : List Char) : List Symbol := cs.map .char

/-- The symbols do not begin with a character of a kind. -/
def Avoids (p : Char → Bool) (s : List Symbol) : Prop := ∀ c, s.head? = some (.char c) → p c = false

/-- From the front a reader takes `used`, which it reads as `a`, whatever follows that does not
begin with a character of a kind. -/
def Takes {α : Type} (read : List Symbol → Result α) (p : Char → Bool) (used : List Symbol)
    (a : α) : Prop :=
  ∀ rest, Avoids p rest → read (used ++ rest) = some (a, rest)

/-- Whether a character goes on with a number without an exponent when it stands behind it. -/
def lengthens (c : Char) : Bool := c.isDigit || c = '.'

/-- Whether a character goes on with a number when it stands behind it. -/
def continues (c : Char) : Bool := lengthens c || c = 'e' || c = 'E'

theorem Avoids.nil {p : Char → Bool} : Avoids p [] := by
  intro c h
  cases h

theorem Avoids.cons {p : Char → Bool} {c : Char} (h : p c = false) (rest : List Symbol) :
    Avoids p (.char c :: rest) := by
  intro d hd
  cases hd
  exact h

theorem Avoids.mono {p q : Char → Bool} (hpq : ∀ c, p c = true → q c = true) {s : List Symbol}
    (h : Avoids q s) : Avoids p s := by
  intro c hc
  have hq := h c hc
  by_contra hp
  rw [hpq c (by simpa using hp)] at hq
  cases hq

theorem avoids_append {p : Char → Bool} {used rest : List Symbol}
    (hused : used = [] ∨ ∃ c, used.head? = some (.char c) ∧ p c = false) (hrest : Avoids p rest) :
    Avoids p (used ++ rest) := by
  obtain rfl | ⟨c, hhead, hc⟩ := hused
  · exact hrest
  · intro d hd
    rw [List.head?_append, hhead] at hd
    cases hd
    exact hc

theorem lengthens_of_isDigit {c : Char} (h : c.isDigit = true) : lengthens c = true := by
  rw [lengthens, h, Bool.true_or]

theorem continues_of_letter {c : Char} (h : (c = 'e' || c = 'E') = true) :
    continues c = true := by
  rw [continues, Bool.or_assoc, Bool.or_eq_true]
  exact .inr h

theorem continues_of_lengthens {c : Char} (h : lengthens c = true) : continues c = true := by
  rw [continues, h, Bool.true_or, Bool.true_or]

/-! ## Digits -/

/-- The number that a digit counts. -/
def digitValue (c : Char) : Nat := c.toNat - '0'.toNat

theorem digit?_of_isDigit {c : Char} (h : c.isDigit = true) : digit? c = some (digitValue c) := by
  have hc : '0' ≤ c ∧ c ≤ '9' := by
    simpa [Char.isDigit, Char.le_def] using h
  rw [digit?, if_pos hc]
  rfl

theorem digit?_of_not_isDigit {c : Char} (h : c.isDigit = false) : digit? c = none := by
  have hc : ¬('0' ≤ c ∧ c ≤ '9') := by
    intro hc
    have : c.isDigit = true := by simpa [Char.isDigit, Char.le_def] using hc
    rw [h] at this
    cases this
  rw [digit?, if_neg hc]

theorem digits_of_avoids {s : List Symbol} (h : Avoids Char.isDigit s) : digits s = ([], s) := by
  cases s with
  | nil => rfl
  | cons symbol rest =>
    cases symbol with
    | stray => rfl
    | char c => rw [digits, digit?_of_not_isDigit (h c rfl)]

theorem digits_append {ds : List Char} (hds : ∀ c ∈ ds, c.isDigit = true) {rest : List Symbol}
    (hrest : Avoids Char.isDigit rest) :
    digits (symbols ds ++ rest) = (ds.map digitValue, rest) := by
  induction ds with
  | nil => exact digits_of_avoids hrest
  | cons c ds ih =>
    obtain ⟨hc, hds⟩ := List.forall_mem_cons.1 hds
    show digits (.char c :: (symbols ds ++ rest)) = _
    rw [digits, digit?_of_isDigit hc, ih hds]
    rfl

/-- What is taken for digits are digits. -/
theorem exists_digits (s : List Symbol) :
    ∃ ds : List Char, (∀ c ∈ ds, c.isDigit = true) ∧ s = symbols ds ++ (digits s).2 ∧
      (digits s).1 = ds.map digitValue := by
  induction s with
  | nil => exact ⟨[], by simp, rfl, rfl⟩
  | cons symbol rest ih =>
    cases symbol with
    | stray => exact ⟨[], by simp, rfl, rfl⟩
    | char c =>
      by_cases hc : c.isDigit = true
      · obtain ⟨ds, hds, hsplit, hvalues⟩ := ih
        refine ⟨c :: ds, List.forall_mem_cons.2 ⟨hc, hds⟩, ?_, ?_⟩
        · rw [digits, digit?_of_isDigit hc]
          exact congrArg (Symbol.char c :: ·) hsplit
        · rw [digits, digit?_of_isDigit hc]
          exact congrArg (digitValue c :: ·) hvalues
      · rw [Bool.not_eq_true] at hc
        refine ⟨[], by simp, ?_, ?_⟩
        · rw [digits, digit?_of_not_isDigit hc]
          rfl
        · rw [digits, digit?_of_not_isDigit hc]
          rfl

theorem someDigits?_append {c : Char} {ds : List Char} (hds : ∀ d ∈ c :: ds, d.isDigit = true) :
    Takes someDigits? Char.isDigit (symbols (c :: ds)) ((c :: ds).map digitValue) := by
  intro rest hrest
  rw [someDigits?, digits_append hds hrest]
  rfl

theorem exists_someDigits? {s rest : List Symbol} {values : List Nat}
    (h : someDigits? s = some (values, rest)) :
    ∃ c ds, (∀ d ∈ c :: ds, d.isDigit = true) ∧ s = symbols (c :: ds) ++ rest ∧
      Takes someDigits? Char.isDigit (symbols (c :: ds)) values := by
  obtain ⟨ds, hds, hsplit, hvalues⟩ := exists_digits s
  unfold someDigits? at h
  cases ds with
  | nil =>
    have hnil : digits s = ([], (digits s).2) := Prod.ext hvalues rfl
    rw [hnil] at h
    cases h
  | cons c ds =>
    have hcons : digits s = ((digitValue c) :: ds.map digitValue, (digits s).2) :=
      Prod.ext hvalues rfl
    rw [hcons] at h
    obtain ⟨rfl, rfl⟩ := Prod.mk.inj (Option.some.inj h)
    exact ⟨c, ds, hds, hsplit, someDigits?_append hds⟩

/-! ## Fractions and exponents -/

theorem fraction?_of_avoids {s : List Symbol} (h : Avoids lengthens s) :
    fraction? s = some (none, s) := by
  unfold fraction?
  split
  · exact absurd (h '.' rfl) (by decide)
  · rfl

/-- A fraction begins with its point; where there is none, nothing is taken. -/
theorem exists_fraction? {s rest : List Symbol} {fraction : Option (List Nat)}
    (h : fraction? s = some (fraction, rest)) :
    ∃ used, s = used ++ rest ∧ (used = [] ∨ used.head? = some (.char '.')) ∧
      Takes fraction? lengthens used fraction := by
  unfold fraction? at h
  split at h
  · obtain ⟨⟨values, rest'⟩, hdigits, heq⟩ := Option.map_eq_some_iff.1 h
    obtain ⟨rfl, rfl⟩ := Prod.mk.inj heq
    obtain ⟨c, ds, hds, hsplit, htakes⟩ := exists_someDigits? hdigits
    refine ⟨.char '.' :: symbols (c :: ds), congrArg (Symbol.char '.' :: ·) hsplit, .inr rfl, ?_⟩
    intro after hafter
    have hread := htakes after (hafter.mono fun _ => lengthens_of_isDigit)
    show fraction? (.char '.' :: (symbols (c :: ds) ++ after)) = _
    rw [fraction?, hread]
    rfl
  · obtain ⟨rfl, rfl⟩ := Prod.mk.inj (Option.some.inj h)
    exact ⟨[], rfl, .inl rfl, fun _ => fraction?_of_avoids⟩

theorem exponent?_of_avoids {s : List Symbol} (h : Avoids (fun c => c = 'e' || c = 'E') s) :
    exponent? s = some (none, s) := by
  unfold exponent?
  split
  · rename_i c rest
    have hc := h c rfl
    rw [if_neg (by simpa using hc)]
  · rfl

theorem exists_exponentDigits? {negative : Bool} {s rest : List Symbol}
    {exponent : Option (Bool × List Nat)}
    (h : exponentDigits? negative s = some (exponent, rest)) :
    ∃ c ds, (∀ d ∈ c :: ds, d.isDigit = true) ∧ s = symbols (c :: ds) ++ rest ∧
      Takes (exponentDigits? negative) Char.isDigit (symbols (c :: ds)) exponent := by
  obtain ⟨⟨values, rest'⟩, hdigits, heq⟩ := Option.map_eq_some_iff.1 h
  obtain ⟨rfl, rfl⟩ := Prod.mk.inj heq
  obtain ⟨c, ds, hds, hsplit, htakes⟩ := exists_someDigits? hdigits
  refine ⟨c, ds, hds, hsplit, ?_⟩
  intro after hafter
  rw [exponentDigits?, htakes after hafter]
  rfl

/-- An exponent begins with its letter; where there is none, nothing is taken. -/
theorem exists_exponent? {s rest : List Symbol} {exponent : Option (Bool × List Nat)}
    (h : exponent? s = some (exponent, rest)) :
    ∃ used, s = used ++ rest ∧
      (used = [] ∨ ∃ c, used.head? = some (.char c) ∧ (c = 'e' ∨ c = 'E')) ∧
      Takes exponent? continues used exponent := by
  have hdigit : ∀ c : Char, c.isDigit = true → continues c = true :=
    fun _ hc => continues_of_lengthens (lengthens_of_isDigit hc)
  have hletter : ∀ c : Char, (c = 'e' || c = 'E') = true → continues c = true :=
    fun _ => continues_of_letter
  unfold exponent? at h
  split at h
  · rename_i c tail
    by_cases hc : c = 'e' ∨ c = 'E'
    · rw [if_pos hc] at h
      split at h
      · obtain ⟨d, ds, hds, hsplit, htakes⟩ := exists_exponentDigits? h
        refine ⟨.char c :: .char '-' :: symbols (d :: ds), ?_, .inr ⟨c, rfl, hc⟩, ?_⟩
        · rw [hsplit]
          rfl
        · intro after hafter
          show exponent? (.char c :: .char '-' :: (symbols (d :: ds) ++ after)) = _
          rw [exponent?, if_pos hc]
          exact htakes after (hafter.mono hdigit)
      · obtain ⟨d, ds, hds, hsplit, htakes⟩ := exists_exponentDigits? h
        refine ⟨.char c :: .char '+' :: symbols (d :: ds), ?_, .inr ⟨c, rfl, hc⟩, ?_⟩
        · rw [hsplit]
          rfl
        · intro after hafter
          show exponent? (.char c :: .char '+' :: (symbols (d :: ds) ++ after)) = _
          rw [exponent?, if_pos hc]
          exact htakes after (hafter.mono hdigit)
      · obtain ⟨d, ds, hds, hsplit, htakes⟩ := exists_exponentDigits? h
        refine ⟨.char c :: symbols (d :: ds), ?_, .inr ⟨c, rfl, hc⟩, ?_⟩
        · rw [hsplit]
          rfl
        · intro after hafter
          have hd := hds d (List.mem_cons_self ..)
          show exponent? (.char c :: .char d :: (symbols ds ++ after)) = _
          have hsign : ∀ sign : Char, sign.isDigit = false → ∀ rest',
              Symbol.char d :: (symbols ds ++ after) = .char sign :: rest' → False := by
            intro sign hsign rest' heq
            obtain ⟨rfl⟩ := Symbol.char.inj (List.cons.inj heq).1
            rw [hsign] at hd
            cases hd
          rw [exponent?, if_pos hc]
          · exact htakes after (hafter.mono hdigit)
          · exact hsign '-' (by decide)
          · exact hsign '+' (by decide)
    · rw [if_neg hc] at h
      obtain ⟨rfl, rfl⟩ := Prod.mk.inj (Option.some.inj h)
      refine ⟨[], rfl, .inl rfl, ?_⟩
      intro after hafter
      exact exponent?_of_avoids (hafter.mono hletter)
  · obtain ⟨rfl, rfl⟩ := Prod.mk.inj (Option.some.inj h)
    refine ⟨[], rfl, .inl rfl, ?_⟩
    intro after hafter
    exact exponent?_of_avoids (hafter.mono hletter)

/-! ## Whole texts of numbers -/

/-- A number after its sign is its digits, a fraction and an exponent, one after another. -/
theorem unsigned?_eq_some_iff {negative : Bool} {s rest : List Symbol} {n : Numeral} :
    unsigned? negative s = some (n, rest) ↔
      ∃ values rest₁ fraction rest₂ exponent, someDigits? s = some (values, rest₁) ∧
        ¬(values.length > 1 ∧ values.head? = some 0) ∧
        fraction? rest₁ = some (fraction, rest₂) ∧ exponent? rest₂ = some (exponent, rest) ∧
        n = ⟨negative, values, fraction, exponent⟩ := by
  unfold unsigned?
  constructor
  · intro h
    obtain ⟨⟨values, rest₁⟩, hvalues, h⟩ := Option.bind_eq_some_iff.1 h
    dsimp only at h
    by_cases hzero : values.length > 1 ∧ values.head? = some 0
    · rw [if_pos hzero] at h
      cases h
    · rw [if_neg hzero] at h
      obtain ⟨⟨fraction, rest₂⟩, hfraction, h⟩ := Option.bind_eq_some_iff.1 h
      obtain ⟨⟨exponent, rest₃⟩, hexponent, h⟩ := Option.bind_eq_some_iff.1 h
      obtain ⟨rfl, rfl⟩ := Prod.mk.inj (Option.some.inj h)
      exact ⟨values, rest₁, fraction, rest₂, exponent, hvalues, hzero, hfraction, hexponent, rfl⟩
  · rintro ⟨values, rest₁, fraction, rest₂, exponent, hvalues, hzero, hfraction, hexponent, rfl⟩
    simp only [Option.bind_eq_bind, hvalues, hfraction, hexponent, Option.bind_some]
    exact if_neg hzero

theorem exists_unsigned? {negative : Bool} {s rest : List Symbol} {n : Numeral}
    (h : unsigned? negative s = some (n, rest)) :
    ∃ c used, c.isDigit = true ∧ s = .char c :: used ++ rest ∧
      Takes (unsigned? negative) continues (.char c :: used) n := by
  obtain ⟨values, rest₁, fraction, rest₂, exponent, hvalues, hzero, hfraction, hexponent, rfl⟩ :=
    unsigned?_eq_some_iff.1 h
  obtain ⟨c, ds, hds, rfl, hdigits⟩ := exists_someDigits? hvalues
  obtain ⟨used₁, rfl, hhead₁, htakes₁⟩ := exists_fraction? hfraction
  obtain ⟨used₂, rfl, hhead₂, htakes₂⟩ := exists_exponent? hexponent
  refine ⟨c, symbols ds ++ (used₁ ++ used₂), hds c (List.mem_cons_self ..), ?_, ?_⟩
  · simp [symbols]
  · intro after hafter
    have hafter₂ : Avoids lengthens (used₂ ++ after) := by
      refine avoids_append ?_ (hafter.mono fun _ => continues_of_lengthens)
      obtain rfl | ⟨c, hhead, hc⟩ := hhead₂
      · exact .inl rfl
      · refine .inr ⟨c, hhead, ?_⟩
        obtain rfl | rfl := hc <;> rfl
    have hafter₁ : Avoids Char.isDigit (used₁ ++ (used₂ ++ after)) := by
      refine avoids_append ?_ (hafter₂.mono fun _ => lengthens_of_isDigit)
      obtain rfl | hhead := hhead₁
      · exact .inl rfl
      · exact .inr ⟨'.', hhead, rfl⟩
    have hsplit : .char c :: (symbols ds ++ (used₁ ++ used₂)) ++ after =
        symbols (c :: ds) ++ (used₁ ++ (used₂ ++ after)) := by
      simp [symbols]
    rw [hsplit]
    exact unsigned?_eq_some_iff.2 ⟨values, _, fraction, _, exponent, hdigits _ hafter₁, hzero,
      htakes₁ _ hafter₂, htakes₂ _ hafter, rfl⟩

/-- What begins with a digit has no sign. -/
theorem numeral?_of_isDigit {c : Char} (h : c.isDigit = true) (rest : List Symbol) :
    numeral? (.char c :: rest) = unsigned? false (.char c :: rest) := by
  rw [numeral?]
  intro rest' heq
  obtain ⟨rfl⟩ := Symbol.char.inj (List.cons.inj heq).1
  exact absurd h (by decide)

theorem exists_numeral? {s rest : List Symbol} {n : Numeral}
    (h : numeral? s = some (n, rest)) :
    ∃ used, s = used ++ rest ∧ Takes numeral? continues used n := by
  unfold numeral? at h
  split at h
  · obtain ⟨c, used, -, hsplit, htakes⟩ := exists_unsigned? h
    refine ⟨.char '-' :: .char c :: used, congrArg (Symbol.char '-' :: ·) hsplit, ?_⟩
    intro after hafter
    exact htakes after hafter
  · obtain ⟨c, used, hc, hsplit, htakes⟩ := exists_unsigned? h
    refine ⟨.char c :: used, hsplit, ?_⟩
    intro after hafter
    exact (numeral?_of_isDigit hc _).trans (htakes after hafter)

/-! ## Whole numbers -/

theorem digitValue_ne_zero {c : Char} (hdigit : c.isDigit = true) (hne : c ≠ '0') :
    digitValue c ≠ 0 := by
  intro hzero
  refine hne (Char.toNat_inj.1 ?_)
  have hle : 48 ≤ c.toNat := by
    simp only [Char.isDigit, Bool.and_eq_true, decide_eq_true_eq, UInt32.le_iff_toNat_le] at hdigit
    exact hdigit.1
  have hsub : c.toNat - 48 = 0 := hzero
  show c.toNat = 48
  omega

theorem someDigits?_of_isWholePart {ds : List Char} (h : IsWholePart ds) :
    Takes someDigits? Char.isDigit (symbols ds) (ds.map digitValue) := by
  obtain ⟨c, ds, rfl⟩ := List.exists_cons_of_ne_nil h.ne_nil
  exact someDigits?_append h.1

/-- No zero stands in front of other digits of a whole part. -/
theorem not_leadingZero {ds : List Char} (h : IsWholePart ds) :
    ¬((ds.map digitValue).length > 1 ∧ (ds.map digitValue).head? = some 0) := by
  rintro ⟨hlength, hzero⟩
  obtain ⟨hdigits, rfl | ⟨c, rest, rfl, hne⟩⟩ := h
  · exact absurd hlength (by decide)
  · exact digitValue_ne_zero (hdigits c (List.mem_cons_self ..)) hne (Option.some.inj hzero)

/-- The digits of a whole number are read whole. -/
theorem unsigned?_digitChars (negative : Bool) (n : Nat) :
    Takes (unsigned? negative) continues (symbols (digitChars n))
      ⟨negative, (digitChars n).map digitValue, none, none⟩ := by
  intro rest hrest
  have hwhole := isWholePart_digitChars n
  have hlengthens := hrest.mono fun _ => continues_of_lengthens
  have hletters := hrest.mono fun _ => continues_of_letter
  exact unsigned?_eq_some_iff.2 ⟨_, rest, none, rest, none,
    someDigits?_of_isWholePart hwhole rest (hlengthens.mono fun _ => lengthens_of_isDigit),
    not_leadingZero hwhole, fraction?_of_avoids hlengthens, exponent?_of_avoids hletters, rfl⟩

/-- The numeral that is read for a whole number. -/
def wholeNumeral (n : Int) : Numeral :=
  ⟨decide (n < 0), (digitChars n.natAbs).map digitValue, none, none⟩

theorem numeral?_intChars (n : Int) :
    Takes numeral? continues (symbols (intChars n)) (wholeNumeral n) := by
  intro rest hrest
  unfold intChars wholeNumeral
  by_cases hn : n < 0
  · rw [if_pos hn, decide_eq_true hn]
    exact unsigned?_digitChars true n.natAbs rest hrest
  · rw [if_neg hn, decide_eq_false hn]
    have hread := unsigned?_digitChars false n.natAbs rest hrest
    obtain ⟨c, ds, hds, hdigit⟩ := (isUnsigned_digitChars n.natAbs).head
    rw [hds] at hread ⊢
    exact (numeral?_of_isDigit hdigit _).trans hread

end Tree

namespace Numeral

theorem le_ofDigitChars (ds : List Char) : ∀ n, n ≤ Nat.ofDigitChars 10 ds n := by
  induction ds with
  | nil =>
    intro n
    exact Nat.le_refl n
  | cons c ds ih =>
    intro n
    rw [Nat.ofDigitChars_cons]
    have := ih (10 * n + (c.toNat - '0'.toNat))
    omega

/-- As long as the number fits 64 bits, every digit is kept. -/
theorem foldl_pushWhole (ds : List Char) : ∀ n, Nat.ofDigitChars 10 ds n < UInt64.size →
    (ds.map Tree.digitValue).foldl Significand.pushWhole ⟨n, 0, false⟩ =
      ⟨Nat.ofDigitChars 10 ds n, 0, false⟩ := by
  induction ds with
  | nil =>
    intro n _
    rfl
  | cons c ds ih =>
    intro n h
    rw [Nat.ofDigitChars_cons] at h ⊢
    have hnext : n * 10 + Tree.digitValue c = 10 * n + (c.toNat - '0'.toNat) := by
      rw [Nat.mul_comm]
      rfl
    have hlt := Nat.lt_of_le_of_lt (le_ofDigitChars ds _) h
    have hfits : Significand.fits ⟨n, 0, false⟩ (Tree.digitValue c) = true := by
      rw [← hnext] at hlt
      simpa [Significand.fits] using hlt
    rw [List.map_cons, List.foldl_cons, Significand.pushWhole, if_pos hfits, ← ih _ h, ← hnext]

theorem ofWhole_wholeNumeral {n : Int} (h : n.natAbs < UInt64.size) :
    Significand.ofWhole (Tree.wholeNumeral n).whole = ⟨n.natAbs, 0, false⟩ := by
  have hdigits := Decimal.ofDigitChars_digitChars n.natAbs
  have hfold := foldl_pushWhole (digitChars n.natAbs) 0 (by rw [hdigits]; exact h)
  rw [hdigits] at hfold
  exact hfold

end Numeral

theorem ofInt_value (n : Whole) : ofInt n.value = .whole n := by
  rw [ofInt, dif_pos ⟨n.least_le, n.lt_bound⟩]

/-- A whole number is read back, be it signed or unsigned. -/
theorem value?_wholeNumeral (n : Whole) :
    (Tree.wholeNumeral n.value).value? = some (.whole n) := by
  have hleast : -9223372036854775808 ≤ n.value := n.least_le
  have hbound : n.value < 18446744073709551616 := n.lt_bound
  have habs : n.value.natAbs < UInt64.size := by
    show _ < 18446744073709551616
    omega
  have hwhole := Numeral.ofWhole_wholeNumeral habs
  have hvalue : (Tree.wholeNumeral n.value).value? =
      if !decide (n.value < 0) then some (ofInt n.value.natAbs)
      else if n.value.natAbs = 0 ∨ signedBound < n.value.natAbs then
        some ((Tree.wholeNumeral n.value).signed (Binary.ofInt n.value.natAbs))
      else some (ofInt (-n.value.natAbs)) := by
    unfold Numeral.value?
    rw [hwhole]
    rfl
  rw [hvalue, ← ofInt_value n]
  by_cases hneg : n.value < 0
  · have hsmall : ¬(n.value.natAbs = 0 ∨ signedBound < n.value.natAbs) := by
      show ¬(_ ∨ (9223372036854775808 : Int) < _)
      omega
    have hback : -(n.value.natAbs : Int) = n.value := by omega
    rw [if_neg (by simpa using hneg), if_neg hsmall, hback]
  · have hback : (n.value.natAbs : Int) = n.value := by omega
    rw [if_pos (by simpa using hneg), hback]

/-! ## Floating point numbers -/

namespace Tree

/-- Whether a character can stand in a number. -/
def isNumberChar (c : Char) : Bool := continues c || c = '-' || c = '+'

theorem isNumberChar_of_isDigit {c : Char} (h : c.isDigit = true) : isNumberChar c = true := by
  rw [isNumberChar, continues_of_lengthens (lengthens_of_isDigit h), Bool.true_or, Bool.true_or]

theorem isNumberChar_of_mem_intChars {n : Int} {c : Char} (h : c ∈ intChars n) :
    isNumberChar c = true := by
  unfold intChars at h
  split at h
  · obtain rfl | h := List.mem_cons.1 h
    · rfl
    · exact isNumberChar_of_isDigit (isDigit_of_mem_digitChars h)
  · exact isNumberChar_of_isDigit (isDigit_of_mem_digitChars h)

theorem isNumberChar_of_mem_positional {d : Decimal} {c : Char} (h : c ∈ d.positional) :
    isNumberChar c = true := by
  have hpadded : ∀ n, c ∈ List.replicate n '0' ++ digitChars d.digits → isNumberChar c = true := by
    intro n hc
    obtain hc | hc := List.mem_append.1 hc
    · rw [(List.mem_replicate.1 hc).2]
      rfl
    · exact isNumberChar_of_isDigit (isDigit_of_mem_digitChars hc)
  unfold Decimal.positional at h
  dsimp only at h
  split at h
  · obtain h | h := List.mem_append.1 h
    · exact isNumberChar_of_isDigit (isDigit_of_mem_digitChars h)
    · rw [(List.mem_replicate.1 h).2]
      rfl
  · obtain h | h := List.mem_append.1 h
    · exact hpadded _ (List.mem_of_mem_take h)
    · obtain rfl | h := List.mem_cons.1 h
      · rfl
      · exact hpadded _ (List.mem_of_mem_drop h)

theorem isNumberChar_of_mem_scientific {d : Decimal} {c : Char} (h : c ∈ d.scientific) :
    isNumberChar c = true := by
  have hdigits : ∀ n, c ∈ digitChars n → isNumberChar c = true := fun n hc =>
    isNumberChar_of_isDigit (isDigit_of_mem_digitChars hc)
  unfold Decimal.scientific at h
  dsimp only at h
  obtain h | h := List.mem_append.1 h
  · split at h
    · rename_i first second rest heq
      have hmem : c = '.' ∨ c ∈ digitChars d.digits := by
        rw [heq]
        simp only [List.mem_cons] at h ⊢
        tauto
      obtain rfl | hmem := hmem
      · rfl
      · exact hdigits _ hmem
    · exact hdigits _ h
  · obtain rfl | h := List.mem_cons.1 h
    · rfl
    · obtain h | h := List.mem_cons.1 h
      · split at h <;> subst h <;> rfl
      · exact hdigits _ h

theorem isNumberChar_of_mem_magnitude {l : Layout} {d : Decimal} {c : Char}
    (h : c ∈ l.magnitudeChars d) : isNumberChar c = true := by
  have hcases : l.magnitudeChars d =
        d.positional ++ (if l.keepsPoint && 0 ≤ d.exponent then ['.', '0'] else []) ∨
      l.magnitudeChars d = d.scientific := ite_eq_or_eq _ _ _
  obtain heq | heq := hcases
  · rw [heq] at h
    obtain h | h := List.mem_append.1 h
    · exact isNumberChar_of_mem_positional h
    · obtain hpoint | hpoint := ite_eq_or_eq (l.keepsPoint && 0 ≤ d.exponent) ['.', '0'] []
      · rw [hpoint] at h
        simp only [List.mem_cons, List.not_mem_nil, or_false] at h
        obtain rfl | rfl := h <;> rfl
      · rw [hpoint] at h
        cases h
  · rw [heq] at h
    exact isNumberChar_of_mem_scientific h

theorem isNumberChar_of_mem_chars {f : Format} {l : Layout} {x : Binary f}
    (hx : x.isFinite = true) {c : Char} (h : c ∈ l.chars x) : isNumberChar c = true := by
  unfold Layout.chars at h
  rw [Binary.isNaN_eq_false_of_isFinite hx, Binary.isInfinite_eq_false_of_isFinite hx] at h
  obtain h | h := List.mem_append.1 h
  · obtain hsign | hsign := ite_eq_or_eq (x.negative = true) ['-'] []
    · rw [hsign, List.mem_singleton] at h
      rw [h]
      rfl
    · rw [hsign] at h
      cases h
  · exact isNumberChar_of_mem_magnitude h

theorem isSpace_of_isNumberChar {c : Char} (h : isNumberChar c = true) : isSpace c = false := by
  by_contra hspace
  rw [Bool.not_eq_false] at hspace
  simp only [isSpace, Bool.or_eq_true, decide_eq_true_eq] at hspace
  obtain ((rfl | rfl) | rfl) | rfl := hspace <;> exact absurd h (by decide)

theorem skipBlanks_of_isSpace {c : Char} (h : isSpace c = false) (rest : List Symbol) :
    skipBlanks (.char c :: rest) = .char c :: rest := by
  rw [skipBlanks, h]
  rfl

theorem value?_number {c : Char} (h : isNumberChar c = true) (fuel : Nat) (rest : List Symbol) :
    value? (fuel + 1) (.char c :: rest) =
      (numeral? (.char c :: rest)).map fun (n, rest) => (.number n, rest) := by
  have hne : ∀ d : Char, isNumberChar d = false → ∀ a b : List Symbol,
      Symbol.char c :: a = .char d :: b → False := by
    intro d hd a b heq
    obtain ⟨rfl⟩ := Symbol.char.inj (List.cons.inj heq).1
    rw [h] at hd
    cases hd
  rw [value?, skipBlanks_of_isSpace (isSpace_of_isNumberChar h)]
  split
  · rename_i heq
    exact (hne 'n' rfl _ _ heq).elim
  · rename_i heq
    exact (hne 't' rfl _ _ heq).elim
  · rename_i heq
    exact (hne 'f' rfl _ _ heq).elim
  · rename_i heq
    exact (hne '"' rfl _ _ heq).elim
  · rename_i heq
    exact (hne '[' rfl _ _ heq).elim
  · rename_i heq
    exact (hne '{' rfl _ _ heq).elim
  · rfl

theorem skipBlanks_of_numberChars {s : List Symbol}
    (h : ∀ symbol ∈ s, ∃ c, symbol = .char c ∧ isNumberChar c = true) : skipBlanks s = s := by
  cases s with
  | nil => rfl
  | cons symbol rest =>
    obtain ⟨c, rfl, hc⟩ := h symbol (List.mem_cons_self ..)
    exact skipBlanks_of_isSpace (isSpace_of_isNumberChar hc) rest

/-- A text of nothing but characters of numbers is read as a number if it is read at all. -/
theorem exists_numeral_of_parse? {cs : List Char} (hcs : ∀ c ∈ cs, isNumberChar c = true)
    {tree : Tree} (h : parse? (symbols cs) = some tree) :
    ∃ n, tree = .number n ∧ Takes numeral? continues (symbols cs) n := by
  cases cs with
  | nil => cases h
  | cons c cs =>
    have hc := hcs c (List.mem_cons_self ..)
    have hvalue := value?_number hc (2 * (symbols (c :: cs)).length + 1) (symbols cs)
    replace hvalue : value? (2 * (symbols (c :: cs)).length + 2) (symbols (c :: cs)) =
      (numeral? (symbols (c :: cs))).map fun (n, rest) => (.number n, rest) := hvalue
    rw [parse?, hvalue] at h
    cases hnumeral : numeral? (symbols (c :: cs)) with
    | none =>
      rw [hnumeral] at h
      cases h
    | some result =>
      obtain ⟨n, rest⟩ := result
      obtain ⟨used, hsplit, htakes⟩ := exists_numeral? hnumeral
      have hrest : skipBlanks rest = rest := by
        refine skipBlanks_of_numberChars fun symbol hmem => ?_
        have hmem : symbol ∈ symbols (c :: cs) := by
          rw [hsplit]
          exact List.mem_append_right _ hmem
        obtain ⟨d, hd, rfl⟩ := List.mem_map.1 hmem
        exact ⟨d, rfl, hcs d hd⟩
      rw [hnumeral] at h
      replace h :
        (if (skipBlanks rest).isEmpty then some (Tree.number n) else none) = some tree := h
      rw [hrest] at h
      by_cases hempty : rest.isEmpty = true
      · rw [if_pos hempty] at h
        rw [List.isEmpty_iff.1 hempty, List.append_nil] at hsplit
        rw [hsplit]
        exact ⟨n, (Option.some.inj h).symm, htakes⟩
      · rw [if_neg hempty] at h
        cases h

/-! ## Finite numbers -/

/-- Nothing, or an exponent with its sign. -/
def IsExponent (cs : List Char) : Prop :=
  cs = [] ∨ ∃ sign c ds, (sign = '-' ∨ sign = '+') ∧ (∀ d ∈ c :: ds, d.isDigit = true) ∧
    cs = 'e' :: sign :: c :: ds

theorem IsExponent.avoids {cs : List Char} (h : IsExponent cs) :
    Avoids lengthens (symbols cs) := by
  obtain rfl | ⟨sign, c, ds, -, -, rfl⟩ := h
  · exact Avoids.nil
  · exact Avoids.cons (by decide) _

theorem exists_fraction?_pointed {fraction rest : List Char}
    (hfraction : ∀ c ∈ fraction, c.isDigit = true) (hrest : Avoids lengthens (symbols rest)) :
    ∃ value, fraction? (symbols (pointed fraction) ++ symbols rest) =
      some (value, symbols rest) := by
  cases fraction with
  | nil => exact ⟨none, fraction?_of_avoids hrest⟩
  | cons c ds =>
    have hdigits := someDigits?_append hfraction _ (hrest.mono fun _ => lengthens_of_isDigit)
    refine ⟨some ((c :: ds).map digitValue), ?_⟩
    show fraction? (.char '.' :: (symbols (c :: ds) ++ symbols rest)) = _
    rw [fraction?, hdigits]
    rfl

theorem IsExponent.exists_exponent? {cs : List Char} (h : IsExponent cs) :
    ∃ value, exponent? (symbols cs) = some (value, []) := by
  obtain rfl | ⟨sign, c, ds, hsign, hds, rfl⟩ := h
  · exact ⟨none, rfl⟩
  · have hdigits := someDigits?_append hds [] Avoids.nil
    rw [List.append_nil] at hdigits
    obtain rfl | rfl := hsign
    · refine ⟨some (true, (c :: ds).map digitValue), ?_⟩
      show exponentDigits? true (symbols (c :: ds)) = _
      rw [exponentDigits?, hdigits]
      rfl
    · refine ⟨some (false, (c :: ds).map digitValue), ?_⟩
      show exponentDigits? false (symbols (c :: ds)) = _
      rw [exponentDigits?, hdigits]
      rfl

/-- What is put together from a whole part, a fraction and an exponent is a number. -/
theorem exists_unsigned?_parts (negative : Bool) {whole fraction exponent : List Char}
    (hwhole : IsWholePart whole) (hfraction : ∀ c ∈ fraction, c.isDigit = true)
    (hexponent : IsExponent exponent) :
    ∃ n, unsigned? negative (symbols (whole ++ pointed fraction ++ exponent)) = some (n, []) := by
  obtain ⟨value, hvalue⟩ := exists_fraction?_pointed hfraction hexponent.avoids
  obtain ⟨power, hpower⟩ := hexponent.exists_exponent?
  have hbehind : Avoids Char.isDigit (symbols (pointed fraction) ++ symbols exponent) := by
    refine avoids_append ?_ (hexponent.avoids.mono fun _ => lengthens_of_isDigit)
    cases fraction with
    | nil => exact .inl rfl
    | cons c ds => exact .inr ⟨'.', rfl, rfl⟩
  have hsplit : symbols (whole ++ pointed fraction ++ exponent) =
      symbols whole ++ (symbols (pointed fraction) ++ symbols exponent) := by
    simp [symbols]
  rw [hsplit]
  exact ⟨⟨negative, whole.map digitValue, value, power⟩, unsigned?_eq_some_iff.2 ⟨_, _, value, _,
    power, someDigits?_of_isWholePart hwhole _ hbehind, not_leadingZero hwhole, hvalue, hpower,
    rfl⟩⟩

/-- The magnitude of a decimal is a number in every layout. -/
theorem exists_magnitude_parts (l : Layout) {d : Decimal} (h : d.digits = 0 → d.exponent = 0) :
    ∃ whole fraction exponent, IsWholePart whole ∧ (∀ c ∈ fraction, c.isDigit = true) ∧
      IsExponent exponent ∧ l.magnitudeChars d = whole ++ pointed fraction ++ exponent := by
  have hcases : l.magnitudeChars d =
        d.positional ++ (if l.keepsPoint && 0 ≤ d.exponent then ['.', '0'] else []) ∨
      l.magnitudeChars d = d.scientific := ite_eq_or_eq _ _ _
  obtain heq | heq := hcases
  · -- only a decimal without a fraction is given a point
    obtain ⟨whole, fraction, hd⟩ := Decimal.exists_writtenAs h
    by_cases hpoint : (l.keepsPoint && 0 ≤ d.exponent) = true
    · rw [if_pos hpoint, hd.text] at heq
      rw [Bool.and_eq_true, decide_eq_true_eq] at hpoint
      have hplaces := hd.places
      obtain rfl : fraction = [] := List.length_eq_zero_iff.1 (by omega)
      have hzero : ∀ c ∈ ['0'], c.isDigit = true := List.forall_mem_singleton.2 (by decide)
      exact ⟨whole, ['0'], [], hd.isWholePart, hzero, .inl rfl, by simpa [pointed] using heq⟩
    · rw [if_neg hpoint, hd.text] at heq
      exact ⟨whole, fraction, [], hd.isWholePart, hd.isDigit, .inl rfl, heq⟩
  · -- the first digit alone is the whole part, also when it is a zero
    obtain ⟨c, ds, hexponent⟩ :=
      List.exists_cons_of_ne_nil (isWholePart_digitChars d.leading.natAbs).ne_nil
    have hdigits := (isWholePart_digitChars d.leading.natAbs).1
    rw [hexponent] at hdigits
    have hsign : ∃ sign, (sign = '-' ∨ sign = '+') ∧
        (if d.leading < 0 then '-' else '+') = sign := by
      by_cases hneg : d.leading < 0
      · exact ⟨'-', .inl rfl, if_pos hneg⟩
      · exact ⟨'+', .inr rfl, if_neg hneg⟩
    obtain ⟨sign, hsign, hwritten⟩ := hsign
    have hpower : IsExponent ('e' :: sign :: c :: ds) := .inr ⟨sign, c, ds, hsign, hdigits, rfl⟩
    unfold Decimal.scientific at heq
    dsimp only at heq
    rw [hexponent, hwritten] at heq
    have hmantissa := isWholePart_digitChars d.digits
    split at heq
    · rename_i first second rest hds
      rw [hds] at hmantissa
      refine ⟨[first], second :: rest, _, ⟨?_, ?_⟩, ?_, hpower, heq⟩
      · exact fun c hc => hmantissa.1 c (List.mem_cons.2 (.inl (List.mem_singleton.1 hc)))
      · by_cases hzero : first = '0'
        · exact .inl (by rw [hzero])
        · exact .inr ⟨first, [], rfl, hzero⟩
      · exact fun c hc => hmantissa.1 c (List.mem_cons_of_mem _ hc)
    · exact ⟨_, [], _, hmantissa, by simp, hpower, by simpa [pointed] using heq⟩

/-- Every finite number is printed as a number, in every layout. -/
theorem exists_numeral_chars {f : Format} (l : Layout) {x : Binary f} (hx : x.isFinite = true) :
    l.chars x ≠ [] ∧ ∃ n, Takes numeral? continues (symbols (l.chars x)) n := by
  obtain ⟨whole, fraction, exponent, hwhole, hfraction, hexponent, htext⟩ :=
    exists_magnitude_parts l (Binary.shortest_exponent_of_digits l.tie hx)
  obtain ⟨c, rest, hhead, hc⟩ : ∃ c rest,
      l.magnitudeChars (x.shortest l.tie) = c :: rest ∧ c.isDigit = true := by
    obtain ⟨c, rest, rfl⟩ := List.exists_cons_of_ne_nil hwhole.ne_nil
    exact ⟨c, rest ++ pointed fraction ++ exponent, htext, hwhole.1 c (List.mem_cons_self ..)⟩
  obtain ⟨n, hn⟩ := exists_unsigned?_parts x.negative hwhole hfraction hexponent
  rw [← htext] at hn
  have hchars : l.chars x = signChars x.negative ++ l.magnitudeChars (x.shortest l.tie) := by
    simp [Layout.chars, Binary.isNaN_eq_false_of_isFinite hx,
      Binary.isInfinite_eq_false_of_isFinite hx, signChars]
  have hnumeral : numeral? (symbols (l.chars x)) = some (n, []) := by
    rw [hchars]
    cases hneg : x.negative with
    | true =>
      rw [hneg] at hn
      exact hn
    | false =>
      rw [hneg, hhead] at hn
      rw [hhead]
      exact (numeral?_of_isDigit hc _).trans hn
  -- what is read to its end on its own is read so in front of other text
  obtain ⟨used, hsplit, htakes⟩ := exists_numeral? hnumeral
  rw [List.append_nil] at hsplit
  refine ⟨?_, n, hsplit ▸ htakes⟩
  rw [hchars, hhead]
  exact List.append_ne_nil_of_right_ne_nil _ (List.cons_ne_nil _ _)

end Tree

/-- If the text of a floating point number is read back on its own, so it is inside any text. -/
theorem exists_numeral_of_real {x : Real} (h : parse? (text (.real x)) = some (.real x)) :
    ∃ n : Numeral, n.value? = some (.real x) ∧
      Tree.Takes Tree.numeral? Tree.continues (Tree.symbols (chars (.real x))) n := by
  obtain ⟨tree, htree, hread⟩ := Option.bind_eq_some_iff.1 h
  rw [Tree.ofString?, text, String.toList_ofList] at htree
  obtain ⟨n, rfl, htakes⟩ := Tree.exists_numeral_of_parse?
    (fun c hc => Tree.isNumberChar_of_mem_chars x.finite hc) htree
  exact ⟨n, hread, htakes⟩

end VectorQuery.Json
