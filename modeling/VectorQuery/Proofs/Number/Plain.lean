import Mathlib.Tactic.IntervalCases
import Mathlib.Tactic.Ring
import VectorQuery.Number.Layout
import VectorQuery.Proofs.Number.Rounding

/-!
# Numbers in query documents

The plain text of a number is a sign, a whole part without leading zeros and perhaps a point with a
fraction, or `inf`. Two numbers that are not NaN and have the same plain text are the same number:
the text fixes the value of the shortest decimal, and the shortest decimal reads back.
-/

namespace VectorQuery.Number

/-- The digits of a whole number without leading zeros. -/
def IsWholePart (ds : List Char) : Prop :=
  (∀ c ∈ ds, c.isDigit = true) ∧ (ds = ['0'] ∨ ∃ c rest, ds = c :: rest ∧ c ≠ '0')

/-- A fraction behind its point; nothing when there is no fraction. -/
def pointed (fraction : List Char) : List Char := if fraction = [] then [] else '.' :: fraction

/-- A number without sign and exponent. -/
def IsUnsigned (cs : List Char) : Prop :=
  ∃ whole fraction, IsWholePart whole ∧ (∀ c ∈ fraction, c.isDigit = true) ∧
    cs = whole ++ pointed fraction

theorem IsWholePart.ne_nil {ds : List Char} (h : IsWholePart ds) : ds ≠ [] := by
  rcases h.2 with rfl | ⟨c, rest, rfl, -⟩
  · simp
  · simp

/-- A number without sign begins with a digit. -/
theorem IsUnsigned.head {cs : List Char} (h : IsUnsigned cs) :
    ∃ c rest, cs = c :: rest ∧ c.isDigit = true := by
  obtain ⟨whole, fraction, hwhole, -, rfl⟩ := h
  cases whole with
  | nil => exact absurd rfl hwhole.ne_nil
  | cons c rest => exact ⟨c, rest ++ pointed fraction, rfl, hwhole.1 c (by simp)⟩

/-- Where the whole part ends can be seen in the text. -/
theorem pointed_split {w w' u u' : List Char} (hw : ∀ c ∈ w, c.isDigit = true)
    (hw' : ∀ c ∈ w', c.isDigit = true) (h : w ++ pointed u = w' ++ pointed u') :
    w = w' ∧ u = u' := by
  have htake : ∀ v : List Char, (pointed v).takeWhile Char.isDigit = [] := by
    intro v
    unfold pointed
    split
    · rfl
    · exact List.takeWhile_cons_of_neg (by decide)
  have hww : w = w' := by
    have hcong := congrArg (List.takeWhile Char.isDigit) h
    rw [List.takeWhile_append_of_pos hw, List.takeWhile_append_of_pos hw', htake, htake] at hcong
    simpa using hcong
  subst hww
  refine ⟨rfl, ?_⟩
  have hp := List.append_cancel_left h
  unfold pointed at hp
  split at hp <;> split at hp
  · simp_all
  · exact absurd hp (by simp)
  · exact absurd hp (by simp)
  · exact (List.cons.inj hp).2

/-! ## Whole numbers -/

theorem isDigit_of_mem_digitChars {n : Nat} {c : Char} (h : c ∈ digitChars n) :
    c.isDigit = true :=
  Nat.isDigit_of_mem_toDigits (by decide) (by decide) h

theorem digitChars_injective {m n : Nat} (h : digitChars m = digitChars n) : m = n := by
  have hm := Nat.ofDigitChars_ten_toDigits (n := m)
  have hn := Nat.ofDigitChars_ten_toDigits (n := n)
  simp only [digitChars] at h
  rw [← hm, ← hn, h]

/-- The first digit of a number that is not zero is not zero. -/
theorem digitChars_head {n : Nat} (hn : n ≠ 0) : ∃ c rest, digitChars n = c :: rest ∧ c ≠ '0' := by
  induction n using Nat.strongRecOn with
  | ind n ih =>
    rcases Nat.lt_or_ge n 10 with hlt | hge
    · refine ⟨n.digitChar, [], Nat.toDigits_of_lt_base hlt, ?_⟩
      intro hzero
      interval_cases n <;> simp_all [Nat.digitChar]
    · obtain ⟨c, rest, hc, hne⟩ := ih (n / 10) (by omega) (by omega)
      refine ⟨c, rest ++ [(n % 10).digitChar], ?_, hne⟩
      simp only [digitChars] at hc ⊢
      rw [Nat.toDigits_of_base_le (by decide) hge, hc, List.cons_append]

theorem isWholePart_digitChars (n : Nat) : IsWholePart (digitChars n) := by
  refine ⟨fun c hc => isDigit_of_mem_digitChars hc, ?_⟩
  rcases Nat.eq_zero_or_pos n with rfl | hn
  · exact Or.inl (Nat.toDigits_zero 10)
  · exact Or.inr (digitChars_head (by omega))

theorem isUnsigned_digitChars (n : Nat) : IsUnsigned (digitChars n) :=
  ⟨digitChars n, [], isWholePart_digitChars n, by simp, by simp [pointed]⟩

/-! ## Decimals written out -/

namespace Decimal

theorem isWholePart_append_zeros {ds : List Char} (n : Nat) (h : IsWholePart ds)
    (hzero : ds = ['0'] → n = 0) : IsWholePart (ds ++ List.replicate n '0') := by
  refine ⟨?_, ?_⟩
  · intro c hc
    rcases List.mem_append.1 hc with hc | hc
    · exact h.1 c hc
    · rw [(List.mem_replicate.1 hc).2]
      decide
  · rcases h.2 with rfl | ⟨c, rest, rfl, hne⟩
    · exact Or.inl (by rw [hzero rfl]; rfl)
    · exact Or.inr ⟨c, rest ++ List.replicate n '0', rfl, hne⟩

/-- A decimal that is written out, by its parts before and behind the point. -/
structure WrittenAs (d : Decimal) (whole fraction : List Char) : Prop where
  isWholePart : IsWholePart whole
  isDigit : ∀ c ∈ fraction, c.isDigit = true
  /-- The places behind the point are those of the exponent. -/
  places : fraction.length = (-d.exponent).toNat
  /-- The digits together are the number that is counted. -/
  number : Nat.ofDigitChars 10 (whole ++ fraction) 0 = d.num
  text : d.positional = whole ++ pointed fraction

theorem ofDigitChars_digitChars (n : Nat) : Nat.ofDigitChars 10 (digitChars n) 0 = n :=
  Nat.ofDigitChars_ten_toDigits

/-- Without places there is no point, and zeros fill up what the exponent counts. -/
theorem writtenAs_whole {d : Decimal} (h : d.digits = 0 → d.exponent = 0)
    (hplaces : (-d.exponent).toNat = 0) :
    WrittenAs d (digitChars d.digits ++ List.replicate d.exponent.toNat '0') [] where
  isWholePart := by
    refine isWholePart_append_zeros _ (isWholePart_digitChars _) fun hds => ?_
    have hzero : d.digits = 0 := digitChars_injective (hds.trans (Nat.toDigits_zero 10).symm)
    rw [h hzero]
    rfl
  isDigit := by simp
  places := by simp [hplaces]
  number := by
    rw [List.append_nil, Nat.ofDigitChars_append, ofDigitChars_digitChars,
      Nat.ofDigitChars_replicate_zero, Nat.mul_comm]
    rfl
  text := by simp [positional, hplaces, pointed]

theorem num_of_places {d : Decimal} (hplaces : 0 < (-d.exponent).toNat) : d.num = d.digits := by
  have hexponent : d.exponent.toNat = 0 := by omega
  simp [num, hexponent]

/-- With fewer places than digits the point stands inside of the digits. -/
theorem writtenAs_inside {d : Decimal} (hdigits : d.digits ≠ 0)
    (hplaces : 0 < (-d.exponent).toNat) {k : Nat}
    (hk : (digitChars d.digits).length = (-d.exponent).toNat + (k + 1)) :
    WrittenAs d ((digitChars d.digits).take (k + 1)) ((digitChars d.digits).drop (k + 1)) := by
  obtain ⟨c, rest, hc, hc0⟩ := digitChars_head hdigits
  have hdrop : ((digitChars d.digits).drop (k + 1)).length = (-d.exponent).toNat := by
    rw [List.length_drop]
    omega
  have hnil : (digitChars d.digits).drop (k + 1) ≠ [] := by
    intro hnil
    rw [hnil] at hdrop
    simp only [List.length_nil] at hdrop
    omega
  refine ⟨⟨?_, ?_⟩, ?_, hdrop, ?_, ?_⟩
  · exact fun c hc => isDigit_of_mem_digitChars (List.mem_of_mem_take hc)
  · exact Or.inr ⟨c, rest.take k, by rw [hc]; rfl, hc0⟩
  · exact fun c hc => isDigit_of_mem_digitChars (List.mem_of_mem_drop hc)
  · rw [List.take_append_drop, ofDigitChars_digitChars, num_of_places hplaces]
  · have hpad : (-d.exponent).toNat + 1 - (digitChars d.digits).length = 0 := by omega
    have hwhole : (digitChars d.digits).length - (-d.exponent).toNat = k + 1 := by omega
    rw [pointed, if_neg hnil]
    simp [positional, Nat.pos_iff_ne_zero.1 hplaces, hpad, hwhole]

/-- With more places than digits zeros stand between the point and the digits. -/
theorem writtenAs_padded {d : Decimal} (hdigits : d.digits ≠ 0)
    (hplaces : 0 < (-d.exponent).toNat) {k : Nat}
    (hk : (-d.exponent).toNat = (digitChars d.digits).length + k) :
    WrittenAs d ['0'] (List.replicate k '0' ++ digitChars d.digits) := by
  obtain ⟨c, rest, hc, -⟩ := digitChars_head hdigits
  have hnil : List.replicate k '0' ++ digitChars d.digits ≠ [] := by simp [hc]
  refine ⟨⟨by simp, Or.inl rfl⟩, ?_, by simp [hk, Nat.add_comm], ?_, ?_⟩
  · intro c hc
    rcases List.mem_append.1 hc with hc | hc
    · rw [(List.mem_replicate.1 hc).2]
      decide
    · exact isDigit_of_mem_digitChars hc
  · have hcons : ['0'] ++ (List.replicate k '0' ++ digitChars d.digits) =
        List.replicate (k + 1) '0' ++ digitChars d.digits := rfl
    rw [hcons, Nat.ofDigitChars_append, Nat.ofDigitChars_replicate_zero, Nat.mul_zero,
      ofDigitChars_digitChars, num_of_places hplaces]
  · have hpad : (-d.exponent).toNat + 1 - (digitChars d.digits).length = k + 1 := by omega
    have hwhole : k + (digitChars d.digits).length + 1 - (-d.exponent).toNat = 1 := by omega
    rw [pointed, if_neg hnil]
    simp [positional, Nat.pos_iff_ne_zero.1 hplaces, hpad, hwhole, List.replicate_succ]

theorem exists_writtenAs {d : Decimal} (h : d.digits = 0 → d.exponent = 0) :
    ∃ whole fraction, WrittenAs d whole fraction := by
  rcases Nat.eq_zero_or_pos (-d.exponent).toNat with hplaces | hplaces
  · exact ⟨_, _, writtenAs_whole h hplaces⟩
  · have hdigits : d.digits ≠ 0 := by
      intro hzero
      rw [h hzero] at hplaces
      exact absurd hplaces (by decide)
    rcases Nat.lt_or_ge (-d.exponent).toNat (digitChars d.digits).length with hlength | hlength
    · obtain ⟨k, hk⟩ := Nat.exists_eq_add_of_lt hlength
      exact ⟨_, _, writtenAs_inside hdigits hplaces hk⟩
    · obtain ⟨k, hk⟩ := Nat.exists_eq_add_of_le hlength
      exact ⟨_, _, writtenAs_padded hdigits hplaces hk⟩

theorem isUnsigned_positional {d : Decimal} (h : d.digits = 0 → d.exponent = 0) :
    IsUnsigned d.positional := by
  obtain ⟨whole, fraction, hd⟩ := exists_writtenAs h
  exact ⟨whole, fraction, hd.isWholePart, hd.isDigit, hd.text⟩

/-- Decimals that are written out alike have the same value. -/
theorem eq_of_positional_eq {d e : Decimal} (hd : d.digits = 0 → d.exponent = 0)
    (he : e.digits = 0 → e.exponent = 0) (h : d.positional = e.positional) :
    d.num = e.num ∧ d.den = e.den := by
  obtain ⟨whole, fraction, hd⟩ := exists_writtenAs hd
  obtain ⟨whole', fraction', he⟩ := exists_writtenAs he
  obtain ⟨rfl, rfl⟩ := pointed_split hd.isWholePart.1 he.isWholePart.1
    (by rw [← hd.text, ← he.text, h])
  refine ⟨by rw [← hd.number, ← he.number], ?_⟩
  rw [den, den, ← hd.places, ← he.places]

end Decimal

/-! ## Floating point numbers -/

namespace Binary

variable {f : Format}

theorem shortest_exponent_of_digits (tie : Tie) {x : Binary f} (hx : x.isFinite = true)
    (hdigits : (x.shortest tie).digits = 0) : (x.shortest tie).exponent = 0 := by
  cases hzero : x.isZero with
  | true => simp [shortest, hzero]
  | false => exact absurd hdigits (shortest_digits_ne_zero tie hx hzero)

end Binary

/-- The sign of a number in front of its magnitude. -/
def signChars (negative : Bool) : List Char := if negative then ['-'] else []

theorem signChars_append_inj {a b : Bool} {u v : List Char} (hu : u.head? ≠ some '-')
    (hv : v.head? ≠ some '-') (h : signChars a ++ u = signChars b ++ v) : a = b ∧ u = v := by
  cases a <;> cases b <;> simp_all [signChars]
  rw [← h] at hv
  exact hv rfl

namespace Layout

variable {f : Format}

theorem plain_chars_of_isFinite {x : Binary f} (hx : x.isFinite = true) :
    plain.chars x = signChars x.negative ++ (x.shortest .away).positional := by
  simp [chars, Binary.isNaN_eq_false_of_isFinite hx, Binary.isInfinite_eq_false_of_isFinite hx,
    magnitudeChars, plain, signChars]

theorem plain_chars_of_isInfinite {x : Binary f} (hx : x.isInfinite = true) :
    plain.chars x = signChars x.negative ++ ['i', 'n', 'f'] := by
  have hnan : x.isNaN = false := by
    simp only [Binary.isInfinite, Binary.isNaN, decide_eq_true_eq, decide_eq_false_iff_not] at *
    omega
  simp only [chars, hnan, hx, plain, signChars, if_true]
  rfl

/-- A number that is not NaN is finite or infinite. -/
theorem isFinite_or_isInfinite {x : Binary f} (hx : x.isNaN = false) :
    x.isFinite = true ∨ x.isInfinite = true := by
  simp only [Binary.isFinite, Binary.isInfinite, Binary.isNaN, decide_eq_true_eq,
    decide_eq_false_iff_not] at *
  omega

theorem isUnsigned_of_isFinite {x : Binary f} (hx : x.isFinite = true) :
    IsUnsigned (x.shortest .away).positional :=
  Decimal.isUnsigned_positional (Binary.shortest_exponent_of_digits .away hx)

theorem IsUnsigned.head?_ne_of_not_isDigit {cs : List Char} (h : IsUnsigned cs) {c : Char}
    (hc : c.isDigit = false) : cs.head? ≠ some c := by
  obtain ⟨d, rest, rfl, hd⟩ := h.head
  intro heq
  rw [Option.some.inj heq, hc] at hd
  exact absurd hd (by simp)

theorem eq_of_magnitude_eq {x y : Binary f} (hneg : x.negative = y.negative)
    (hmag : (x.magnitude : Nat) = y.magnitude) : x = y := by
  obtain ⟨a, m⟩ := x
  obtain ⟨b, n⟩ := y
  simp only at hneg hmag
  rw [hneg, Fin.ext hmag]

theorem plain_chars_ne {x y : Binary f} (hx : x.isFinite = true) (hy : y.isInfinite = true) :
    plain.chars x ≠ plain.chars y := by
  intro h
  have hu := isUnsigned_of_isFinite hx
  rw [plain_chars_of_isFinite hx, plain_chars_of_isInfinite hy] at h
  have hmagnitude := (signChars_append_inj
    (IsUnsigned.head?_ne_of_not_isDigit hu (by decide)) (by decide) h).2
  rw [hmagnitude] at hu
  exact IsUnsigned.head?_ne_of_not_isDigit hu (c := 'i') (by decide) rfl

/-- Plain text tells numbers apart. -/
theorem plain_chars_injective {x y : Binary f} (hx : x.isNaN = false) (hy : y.isNaN = false)
    (h : plain.chars x = plain.chars y) : x = y := by
  rcases isFinite_or_isInfinite hx with hx | hx <;> rcases isFinite_or_isInfinite hy with hy | hy
  · have hxu := isUnsigned_of_isFinite hx
    have hyu := isUnsigned_of_isFinite hy
    rw [plain_chars_of_isFinite hx, plain_chars_of_isFinite hy] at h
    obtain ⟨hneg, hpos⟩ := signChars_append_inj (IsUnsigned.head?_ne_of_not_isDigit hxu (by decide))
      (IsUnsigned.head?_ne_of_not_isDigit hyu (by decide)) h
    obtain ⟨hnum, hden⟩ := Decimal.eq_of_positional_eq
      (Binary.shortest_exponent_of_digits .away hx)
      (Binary.shortest_exponent_of_digits .away hy) hpos
    have hxback := Binary.readsBack_shortest .away hx
    have hyback := Binary.readsBack_shortest .away hy
    simp only [Binary.readsBack, decide_eq_true_eq] at hxback hyback
    exact eq_of_magnitude_eq hneg (by rw [← hxback, ← hyback, hnum, hden])
  · exact absurd h (plain_chars_ne hx hy)
  · exact absurd h.symm (plain_chars_ne hy hx)
  · have hinf : ['i', 'n', 'f'].head? ≠ some '-' := by decide
    rw [plain_chars_of_isInfinite hx, plain_chars_of_isInfinite hy] at h
    have hneg := (signChars_append_inj hinf hinf h).1
    simp only [Binary.isInfinite, decide_eq_true_eq] at hx hy
    exact eq_of_magnitude_eq hneg (by rw [hx, hy])

end Layout

/-! ## Whole numbers with a sign -/

theorem intChars_eq (n : Int) : intChars n = signChars (decide (n < 0)) ++ digitChars n.natAbs := by
  by_cases h : n < 0 <;> simp [intChars, signChars, h]

theorem intChars_injective {m n : Int} (h : intChars m = intChars n) : m = n := by
  rw [intChars_eq, intChars_eq] at h
  obtain ⟨hsign, hdigits⟩ := signChars_append_inj
    (Layout.IsUnsigned.head?_ne_of_not_isDigit (isUnsigned_digitChars _) (by decide))
    (Layout.IsUnsigned.head?_ne_of_not_isDigit (isUnsigned_digitChars _) (by decide)) h
  have habs := digitChars_injective hdigits
  simp only [decide_eq_decide] at hsign
  omega

end VectorQuery.Number
