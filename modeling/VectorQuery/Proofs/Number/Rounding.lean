import Mathlib.Tactic.Ring
import VectorQuery.Number.Shortest

/-!
# What rounding leaves as it is

A quotient that is a magnitude of the format already is rounded to the pattern of that magnitude.
Two facts follow: the shortest decimal of a number reads back as the number, and a 32-bit number
that is widened to 64 bits and narrowed again is the number it was.
-/

namespace VectorQuery.Number

namespace Format

variable {f : Format}

theorem fractions_pos (f : Format) : 0 < f.fractions := Nat.two_pow_pos _

theorem unitsPerOne_pos (f : Format) : 0 < f.unitsPerOne := Nat.two_pow_pos _

theorem roundHalfEven_mul_self (q : Nat) {den : Nat} (h : 0 < den) :
    roundHalfEven (q * den) den = q := by
  simp only [roundHalfEven, Nat.mul_mod_left, Nat.mul_zero]
  rw [if_pos h, Nat.mul_div_cancel _ h]

theorem nearest_zero (f : Format) {den : Nat} (h : 0 < den) : f.nearest 0 den = 0 := by
  have hround := roundHalfEven_mul_self 0 h
  rw [Nat.zero_mul] at hround
  simp [nearest, hround]

/-- The units of a pattern whose exponent field is zero. -/
theorem units_of_lt {p : Nat} (h : p < f.fractions) : f.units p = p := by
  simp [units, Nat.div_eq_of_lt h, Nat.mod_eq_of_lt h]

/-- The units of a pattern whose exponent field is `k + 1`. -/
theorem units_of_exponent (k : Nat) {r : Nat} (h : r < f.fractions) :
    f.units ((k + 1) * f.fractions + r) = (f.fractions + r) * Nat.pow 2 k := by
  have hdiv : ((k + 1) * f.fractions + r) / f.fractions = k + 1 := by
    rw [Nat.mul_comm, Nat.mul_add_div f.fractions_pos, Nat.div_eq_of_lt h, Nat.add_zero]
  have hmod : ((k + 1) * f.fractions + r) % f.fractions = r := by
    rw [Nat.mul_comm, Nat.mul_add_mod, Nat.mod_eq_of_lt h]
  simp [units, hdiv, hmod]

/-- A pattern with a zero exponent field, or the exponent and the fraction of one without. -/
theorem pattern_cases (f : Format) (p : Nat) :
    p < f.fractions ∨ ∃ k r, r < f.fractions ∧ p = (k + 1) * f.fractions + r := by
  rcases Nat.lt_or_ge p f.fractions with h | h
  · exact Or.inl h
  · have hpos := f.fractions_pos
    have hdiv : 0 < p / f.fractions := Nat.div_pos h hpos
    refine Or.inr ⟨p / f.fractions - 1, p % f.fractions, Nat.mod_lt _ hpos, ?_⟩
    rw [Nat.sub_add_cancel hdiv, Nat.mul_comm]
    exact (Nat.div_add_mod _ _).symm

/-- How many low bits of a pattern's units do not fit is its exponent field less one. -/
theorem log2_units_sub (f : Format) (p : Nat) :
    (f.units p).log2 - f.fractionBits = p / f.fractions - 1 := by
  rcases pattern_cases f p with h | ⟨k, r, hr, rfl⟩
  · have hlog : p.log2 ≤ f.fractionBits := by
      rcases Nat.eq_zero_or_pos p with rfl | hp
      · simp
      · exact Nat.le_of_lt ((Nat.log2_lt (by omega)).2 h)
    rw [units_of_lt h, Nat.div_eq_of_lt h]
    omega
  · have hdiv : ((k + 1) * f.fractions + r) / f.fractions = k + 1 := by
      rw [Nat.mul_comm, Nat.mul_add_div f.fractions_pos, Nat.div_eq_of_lt hr, Nat.add_zero]
    have hlog : ((f.fractions + r) * Nat.pow 2 k).log2 = f.fractionBits + k := by
      have hpos : 0 < (f.fractions + r) * Nat.pow 2 k :=
        Nat.mul_pos (Nat.lt_of_lt_of_le f.fractions_pos (Nat.le_add_right _ _)) (Nat.two_pow_pos k)
      rw [Nat.log2_eq_iff (by omega)]
      have hF : f.fractions * Nat.pow 2 k = 2 ^ (f.fractionBits + k) := (Nat.pow_add 2 _ _).symm
      constructor
      · rw [← hF]
        exact Nat.mul_le_mul_right _ (Nat.le_add_right _ _)
      · have htwo : 2 ^ (f.fractionBits + k + 1) = (f.fractions + f.fractions) * Nat.pow 2 k := by
          rw [Nat.pow_succ, ← hF]
          ring
        rw [htwo]
        exact Nat.mul_lt_mul_of_pos_right (by omega) (Nat.two_pow_pos k)
    rw [units_of_exponent k hr, hdiv, hlog]
    omega

/-- A quotient that is the magnitude of a pattern is rounded to that pattern. -/
theorem nearest_of_eq_units {p num den : Nat} (hp : p ≤ f.infinity) (hden : 0 < den)
    (h : num * f.unitsPerOne = f.units p * den) : f.nearest num den = p := by
  -- the quotient is rounded to the unit of the pattern, so nothing of it is lost
  have hk : (num * f.unitsPerOne / den).log2 - f.fractionBits = p / f.fractions - 1 := by
    rw [h, Nat.mul_div_cancel _ hden, log2_units_sub]
  simp only [nearest, hk]
  rw [h]
  rcases pattern_cases f p with hlt | ⟨k, r, hr, rfl⟩
  · have hround := roundHalfEven_mul_self p hden
    rw [Nat.div_eq_of_lt hlt, units_of_lt hlt]
    simp [hround, Nat.min_eq_right hp]
  · have hdiv : ((k + 1) * f.fractions + r) / f.fractions = k + 1 := by
      rw [Nat.mul_comm, Nat.mul_add_div f.fractions_pos, Nat.div_eq_of_lt hr, Nat.add_zero]
    have hmul : (f.fractions + r) * Nat.pow 2 k * den =
        (f.fractions + r) * (den * Nat.pow 2 k) := by
      ring
    have hpos : 0 < den * Nat.pow 2 k := Nat.mul_pos hden (Nat.two_pow_pos k)
    rw [hdiv, units_of_exponent k hr, Nat.add_sub_cancel, hmul, roundHalfEven_mul_self _ hpos]
    have hsum : k * f.fractions + (f.fractions + r) = (k + 1) * f.fractions + r := by ring
    rw [hsum, Nat.min_eq_right hp]

/-- Every significand of at most one bit more than a fraction is the magnitude of a pattern, times
any power of two. -/
theorem exists_units_eq (f : Format) (j : Nat) :
    ∀ s, s < 2 * f.fractions →
      ∃ p, p < (j + 2) * f.fractions ∧ f.units p = s * Nat.pow 2 j := by
  induction j with
  | zero =>
    intro s hs
    rcases Nat.lt_or_ge s f.fractions with h | h
    · exact ⟨s, by omega, by simp [units_of_lt h]⟩
    · refine ⟨s, by omega, ?_⟩
      have hr : s - f.fractions < f.fractions := by omega
      have hsum : s = (0 + 1) * f.fractions + (s - f.fractions) := by omega
      rw [hsum, units_of_exponent 0 hr]
      simp
  | succ j ih =>
    intro s hs
    rcases Nat.lt_or_ge s f.fractions with h | h
    · -- doubling the significand takes one from the power of two
      obtain ⟨p, hp, hunits⟩ := ih (s * 2) (by omega)
      refine ⟨p, Nat.lt_of_lt_of_le hp (Nat.mul_le_mul_right _ (by omega)), ?_⟩
      rw [hunits, Nat.pow_eq, Nat.pow_eq, Nat.pow_succ]
      ring
    · have hr : s - f.fractions < f.fractions := by omega
      refine ⟨(j + 1 + 1) * f.fractions + (s - f.fractions), ?_, ?_⟩
      · have hsplit : (j + 1 + 2) * f.fractions = (j + 1 + 1) * f.fractions + f.fractions := by ring
        omega
      · rw [units_of_exponent (j + 1) hr, Nat.add_sub_cancel' h]

end Format

namespace Binary

variable {f : Format}

theorem ofRatio_eq_of_units {x : Binary f} {num den : Nat} (hx : x.isFinite = true)
    (hden : 0 < den) (h : num * f.unitsPerOne = x.units * den) :
    ofRatio x.negative num den = x := by
  have hp : (x.magnitude : Nat) ≤ f.infinity := Nat.le_of_lt (by simpa [isFinite] using hx)
  have hnear : f.nearest num den = x.magnitude := Format.nearest_of_eq_units hp hden h
  simp only [ofRatio, ofPattern, hnear, Nat.mod_eq_of_lt x.magnitude.isLt]

theorem isNaN_eq_false_of_isFinite {x : Binary f} (h : x.isFinite = true) : x.isNaN = false := by
  simp only [isFinite, isNaN, decide_eq_true_eq, decide_eq_false_iff_not] at *
  omega

theorem isInfinite_eq_false_of_isFinite {x : Binary f} (h : x.isFinite = true) :
    x.isInfinite = false := by
  simp only [isFinite, isInfinite, decide_eq_true_eq, decide_eq_false_iff_not] at *
  omega

/-! ## The shortest decimal -/

theorem Decimal.den_pos (d : Decimal) : 0 < d.den := Nat.pow_pos (by decide)

/-- Of two candidates the first that reads back is taken, so what is taken reads back. -/
theorem readsBack_of_candidates {x : Binary f} {near far d : Decimal}
    (h : (if x.readsBack near then some near else if x.readsBack far then some far else none)
      = some d) : x.readsBack d = true := by
  split at h
  · next hnear => rw [← Option.some.inj h]; exact hnear
  · split at h
    · next hfar => rw [← Option.some.inj h]; exact hfar
    · exact absurd h (by simp)

theorem readsBack_of_onGrid? {tie : Tie} {x : Binary f} {exponent : Int} {d : Decimal}
    (h : x.onGrid? tie exponent = some d) : x.readsBack d = true := by
  unfold onGrid? at h
  simp only at h
  split at h
  · exact readsBack_of_candidates h
  · exact readsBack_of_candidates h

theorem readsBack_of_searchGrids {tie : Tie} {x : Binary f} (steps : Nat) :
    ∀ exponent d, x.searchGrids tie steps exponent = some d → x.readsBack d = true := by
  induction steps with
  | zero => intro exponent d h; exact absurd h (by simp [searchGrids])
  | succ steps ih =>
    intro exponent d h
    rw [searchGrids, Option.or_eq_some_iff] at h
    rcases h with h | ⟨-, h⟩
    · exact readsBack_of_onGrid? h
    · exact ih _ d h

/-- The exact expansion reads back, since it is the number itself. -/
theorem readsBack_exact {x : Binary f} (hx : x.isFinite = true) : x.readsBack x.exact = true := by
  have hplaces : f.unitsPerOne.log2 = Nat.pow 2 (f.exponentBits - 1) + f.fractionBits - 2 :=
    Nat.log2_two_pow
  have hp : (x.magnitude : Nat) ≤ f.infinity := Nat.le_of_lt (by simpa [isFinite] using hx)
  have hunits : x.exact.num * f.unitsPerOne = f.units x.magnitude * x.exact.den := by
    have hexp : (-(f.unitsPerOne.log2 : Int)).toNat = 0 := by omega
    simp only [exact, Decimal.num, Decimal.den, hexp, Int.neg_neg, Int.toNat_natCast, units]
    rw [hplaces]
    have hten (n : Nat) : Nat.pow 10 n = Nat.pow 5 n * Nat.pow 2 n := Nat.mul_pow 5 2 n
    simp only [hten, Format.unitsPerOne, Nat.pow_eq, Nat.pow_zero, Nat.mul_one]
    ring
  simp only [readsBack, decide_eq_true_eq]
  exact Format.nearest_of_eq_units hp (Decimal.den_pos _) hunits

/-- The shortest decimal of a finite number reads back as its magnitude. -/
theorem readsBack_shortest (tie : Tie) {x : Binary f} (hx : x.isFinite = true) :
    x.readsBack (x.shortest tie) = true := by
  unfold shortest
  split
  · next hzero =>
    have hmag : (x.magnitude : Nat) = 0 := by simpa [isZero] using hzero
    simp only [readsBack, Decimal.num, Nat.zero_mul, decide_eq_true_eq]
    rw [Format.nearest_zero f (Decimal.den_pos _), hmag]
  · cases h : x.searchGrids tie 22 x.decimalBound with
    | none => exact readsBack_exact hx
    | some d => exact readsBack_of_searchGrids 22 _ d h

/-- The shortest decimal of a number that is not zero has a digit other than zero. -/
theorem shortest_digits_ne_zero (tie : Tie) {x : Binary f} (hx : x.isFinite = true)
    (hzero : x.isZero = false) : (x.shortest tie).digits ≠ 0 := by
  intro hdigits
  have hback := readsBack_shortest tie hx
  simp only [readsBack, Decimal.num, hdigits, Nat.zero_mul, decide_eq_true_eq] at hback
  rw [Format.nearest_zero f (Decimal.den_pos _)] at hback
  simp [isZero, ← hback] at hzero

/-! ## Widening and narrowing -/

/-- A format with larger exponents counts a whole number of its least units in one of the other. -/
theorem exists_unitsPerOne_eq_mul {f g : Format} {n : Nat}
    (h : Nat.pow 2 (g.exponentBits - 1) + g.fractionBits - 2 =
      Nat.pow 2 (f.exponentBits - 1) + f.fractionBits - 2 + n) :
    ∃ c, g.unitsPerOne = f.unitsPerOne * c ∧ ∀ j, Nat.pow 2 (j + n) = Nat.pow 2 j * c := by
  refine ⟨Nat.pow 2 n, ?_, fun j => Nat.pow_add 2 j n⟩
  rw [Format.unitsPerOne, h]
  exact Nat.pow_add 2 _ n

/-- A finite 32-bit magnitude is a short significand times a power of two. -/
theorem exists_significand {x : Single} (hx : x.isFinite = true) :
    ∃ s j, s < 2 * Format.single.fractions ∧ j ≤ 253 ∧ x.units = s * Nat.pow 2 j := by
  have hmag : (x.magnitude : Nat) < Format.single.infinity := by simpa [isFinite] using hx
  rcases Format.pattern_cases .single x.magnitude with h | ⟨k, r, hr, hmk⟩
  · exact ⟨x.magnitude, 0, by omega, by omega, by simp [units, Format.units_of_lt h]⟩
  · refine ⟨Format.single.fractions + r, k, by omega, ?_, ?_⟩
    · rw [hmk] at hmag
      have hinf : Format.single.infinity = 255 * Format.single.fractions := rfl
      have hlt : k + 1 < 255 := by
        refine Nat.lt_of_mul_lt_mul_right (a := Format.single.fractions) ?_
        omega
      omega
    · rw [units, hmk, Format.units_of_exponent k hr]

/-- The 64-bit number that a finite 32-bit number is widened to has the same value. -/
theorem toDouble_spec {x : Single} (hx : x.isFinite = true) :
    x.toDouble.isFinite = true ∧ x.toDouble.negative = x.negative ∧
      x.toDouble.units * Format.single.unitsPerOne = x.units * Format.double.unitsPerOne := by
  obtain ⟨s, j, hs, hj, hunits⟩ := exists_significand hx
  obtain ⟨c, hwide, hpow⟩ :=
    exists_unitsPerOne_eq_mul (f := .single) (g := .double) (n := 925) (by decide)
  obtain ⟨p, hp, hpunits⟩ := Format.exists_units_eq .double (j + 925) s
    (Nat.lt_of_lt_of_le hs (by decide))
  have hinf : p < Format.double.infinity := by
    refine Nat.lt_of_lt_of_le hp ?_
    exact Nat.le_trans (Nat.mul_le_mul_right _ (by omega : j + 925 + 2 ≤ 1180)) (by decide)
  have hvalue : Format.double.units p * Format.single.unitsPerOne =
      x.units * Format.double.unitsPerOne := by
    rw [hpunits, hunits, hpow, hwide]
    ring
  have hnear : Format.double.nearest x.units Format.single.unitsPerOne = p :=
    Format.nearest_of_eq_units (Nat.le_of_lt hinf) (Format.unitsPerOne_pos _) hvalue.symm
  have hpat : p % Format.double.patterns = p :=
    Nat.mod_eq_of_lt (Nat.lt_trans hinf (by decide))
  have hconv : x.toDouble = ofPattern x.negative p := by
    simp [toDouble, convert, isNaN_eq_false_of_isFinite hx, isInfinite_eq_false_of_isFinite hx,
      ofRatio, hnear]
  rw [hconv]
  refine ⟨?_, rfl, ?_⟩
  · simpa [isFinite, ofPattern, hpat] using hinf
  · simpa [units, ofPattern, hpat] using hvalue

/-- Widening loses nothing: narrowing gives the number back. -/
theorem toSingle_toDouble {x : Single} (hx : x.isFinite = true) : x.toDouble.toSingle = x := by
  obtain ⟨hfin, hneg, hunits⟩ := toDouble_spec hx
  have hconv : x.toDouble.toSingle =
      ofRatio x.negative x.toDouble.units Format.double.unitsPerOne := by
    simp [toSingle, convert, isNaN_eq_false_of_isFinite hfin, isInfinite_eq_false_of_isFinite hfin,
      hneg]
  rw [hconv]
  exact ofRatio_eq_of_units hx (Format.unitsPerOne_pos _) hunits

end Binary

end VectorQuery.Number
