import Mathlib.Algebra.Group.Nat.Defs
import VectorQuery.Uuid

/-!
# Reading ids back

The text of an id is read as the id: its 32 digits stand for the number, and the hyphens between
their groups are where a reader looks for them.
-/

namespace VectorQuery.Uuid

open Text

/-! ## Digits -/

theorem length_digits (count n : Nat) : (digits count n).length = count := by
  induction count generalizing n with
  | zero => rfl
  | succ count ih => rw [digits, List.length_append, ih, List.length_singleton]

theorem ne_hyphen_of_mem_digits {count n : Nat} {c : Char} (h : c ∈ digits count n) : c ≠ '-' := by
  induction count generalizing n with
  | zero => cases h
  | succ count ih =>
    rw [digits] at h
    rcases List.mem_append.1 h with h | h
    · exact ih h
    · rw [List.mem_singleton.1 h]
      exact hexDigit_ne (Nat.mod_lt n (by decide)) (by decide)

/-- The digits of a number stand for what is left of it in so many places. -/
theorem valueOf?_digits (count n : Nat) : valueOf? (digits count n) = some (n % 16 ^ count) := by
  induction count generalizing n with
  | zero => rw [digits, Nat.pow_zero, Nat.mod_one]; rfl
  | succ count ih =>
    have hlast := hexValue?_hexDigit (Nat.mod_lt n (show 16 > 0 by decide))
    have hfront := ih (n / 16)
    rw [valueOf?] at hfront
    rw [valueOf?, digits, List.foldlM_append, hfront]
    have hsplit : n % 16 ^ (count + 1) = n / 16 % 16 ^ count * 16 + n % 16 := by
      rw [Nat.pow_succ, Nat.mul_comm (16 ^ count) 16, Nat.mod_mul, Nat.mul_comm, Nat.add_comm]
    simp [hlast, hsplit]

/-! ## Groups -/

section Groups
variable {ds : List Char}

theorem length_hyphenated (h : ds.length = 32) : (hyphenated ds).length = 36 := by
  simp [hyphenated, h]

theorem filter_hyphenated (h : ∀ c ∈ ds, c ≠ '-') : (hyphenated ds).filter (· ≠ '-') = ds := by
  have hkeep : ∀ group : List Char, (∀ c ∈ group, c ∈ ds) → group.filter (· ≠ '-') = group := by
    intro group hgroup
    exact List.filter_eq_self.2 fun c hc => by simpa using h c (hgroup c hc)
  have hdrop : ∀ n, ∀ c ∈ ds.drop n, c ∈ ds := fun _ _ => List.mem_of_mem_drop
  have htake : ∀ n m, ∀ c ∈ (ds.drop n).take m, c ∈ ds :=
    fun n _ c hc => hdrop n c (List.mem_of_mem_take hc)
  have hjoin : ∀ n, (ds.drop n).take 4 ++ ds.drop (n + 4) = ds.drop n := by
    intro n
    rw [← List.drop_drop, List.take_append_drop]
  have hhyphen : ∀ rest : List Char, ('-' :: rest).filter (· ≠ '-') = rest.filter (· ≠ '-') :=
    fun _ => rfl
  rw [hyphenated]
  simp only [List.append_assoc, List.cons_append, List.filter_append, hhyphen]
  rw [hkeep _ (fun _ => List.mem_of_mem_take), hkeep _ (htake 8 4), hkeep _ (htake 12 4),
    hkeep _ (htake 16 4), hkeep _ (hdrop 20), hjoin 16, hjoin 12, hjoin 8, List.take_append_drop]

theorem ungrouped?_hyphenated (hlength : ds.length = 32) (h : ∀ c ∈ ds, c ≠ '-') :
    ungrouped? (hyphenated ds) = some ds := by
  simp only [ungrouped?, filter_hyphenated h]
  rw [if_pos ⟨hlength, trivial⟩]

/-- The ninth character is a hyphen, which no prefix has there. -/
theorem unwrapped_hyphenated (hlength : ds.length = 32) :
    unwrapped (hyphenated ds) = hyphenated ds := by
  have hninth : (hyphenated ds)[8]? = some '-' := by
    simp [hyphenated, hlength]
  have hstart : ((hyphenated ds).take 9).map Char.toLower ≠ "urn:uuid:".toList := by
    intro heq
    have hchar := congrArg (·[8]?) heq
    simp [hninth] at hchar
  rw [unwrapped, if_neg (by simp [length_hyphenated hlength]), if_neg hstart]

end Groups

theorem ofString?_text (id : Uuid) : ofString? id.text = some id := by
  have hlength := length_digits 32 id.bits.toNat
  have hgroups := ungrouped?_hyphenated hlength fun _ => ne_hyphen_of_mem_digits
  have hbound : id.bits.toNat < 16 ^ 32 := Nat.lt_of_lt_of_eq id.bits.isLt (by decide)
  have hvalue : valueOf? (digits 32 id.bits.toNat) = some id.bits.toNat := by
    rw [valueOf?_digits, Nat.mod_eq_of_lt hbound]
  have hmany : (hyphenated (digits 32 id.bits.toNat)).length ≠ 32 := by
    rw [length_hyphenated hlength]
    decide
  rw [ofString?, text, String.toList_ofList, chars, ofChars?, if_neg hmany,
    unwrapped_hyphenated hlength, hgroups, Option.bind_some, hvalue, Option.map_some, ofNat,
    BitVec.ofNat_toNat]
  rfl

end VectorQuery.Uuid
