import VectorQuery.Json.Reader
import VectorQuery.Text.Quoted

/-!
# What a quoted character stands for

A character in quotes is written by a short escape, by its code, or as itself, and each of these is
read as one unit. The units of a text in quotes stand for the text.
-/

namespace VectorQuery.Text

theorem codeUnit?_hexDigit {n : Nat} (h : n < 0x20) :
    Json.Tree.codeUnit? '0' '0' (hexDigit (n / 16)) (hexDigit (n % 16)) = some n := by
  revert n
  decide

/-- A character in quotes is written by a short escape, by its code, or as itself. -/
theorem escape_cases (c : Char) :
    (∃ e, escape c = ['\\', e] ∧ e ≠ 'u' ∧ Json.Tree.shortEscape? e = some c) ∨
    (escape c = ['\\', 'u', '0', '0', hexDigit (c.toNat / 16), hexDigit (c.toNat % 16)] ∧
      c.toNat < 0x20) ∨
    (escape c = [c] ∧ c ≠ '"' ∧ c ≠ '\\' ∧ ¬c.toNat < 0x20) := by
  unfold escape
  split
  · exact Or.inl ⟨_, rfl, by decide, rfl⟩
  · exact Or.inl ⟨_, rfl, by decide, rfl⟩
  · exact Or.inl ⟨_, rfl, by decide, rfl⟩
  · exact Or.inl ⟨_, rfl, by decide, rfl⟩
  · exact Or.inl ⟨_, rfl, by decide, rfl⟩
  · exact Or.inl ⟨_, rfl, by decide, rfl⟩
  · exact Or.inl ⟨_, rfl, by decide, rfl⟩
  · rename_i hquote hbackslash _ _ _ _ _
    refine Or.inr ?_
    split
    · rename_i hcontrol
      exact Or.inl ⟨rfl, hcontrol⟩
    · rename_i hcontrol
      exact Or.inr ⟨rfl, hquote, hbackslash, hcontrol⟩

/-- The unit that a character in quotes is read as. -/
def unitOf (c : Char) : Json.StringUnit :=
  if (escape c).length = 6 then .codeUnit c.toNat else .symbol (.char c)

theorem stringChars?_codeUnit {n : Nat} (h : n < 0xD800) (units : List Json.StringUnit) :
    Json.stringChars? (.codeUnit n :: units) =
      (Json.stringChars? units).map (Char.ofNat n :: ·) := by
  have hhigh : ¬(0xD800 ≤ n ∧ n < 0xDC00) := by omega
  have hlow : ¬(0xDC00 ≤ n ∧ n < 0xE000) := by omega
  have hsurrogate : ¬(0xD800 ≤ n ∧ n < 0xE000) := by omega
  rcases units with _ | ⟨⟨_⟩ | ⟨_⟩, units⟩
  · simp [Json.stringChars?, hsurrogate]
  · simp [Json.stringChars?, hsurrogate]
  · rw [Json.stringChars?, if_neg hhigh, if_neg hlow]

/-- The units of a text in quotes are the text. -/
theorem stringChars?_units (s : List Char) : Json.stringChars? (s.map unitOf) = some s := by
  induction s with
  | nil => rfl
  | cons c s ih =>
    rw [List.map_cons]
    rcases escape_cases c with ⟨e, hescape, -, -⟩ | ⟨hescape, hcontrol⟩ | ⟨hescape, -⟩
    · simp [unitOf, hescape, Json.stringChars?, ih]
    · have hunit : unitOf c = .codeUnit c.toNat := by simp [unitOf, hescape]
      rw [hunit, stringChars?_codeUnit (by omega), ih, Char.ofNat_toNat]
      rfl
    · simp [unitOf, hescape, Json.stringChars?, ih]

end VectorQuery.Text
