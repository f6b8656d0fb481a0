/-!
# Hexadecimal digits
-/

namespace VectorQuery.Text

/-- The lower-case hexadecimal digit for a value below sixteen. -/
def hexDigit (n : Nat) : Char := Nat.digitChar n

/-- The value of a hexadecimal digit of either case. -/
def hexValue? (c : Char) : Option Nat :=
  if '0' ≤ c ∧ c ≤ '9' then some (c.toNat - '0'.toNat)
  else if 'a' ≤ c ∧ c ≤ 'f' then some (c.toNat - 'a'.toNat + 10)
  else if 'A' ≤ c ∧ c ≤ 'F' then some (c.toNat - 'A'.toNat + 10)
  else none

theorem hexValue?_hexDigit {n : Nat} (h : n < 16) : hexValue? (hexDigit n) = some n := by
  revert n
  decide

/-- No punctuation is a digit. -/
theorem hexDigit_ne {n : Nat} (h : n < 16) {c : Char} (hc : c.isAlphanum = false) :
    hexDigit n ≠ c := by
  have hdigit : ∀ n < 16, (hexDigit n).isAlphanum = true := by decide
  rintro rfl
  exact Bool.noConfusion ((hdigit n h).symm.trans hc)

end VectorQuery.Text
