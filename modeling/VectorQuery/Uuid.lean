import VectorQuery.Text.Hexadecimal

/-!
# Object ids

An id is a number of 128 bits. It is written as 32 lower-case hexadecimal digits in groups of 8, 4,
4, 4 and 12, with a hyphen between each two groups. It is read in any case, with all hyphens or
none, and the form with hyphens also between braces or after `urn:uuid:`.
-/

namespace VectorQuery

/-- An object id. -/
structure Uuid where
  /-- The number. -/
  bits : BitVec 128
  deriving DecidableEq

namespace Uuid

open Text

instance : Inhabited Uuid := ⟨⟨0⟩⟩

/-- The id with the given number. -/
def ofNat (n : Nat) : Uuid := ⟨BitVec.ofNat 128 n⟩

/-- The `count` lowest hexadecimal digits of a number. -/
def digits : Nat → Nat → List Char
  | 0, _ => []
  | count + 1, n => digits count (n / 16) ++ [hexDigit (n % 16)]

/-- Digits in groups with a hyphen between each two. -/
def hyphenated (ds : List Char) : List Char :=
  ds.take 8 ++ '-' :: (ds.drop 8).take 4 ++ '-' :: (ds.drop 12).take 4 ++ '-' ::
    (ds.drop 16).take 4 ++ '-' :: ds.drop 20

/-- The text of an id, as characters. -/
def chars (id : Uuid) : List Char := hyphenated (digits 32 id.bits.toNat)

/-- The text of an id. -/
def text (id : Uuid) : String := String.ofList id.chars

/-- The number that digits are written for. -/
def valueOf? (ds : List Char) : Option Nat :=
  ds.foldlM (fun n c => (hexValue? c).map fun d => n * 16 + d) 0

/-- The digits without the hyphens between their groups, if every group is in its place. -/
def ungrouped? (s : List Char) : Option (List Char) :=
  let ds := s.filter (· ≠ '-')
  if ds.length = 32 ∧ hyphenated ds = s then some ds else none

/-- The text without what may stand around the form with hyphens. -/
def unwrapped (s : List Char) : List Char :=
  if s.length = 38 ∧ s.head? = some '{' ∧ s.getLast? = some '}' then (s.drop 1).take 36
  else if (s.take 9).map Char.toLower = "urn:uuid:".toList then s.drop 9
  else s

/-- The id that is written. -/
def ofChars? (s : List Char) : Option Uuid :=
  let ds := if s.length = 32 then some s else ungrouped? (unwrapped s)
  ds.bind fun ds => (valueOf? ds).map ofNat

/-- The id that a string is. -/
def ofString? (s : String) : Option Uuid := ofChars? s.toList

end Uuid

end VectorQuery
