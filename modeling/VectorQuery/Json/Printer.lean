import VectorQuery.Json.Basic
import VectorQuery.Number.Layout
import VectorQuery.Text.Quoted

/-!
# JSON text

The compact text of a JSON value: no blanks, the members of an object in the order of their keys.
-/

namespace VectorQuery.Json

open Number Text

/-- Texts between brackets, with a comma between each two. -/
def arrayChars (items : List (List Char)) : List Char :=
  '[' :: [','].intercalate items ++ [']']

/-- Named texts between braces, with a comma between each two. -/
def objectChars (members : List (String × List Char)) : List Char :=
  '{' :: [','].intercalate (members.map fun m => quotedChars m.1.toList ++ ':' :: m.2) ++ ['}']

mutual
/-- The text of a value, as characters. -/
def chars : Json → List Char
  | null => ['n', 'u', 'l', 'l']
  | bool true => ['t', 'r', 'u', 'e']
  | bool false => ['f', 'a', 'l', 's', 'e']
  | whole n => intChars n.value
  | real x => Layout.jsonDouble.chars x.value
  | string s => quotedChars s.toList
  | array items => arrayChars (itemTexts items)
  | object members => objectChars (memberTexts members)

/-- The texts of the items of an array. -/
def itemTexts : List Json → List (List Char)
  | [] => []
  | item :: items => chars item :: itemTexts items

/-- The names of the members of an object with the texts of their values. -/
def memberTexts : List (String × Json) → List (String × List Char)
  | [] => []
  | (name, value) :: members => (name, chars value) :: memberTexts members
end

theorem itemTexts_eq_map (items : List Json) : itemTexts items = items.map chars := by
  induction items with
  | nil => rfl
  | cons item items ih => simp [itemTexts, ih]

theorem memberTexts_eq_map (members : List (String × Json)) :
    memberTexts members = members.map fun m => (m.1, chars m.2) := by
  induction members with
  | nil => rfl
  | cons m members ih => simp [memberTexts, ih]

/-- The text of a value. -/
def text (v : Json) : String := String.ofList v.chars

end VectorQuery.Json
