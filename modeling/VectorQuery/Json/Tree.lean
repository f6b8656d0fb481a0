import VectorQuery.Json.Numeral
import VectorQuery.Text.Hexadecimal
import VectorQuery.Text.Utf8

/-!
# The shape of JSON text

`Tree.parse?` splits a text into values by the grammar alone. What a string or a number stands for
is settled later and only where it is looked at, so a part of a reply that nobody asks for need not
make sense beyond its shape: it may nest deeper than a reader allows, hold numbers that are too
large, bytes that are not UTF-8 or halves of surrogate pairs.
-/

namespace VectorQuery.Json

open Text

/-- A place in a string as it is written. -/
inductive StringUnit where
  /-- A symbol that stands for itself, or the character that a short escape stands for. -/
  | symbol (s : Symbol)
  /-- An escaped UTF-16 code unit. -/
  | codeUnit (n : Nat)

/-- A value split by the grammar. -/
inductive Tree where
  /-- The null literal. -/
  | null
  /-- A truth value. -/
  | bool (b : Bool)
  | number (n : Numeral)
  | string (units : List StringUnit)
  | array (items : List Tree)
  /-- An object, its members in the order of the text. -/
  | object (members : List (List StringUnit × Tree))

instance : Inhabited Tree := ⟨.null⟩

namespace Tree

/-- What is read, and the symbols after it. -/
abbrev Result (α : Type) := Option (α × List Symbol)

/-- Whether a character may stand between two tokens. -/
def isSpace (c : Char) : Bool := c = ' ' || c = '\n' || c = '\t' || c = '\r'

/-- The symbols after the blanks in front. -/
def skipBlanks : List Symbol → List Symbol
  | .char c :: rest => if isSpace c then skipBlanks rest else .char c :: rest
  | rest => rest

/-- The number with four hexadecimal digits. -/
def codeUnit? (a b c d : Char) : Option Nat := do
  return ((← hexValue? a) * 16 + (← hexValue? b)) * 256 + ((← hexValue? c) * 16 + (← hexValue? d))

/-- The character that a short escape stands for. -/
def shortEscape? : Char → Option Char
  | '"' => some '"'
  | '\\' => some '\\'
  | '/' => some '/'
  | 'b' => some '\x08'
  | 'f' => some '\x0c'
  | 'n' => some '\n'
  | 'r' => some '\r'
  | 't' => some '\t'
  | _ => none

/-- A unit in front of the rest of a string. -/
def consUnit (u : StringUnit) : Result (List StringUnit) → Result (List StringUnit)
  | some (units, rest) => some (u :: units, rest)
  | none => none

/-- The rest of a string, after its opening quote. -/
def stringRest? : List Symbol → Result (List StringUnit)
  | [] => none
  | .stray :: rest => consUnit (.symbol .stray) (stringRest? rest)
  | .char '"' :: rest => some ([], rest)
  | .char '\\' :: .char 'u' :: .char a :: .char b :: .char c :: .char d :: rest =>
    match codeUnit? a b c d with
    | some n => consUnit (.codeUnit n) (stringRest? rest)
    | none => none
  | .char '\\' :: .char c :: rest =>
    match shortEscape? c with
    | some c => consUnit (.symbol (.char c)) (stringRest? rest)
    | none => none
  | .char c :: rest =>
    if c.toNat < 0x20 ∨ c = '\\' then none else consUnit (.symbol (.char c)) (stringRest? rest)

/-- The value of a decimal digit. -/
def digit? (c : Char) : Option Nat :=
  if '0' ≤ c ∧ c ≤ '9' then some (c.toNat - '0'.toNat) else none

/-- The digits in front, and the symbols after them. -/
def digits : List Symbol → List Nat × List Symbol
  | .char c :: rest =>
    match digit? c with
    | some d =>
      let (ds, rest) := digits rest
      (d :: ds, rest)
    | none => ([], .char c :: rest)
  | rest => ([], rest)

/-- The digits in front, of which there must be one. -/
def someDigits? (s : List Symbol) : Result (List Nat) :=
  match digits s with
  | ([], _) => none
  | result => some result

/-- The fraction in front, if a point stands there. -/
def fraction? : List Symbol → Result (Option (List Nat))
  | .char '.' :: rest => (someDigits? rest).map fun (ds, rest) => (some ds, rest)
  | rest => some (none, rest)

/-- The digits of an exponent under its sign. -/
def exponentDigits? (negative : Bool) (s : List Symbol) : Result (Option (Bool × List Nat)) :=
  (someDigits? s).map fun (ds, rest) => (some (negative, ds), rest)

/-- The exponent in front, if its letter stands there. -/
def exponent? : List Symbol → Result (Option (Bool × List Nat))
  | .char c :: rest =>
    if c = 'e' ∨ c = 'E' then
      match rest with
      | .char '-' :: rest => exponentDigits? true rest
      | .char '+' :: rest => exponentDigits? false rest
      | rest => exponentDigits? false rest
    else some (none, .char c :: rest)
  | rest => some (none, rest)

/-- A number after its sign. No digit follows a leading zero. -/
def unsigned? (negative : Bool) (s : List Symbol) : Option (Numeral × List Symbol) := do
  let (ds, rest) ← someDigits? s
  if ds.length > 1 ∧ ds.head? = some 0 then none
  let (fraction, rest) ← fraction? rest
  let (exponent, rest) ← exponent? rest
  return (⟨negative, ds, fraction, exponent⟩, rest)

/-- A number. -/
def numeral? : List Symbol → Result Numeral
  | .char '-' :: rest => unsigned? true rest
  | rest => unsigned? false rest

mutual
/-- A value, blanks in front of it allowed. The first argument bounds the number of nested calls. -/
def value? : Nat → List Symbol → Result Tree
  | 0, _ => none
  | fuel + 1, s =>
    match skipBlanks s with
    | .char 'n' :: .char 'u' :: .char 'l' :: .char 'l' :: rest => some (.null, rest)
    | .char 't' :: .char 'r' :: .char 'u' :: .char 'e' :: rest => some (.bool true, rest)
    | .char 'f' :: .char 'a' :: .char 'l' :: .char 's' :: .char 'e' :: rest =>
      some (.bool false, rest)
    | .char '"' :: rest => (stringRest? rest).map fun (units, rest) => (.string units, rest)
    | .char '[' :: rest =>
      match skipBlanks rest with
      | .char ']' :: rest => some (.array [], rest)
      | rest => (items? fuel rest).map fun (items, rest) => (.array items, rest)
    | .char '{' :: rest =>
      match skipBlanks rest with
      | .char '}' :: rest => some (.object [], rest)
      | rest => (members? fuel rest).map fun (members, rest) => (.object members, rest)
    | rest => (numeral? rest).map fun (n, rest) => (.number n, rest)

/-- The items of an array from one on, and the closing bracket. -/
def items? : Nat → List Symbol → Result (List Tree)
  | 0, _ => none
  | fuel + 1, s =>
    match value? fuel s with
    | none => none
    | some (item, rest) =>
      match skipBlanks rest with
      | .char ',' :: rest => (items? fuel rest).map fun (items, rest) => (item :: items, rest)
      | .char ']' :: rest => some ([item], rest)
      | _ => none

/-- The members of an object from one on, and the closing brace. -/
def members? : Nat → List Symbol → Result (List (List StringUnit × Tree))
  | 0, _ => none
  | fuel + 1, s =>
    match skipBlanks s with
    | .char '"' :: rest =>
      match stringRest? rest with
      | none => none
      | some (name, rest) =>
        match skipBlanks rest with
        | .char ':' :: rest =>
          match value? fuel rest with
          | none => none
          | some (value, rest) =>
            match skipBlanks rest with
            | .char ',' :: rest =>
              (members? fuel rest).map fun (members, rest) => ((name, value) :: members, rest)
            | .char '}' :: rest => some ([(name, value)], rest)
            | _ => none
        | _ => none
    | _ => none
end

/-- The value that a text is, blanks around it allowed. Each call but every second consumes a
symbol, so twice the length of the text bounds the calls. -/
def parse? (s : List Symbol) : Option Tree :=
  match value? (2 * s.length + 2) s with
  | some (tree, rest) => if (skipBlanks rest).isEmpty then some tree else none
  | none => none

/-- The value that a byte sequence is. -/
def ofBytes? (bytes : List UInt8) : Option Tree := parse? (Utf8.decode bytes)

/-- The value that a string is. -/
def ofString? (s : String) : Option Tree := parse? (s.toList.map .char)

end Tree

end VectorQuery.Json
