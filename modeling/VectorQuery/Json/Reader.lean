import VectorQuery.Json.Tree

/-!
# Reading JSON values

A `Reader` turns the shape of a text into a value of a type. It is told how many further levels of
arrays and objects it may open, `deepest` in all, and refuses what nests deeper. Strings must be
well formed where they are read.
-/

namespace VectorQuery.Json

open Text

/-- How a value is read from the shape of a text within a number of further levels. -/
abbrev Reader (α : Type) := Nat → Tree → Option α

/-- How many levels of arrays and objects a text may have. -/
def deepest : Nat := 127

/-- The characters of a string. Of the escaped code units a high surrogate is read together with the
low one that must follow it. -/
def stringChars? : List StringUnit → Option (List Char)
  | [] => some []
  | .symbol (.char c) :: rest => (stringChars? rest).map (c :: ·)
  | .symbol .stray :: _ => none
  | .codeUnit high :: .codeUnit low :: rest =>
    if 0xD800 ≤ high ∧ high < 0xDC00 then
      if 0xDC00 ≤ low ∧ low < 0xE000 then
        (stringChars? rest).map
          (Char.ofNat (0x10000 + (high - 0xD800) * 0x400 + (low - 0xDC00)) :: ·)
      else none
    else if 0xDC00 ≤ high ∧ high < 0xE000 then none
    else (stringChars? (.codeUnit low :: rest)).map (Char.ofNat high :: ·)
  | .codeUnit n :: rest =>
    if 0xD800 ≤ n ∧ n < 0xE000 then none else (stringChars? rest).map (Char.ofNat n :: ·)

/-- The string that is written. -/
def stringOf? (units : List StringUnit) : Option String :=
  (stringChars? units).map String.ofList

namespace Reader

/-- Reads a string. -/
def string : Reader String
  | _, .string units => stringOf? units
  | _, _ => none

/-- Reads a truth value. -/
def bool : Reader Bool
  | _, .bool b => some b
  | _, _ => none

/-- Reads a number as a JSON value. -/
def number : Reader Json
  | _, .number n => n.value?
  | _, _ => none

/-- Reads a whole number from `least` to `greatest`. -/
def wholeWithin (least greatest : Int) : Reader Int := fun room tree =>
  match number room tree with
  | some (.whole n) => if least ≤ n.value ∧ n.value ≤ greatest then some n.value else none
  | _ => none

/-- Reads a signed 64-bit number. -/
def int64 : Reader Int64 := fun room tree =>
  (wholeWithin leastSigned (signedBound - 1) room tree).map Int64.ofInt

/-- Reads an unsigned 32-bit number. -/
def uint32 : Reader UInt32 := fun room tree =>
  (wholeWithin 0 4294967295 room tree).map fun n => UInt32.ofNat n.toNat

/-- Reads an unsigned 64-bit number. -/
def nat64 : Reader Nat := fun room tree =>
  (wholeWithin 0 (unsignedBound - 1) room tree).map Int.toNat

/-- Reads a 32-bit floating point number. A whole number is rounded once, another number after it
has been rounded to 64 bits. -/
def single : Reader Number.Single := fun room tree =>
  match number room tree with
  | some (.whole n) => some (Number.Binary.ofInt n.value)
  | some (.real x) => some x.value.toSingle
  | _ => none

/-- Reads null as nothing and everything else as a value. -/
def optional {α : Type} (item : Reader α) : Reader (Option α)
  | _, .null => some none
  | room, tree => (item room tree).map some

/-- Reads an array. -/
def list {α : Type} (item : Reader α) : Reader (List α)
  | room + 1, .array items => items.mapM (item room)
  | _, _ => none

/-- Reads an object as a keyed list. -/
def keyed {α : Type} (item : Reader α) : Reader (List (String × α))
  | room + 1, .object members =>
    (members.mapM fun (name, value) => do
      return (← stringOf? name, ← item room value)).map Keyed.ofList
  | _, _ => none

/-- The value of the name that is written, be it as a string or as an object that has null under
it. -/
def name : Reader String
  | _, .string units => stringOf? units
  | _ + 1, .object [(units, .null)] => stringOf? units
  | _, _ => none

/-- Reads one of the names that `ofName?` knows. -/
def named {α : Type} (ofName? : String → Option α) : Reader α := fun room tree =>
  (name room tree).bind ofName?

mutual
/-- Reads any value. -/
def json : Reader Json
  | _, .null => some .null
  | _, .bool b => some (.bool b)
  | _, .number n => n.value?
  | _, .string units => (stringOf? units).map .string
  | 0, .array _ => none
  | room + 1, .array items => (jsonItems room items).map .array
  | 0, .object _ => none
  | room + 1, .object members =>
    (jsonMembers room members).map fun members => .ofMembers members

/-- Reads the items of an array. -/
def jsonItems : Nat → List Tree → Option (List Json)
  | _, [] => some []
  | room, item :: items => do return (← json room item) :: (← jsonItems room items)

/-- Reads the members of an object. -/
def jsonMembers : Nat → List (List StringUnit × Tree) → Option (List (String × Json))
  | _, [] => some []
  | room, (name, value) :: members => do
    return (← stringOf? name, ← json room value) :: (← jsonMembers room members)
end

/-- What a reader reads from a string. -/
def ofString? {α : Type} (reader : Reader α) (s : String) : Option α :=
  (Tree.ofString? s).bind (reader deepest)

/-- What a reader reads from a byte sequence. -/
def ofBytes? {α : Type} (reader : Reader α) (bytes : List UInt8) : Option α :=
  (Tree.ofBytes? bytes).bind (reader deepest)

end Reader

/-- The value that a string is. -/
def parse? (s : String) : Option Json := Reader.json.ofString? s

end VectorQuery.Json
