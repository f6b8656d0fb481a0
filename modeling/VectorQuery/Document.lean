import VectorQuery.Number.Layout
import VectorQuery.Text.Quoted
import VectorQuery.Text.Block

/-!
# Query documents

A document is a list of pieces, each of which is a lexical unit of the query language or a mark
between two. Its text is the texts of its pieces one after another. Everything that comes from
outside as a string enters a document as one `quoted` or `block` piece, so what such a string holds
cannot change which pieces the document has.
-/

namespace VectorQuery

/-- A lexical unit of a document, or a mark between two units. -/
inductive Piece where
  /-- A bracket, colon, comma or blank. -/
  | mark (c : Char)
  /-- A name or keyword, written as it is. -/
  | word (name : String)
  /-- A whole number. -/
  | integer (n : Int)
  /-- A 32-bit floating point number. -/
  | single (x : Number.Single)
  /-- A 64-bit floating point number. -/
  | double (x : Number.Double)
  /-- A string literal. -/
  | quoted (s : String)
  /-- A block string literal. -/
  | block (s : String)
  deriving DecidableEq

namespace Piece

/-- The characters of a piece. -/
def chars : Piece → List Char
  | mark c => [c]
  | word name => name.toList
  | integer n => Number.intChars n
  | single x => Number.Layout.plain.chars x
  | double x => Number.Layout.plain.chars x
  | quoted s => Text.quotedChars s.toList
  | block s => Text.blockChars s.toList

/-- A truth value. -/
def bool (b : Bool) : Piece := word (if b then "true" else "false")

end Piece

/-- A document, or a part of one. -/
abbrev Document := List Piece

namespace Document

open Piece

/-- The characters of a document. -/
def chars (d : Document) : List Char := d.flatMap Piece.chars

/-- The text of a document. -/
def text (d : Document) : String := String.ofList d.chars

@[simp] theorem chars_nil : chars [] = [] := rfl

@[simp] theorem chars_cons (p : Piece) (d : Document) : chars (p :: d) = p.chars ++ chars d := rfl

@[simp] theorem chars_append (d e : Document) : chars (d ++ e) = chars d ++ chars e :=
  List.flatMap_append

/-- A part between braces. -/
def braces (d : Document) : Document := mark '{' :: d ++ [mark '}']

/-- A part between brackets. -/
def brackets (d : Document) : Document := mark '[' :: d ++ [mark ']']

/-- A part between parentheses. -/
def parens (d : Document) : Document := mark '(' :: d ++ [mark ')']

/-- Parts with a blank between each two. -/
def spaced (parts : List Document) : Document := [mark ' '].intercalate parts

/-- Parts with a comma between each two. -/
def packed (parts : List Document) : Document := [mark ','].intercalate parts

/-- Parts with a comma and a blank between each two. -/
def listed (parts : List Document) : Document := [mark ',', mark ' '].intercalate parts

/-- A value under a name, `name: value`. -/
def field (name : String) (value : Document) : Document :=
  word name :: mark ':' :: mark ' ' :: value

/-- A value close to its name, `name:value`. -/
def entry (name : String) (value : Document) : Document := word name :: mark ':' :: value

/-- Values in brackets, with commas alone between them. -/
def array {α : Type} (piece : α → Piece) (values : List α) : Document :=
  brackets (packed (values.map fun x => [piece x]))

/-- String literals in brackets. -/
def strings (values : List String) : Document := array quoted values

/-- 32-bit numbers in brackets. -/
def singles (values : List Number.Single) : Document := array single values

/-- A part that is left out when the values it shows are none. -/
def unlessEmpty {α : Type} (values : List α) (part : Document) : Option Document :=
  if values.isEmpty then none else some part

/-- The parts that are not left out. -/
def given (parts : List (Option Document)) : List Document := parts.filterMap id

end Document

end VectorQuery
