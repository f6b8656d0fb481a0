/-!
# Block strings

A block string stands between triple quotes and escapes nothing but a triple quote inside it, so
that a prompt keeps its lines and its quotes as they are.
-/

namespace VectorQuery.Text

/-- The text with every triple quote, found from left to right without overlap, preceded by a
backslash. -/
def escapeTripleQuotes : List Char → List Char
  | '"' :: '"' :: '"' :: rest => '\\' :: '"' :: '"' :: '"' :: escapeTripleQuotes rest
  | c :: rest => c :: escapeTripleQuotes rest
  | [] => []

/-- A block string, as characters. -/
def blockChars (s : List Char) : List Char :=
  ['"', '"', '"'] ++ escapeTripleQuotes s ++ ['"', '"', '"']

/-- A block string. -/
def block (s : String) : String := String.ofList (blockChars s.toList)

end VectorQuery.Text
