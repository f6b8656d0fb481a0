import VectorQuery.Text.Hexadecimal

/-!
# Quoted strings

A quoted string is the same in a query document and in JSON: a double quote, the characters with
quotes, backslashes and control characters escaped, and a double quote. No other character is
escaped, so text beyond ASCII stands for itself.
-/

namespace VectorQuery.Text

/-- The characters that stand for `c` inside a quoted string. -/
def escape (c : Char) : List Char :=
  match c with
  | '"' => ['\\', '"']
  | '\\' => ['\\', '\\']
  | '\x08' => ['\\', 'b']
  | '\x0c' => ['\\', 'f']
  | '\n' => ['\\', 'n']
  | '\r' => ['\\', 'r']
  | '\t' => ['\\', 't']
  | c =>
    if c.toNat < 0x20 then ['\\', 'u', '0', '0', hexDigit (c.toNat / 16), hexDigit (c.toNat % 16)]
    else [c]

/-- A string in quotes, as characters. -/
def quotedChars (s : List Char) : List Char := '"' :: s.flatMap escape ++ ['"']

/-- A string in quotes. -/
def quote (s : String) : String := String.ofList (quotedChars s.toList)

end VectorQuery.Text
