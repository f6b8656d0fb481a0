/-!
# UTF-8

Bytes are read as characters by a machine that looks at one byte at a time. Bytes that belong to no
character are not lost: each longest run that could still have begun a character, or a single byte
that could not, is read as one `Symbol.stray`. A byte sequence is UTF-8 when nothing in it is stray.
-/

namespace VectorQuery.Text

/-- What a place in a byte sequence reads as. -/
inductive Symbol where
  /-- A character. -/
  | char (c : Char)
  /-- A run of bytes that no character accounts for. -/
  | stray
  deriving DecidableEq, Inhabited

namespace Symbol

/-- The character that a symbol shows, with the replacement character for a stray run. -/
def shown : Symbol → Char
  | char c => c
  | stray => '\uFFFD'

/-- The character that a symbol is. -/
def char? : Symbol → Option Char
  | char c => some c
  | stray => none

end Symbol

namespace Utf8

/-- Where the machine stands between two bytes. -/
inductive State where
  /-- Between characters. -/
  | start
  /-- Inside a character: `value` has been read, `owed + 1` more bytes are owed, and the next of
  them is from `least` to `greatest`. -/
  | inside (value owed : Nat) (least greatest : UInt8)

/-- What the first byte of a character leads to: the symbol of an ASCII or stray byte, or the state
after a leading byte. -/
def first (b : UInt8) : Symbol ⊕ State :=
  if b < 0x80 then .inl (.char (Char.ofNat b.toNat))
  else if b < 0xC2 then .inl .stray
  else if b < 0xE0 then .inr (.inside (b.toNat - 0xC0) 0 0x80 0xBF)
  else if b = 0xE0 then .inr (.inside 0 1 0xA0 0xBF)
  else if b = 0xED then .inr (.inside 0xD 1 0x80 0x9F)
  else if b < 0xF0 then .inr (.inside (b.toNat - 0xE0) 1 0x80 0xBF)
  else if b = 0xF0 then .inr (.inside 0 2 0x90 0xBF)
  else if b < 0xF4 then .inr (.inside (b.toNat - 0xF0) 2 0x80 0xBF)
  else if b = 0xF4 then .inr (.inside 4 2 0x80 0x8F)
  else .inl .stray

/-- The symbols that are complete after one more byte, and the state it leads to. A byte that does
not continue the character makes what came before it stray and is read as a first byte. -/
def step (state : State) (b : UInt8) : List Symbol × State :=
  let fresh : List Symbol × State := match first b with
    | .inl symbol => ([symbol], .start)
    | .inr state => ([], state)
  match state with
  | .start => fresh
  | .inside value owed least greatest =>
    if least ≤ b ∧ b ≤ greatest then
      let value := value * 64 + (b.toNat - 0x80)
      match owed with
      | 0 => ([.char (Char.ofNat value)], .start)
      | owed + 1 => ([], .inside value owed 0x80 0xBF)
    else (.stray :: fresh.1, fresh.2)

/-- The symbols that the bytes complete from a state on; a character that the end cuts off is
stray. -/
def decodeFrom : State → List UInt8 → List Symbol
  | .start, [] => []
  | .inside .., [] => [.stray]
  | state, b :: bytes =>
    let (symbols, next) := step state b
    symbols ++ decodeFrom next bytes

/-- The symbols that a byte sequence reads as. -/
def decode (bytes : List UInt8) : List Symbol := decodeFrom .start bytes

/-- The text of a byte sequence, each stray run shown as one replacement character. -/
def lossy (bytes : List UInt8) : String := String.ofList ((decode bytes).map Symbol.shown)

/-- The text of a byte sequence, if all of it is UTF-8. -/
def text? (bytes : List UInt8) : Option String :=
  ((decode bytes).mapM Symbol.char?).map String.ofList

/-- The bytes of a text. -/
def encode (s : String) : List UInt8 := s.toList.flatMap String.utf8EncodeChar

end Utf8

end VectorQuery.Text
