/-!
# Variable-length integers

A whole number is written seven bits a byte, lowest first, with the high bit set on every byte but
the last. A reader accepts at most ten bytes and no bit beyond the sixty-fourth.
-/

namespace VectorQuery.Wire.Varint

/-- The bytes of a whole number. -/
def encode (n : Nat) : List UInt8 :=
  if n < 128 then [UInt8.ofNat n] else UInt8.ofNat (n % 128 + 128) :: encode (n / 128)
  termination_by n
  decreasing_by omega

/-- The number at the front of the bytes, with at most `room` bytes, and the bytes after it. -/
def decodeWithin : (room : Nat) → List UInt8 → Option (Nat × List UInt8)
  | 0, _ => none
  | _, [] => none
  | room + 1, b :: rest =>
    if b.toNat < 128 then some (b.toNat, rest)
    else
      match decodeWithin room rest with
      | some (n, rest) => some (b.toNat - 128 + 128 * n, rest)
      | none => none

/-- The number below `2 ^ 64` at the front of the bytes, and the bytes after it. -/
def decode? (bytes : List UInt8) : Option (Nat × List UInt8) :=
  match decodeWithin 10 bytes with
  | some (n, rest) => if n < UInt64.size then some (n, rest) else none
  | none => none

end VectorQuery.Wire.Varint
