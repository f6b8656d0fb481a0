import VectorQuery.Number.Layout

/-!
# Timestamps

A timestamp is a local date and time of day together with the offset of that local time from UTC.
Its text is the RFC 3339 form with as many fractional digits as it needs and no more.
-/

namespace VectorQuery

/-- A local time at a fixed offset from UTC. -/
structure Timestamp where
  /-- The year of the common era, zero and below for the years before it. -/
  year : Int
  /-- The month, from 1. -/
  month : Nat
  /-- The day of the month, from 1. -/
  day : Nat
  /-- The hour of the day. -/
  hour : Nat
  /-- The minute of the hour. -/
  minute : Nat
  /-- The second of the minute. -/
  second : Nat
  /-- The nanosecond of the second; from a full second on, the leap second that follows it. -/
  nanosecond : Nat
  /-- How many seconds the local time is ahead of UTC. -/
  offset : Int
  deriving DecidableEq, Repr, Inhabited

namespace Timestamp

open Number

/-- A number with zeros in front up to `width` digits. -/
def padded (width n : Nat) : List Char :=
  let digits := digitChars n
  List.replicate (width - digits.length) '0' ++ digits

/-- How many nanoseconds make a second. -/
def nanosPerSecond : Nat := 1000000000

/-- The year with four digits at least, and a sign outside of the years 0 to 9999. -/
def yearChars (year : Int) : List Char :=
  if 0 ≤ year ∧ year ≤ 9999 then padded 4 year.toNat
  else (if year < 0 then '-' else '+') :: padded 4 year.natAbs

/-- The fraction of a second: nothing for zero, else a point and nine digits without the zeros at
their end. -/
def fractionChars (nanos : Nat) : List Char :=
  if nanos = 0 then []
  else '.' :: ((padded 9 nanos).reverse.dropWhile (· = '0')).reverse

/-- The offset: `Z` for UTC itself, else a sign, hours and minutes, rounded to the nearest minute
with half a minute away from zero. -/
def offsetChars (offset : Int) : List Char :=
  if offset = 0 then ['Z']
  else
    let minutes := (offset.natAbs + 30) / 60
    (if offset < 0 then '-' else '+') :: padded 2 (minutes / 60) ++ ':' :: padded 2 (minutes % 60)

/-- The text of a timestamp, as characters. -/
def rfc3339Chars (t : Timestamp) : List Char :=
  yearChars t.year ++ '-' :: padded 2 t.month ++ '-' :: padded 2 t.day ++ 'T' ::
    padded 2 t.hour ++ ':' :: padded 2 t.minute ++ ':' ::
    padded 2 (t.second + t.nanosecond / nanosPerSecond) ++
    fractionChars (t.nanosecond % nanosPerSecond) ++ offsetChars t.offset

/-- The text of a timestamp. -/
def rfc3339 (t : Timestamp) : String := String.ofList t.rfc3339Chars

end Timestamp

end VectorQuery
