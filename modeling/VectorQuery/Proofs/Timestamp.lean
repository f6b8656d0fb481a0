import Mathlib.Data.List.DropRight
import VectorQuery.Proofs.Number.Plain
import VectorQuery.Timestamp

/-!
# What the text of a timestamp tells

The text of a timestamp is read by the grammar of RFC 3339. It tells the local date and time with
all nanoseconds, a leap second as the second 60, and of the offset the nearest minute. So it stands
for the instant of the timestamp exactly when the offset has no seconds, and two such timestamps are
never written alike.
-/

namespace VectorQuery

open Number

/-! ## Instants -/

/-- Whether a year has a 29th of February. -/
def isLeapYear (year : Int) : Bool :=
  year % 4 = 0 && (year % 100 ≠ 0 || year % 400 = 0)

/-- How many days a month has. -/
def daysIn (year : Int) : Nat → Nat
  | 2 => if isLeapYear year then 29 else 28
  | 4 | 6 | 9 | 11 => 30
  | _ => 31

/-- How many days a date is behind the first day of the year 0. -/
def dayNumber (year : Int) (month day : Nat) : Int :=
  365 * year + (year + 3) / 4 - (year + 99) / 100 + (year + 399) / 400 +
    ((List.range (month - 1)).map fun m => daysIn year (m + 1)).sum + (day - 1)

example : dayNumber 2000 3 1 - dayNumber 1900 2 28 = 36526 := by decide

/-- A point in time. -/
structure Instant where
  /-- The seconds of UTC since the year 0, without leap seconds. -/
  seconds : Int
  /-- The nanosecond of the second; from a full second on, the leap second that follows it. -/
  nanosecond : Nat
  deriving DecidableEq

/-- The second of UTC in which a local time lies. -/
def utcSecond (year : Int) (month day hour minute second : Nat) (offset : Int) : Int :=
  dayNumber year month day * 86400 + hour * 3600 + minute * 60 + second - offset

/-! ## Dates and times in text -/

/-- A zone in text. -/
inductive Zone where
  | utc
  | numeric (negative : Bool) (hours minutes : Nat)
  deriving DecidableEq

/-- How many seconds the local time of a zone is ahead of UTC. -/
def Zone.offset : Zone → Int
  | utc => 0
  | numeric negative hours minutes =>
    (if negative then -1 else 1) * (hours * 3600 + minutes * 60 : Nat)

/-- A date and time as it stands in text. -/
structure DateTime where
  year : Nat
  month : Nat
  day : Nat
  hour : Nat
  minute : Nat
  /-- The second, which is 60 for a leap second. -/
  second : Nat
  /-- The digits of the fraction of the second; none without a point. -/
  fraction : List Char
  zone : Zone
  deriving DecidableEq

namespace DateTime

/-- The fraction of the second in nanoseconds; digits behind the ninth do not count. -/
def nanosecond (d : DateTime) : Nat :=
  Nat.ofDigitChars 10 ((d.fraction ++ List.replicate (9 - d.fraction.length) '0').take 9) 0

/-- The instant that is written. -/
def instant (d : DateTime) : Instant where
  seconds := utcSecond d.year d.month d.day d.hour d.minute (min d.second 59) d.zone.offset
  nanosecond := d.nanosecond + (d.second - 59) * Timestamp.nanosPerSecond

/-- A number of so many digits within bounds, and what is behind it. -/
def number? (width least greatest : Nat) (cs : List Char) : Option (Nat × List Char) :=
  let digits := cs.take width
  let n := Nat.ofDigitChars 10 digits 0
  if digits.length = width ∧ digits.all Char.isDigit ∧ least ≤ n ∧ n ≤ greatest then
    some (n, cs.drop width)
  else none

/-- What is behind a mark; letters may be small. -/
def mark? (c : Char) : List Char → Option (List Char)
  | [] => none
  | d :: cs => if d.toUpper = c then some cs else none

/-- The digits behind a point, if there is one, and what is behind them. -/
def fraction? : List Char → Option (List Char × List Char)
  | '.' :: cs =>
    let digits := cs.takeWhile Char.isDigit
    if digits.isEmpty then none else some (digits, cs.dropWhile Char.isDigit)
  | cs => some ([], cs)

/-- A zone, which ends the text. -/
def zone? : List Char → Option Zone
  | '+' :: cs => signed false cs
  | '-' :: cs => signed true cs
  | cs => if mark? 'Z' cs = some [] then some .utc else none
where
  /-- The hours and minutes behind a sign. -/
  signed (negative : Bool) (cs : List Char) : Option Zone := do
    let (hours, cs) ← number? 2 0 23 cs
    let cs ← mark? ':' cs
    let (minutes, cs) ← number? 2 0 59 cs
    if cs.isEmpty then some (.numeric negative hours minutes) else none

/-- A year, month and day, and what is behind them. -/
def date? (cs : List Char) : Option ((Nat × Nat × Nat) × List Char) := do
  let (year, cs) ← number? 4 0 9999 cs
  let cs ← mark? '-' cs
  let (month, cs) ← number? 2 1 12 cs
  let cs ← mark? '-' cs
  let (day, cs) ← number? 2 1 (daysIn year month) cs
  some ((year, month, day), cs)

/-- An hour, minute and second, and what is behind them. -/
def time? (cs : List Char) : Option ((Nat × Nat × Nat) × List Char) := do
  let (hour, cs) ← number? 2 0 23 cs
  let cs ← mark? ':' cs
  let (minute, cs) ← number? 2 0 59 cs
  let cs ← mark? ':' cs
  let (second, cs) ← number? 2 0 60 cs
  some ((hour, minute, second), cs)

/-- The date and time that a text is, by the grammar of RFC 3339. -/
def read? (text : String) : Option DateTime := do
  let ((year, month, day), cs) ← date? text.toList
  let cs ← mark? 'T' cs
  let ((hour, minute, second), cs) ← time? cs
  let (fraction, cs) ← fraction? cs
  let zone ← zone? cs
  some { year, month, day, hour, minute, second, fraction, zone }

end DateTime

namespace Timestamp

/-- The instant of a timestamp. -/
def instant (t : Timestamp) : Instant where
  seconds := utcSecond t.year t.month t.day t.hour t.minute t.second t.offset
  nanosecond := t.nanosecond

/-- A date of the calendar and a time of the day; a leap second stands behind a second 59. -/
structure Valid (t : Timestamp) : Prop where
  month : 1 ≤ t.month ∧ t.month ≤ 12
  day : 1 ≤ t.day ∧ t.day ≤ daysIn t.year t.month
  hour : t.hour < 24
  minute : t.minute < 60
  second : t.second < 60
  nanosecond : t.nanosecond < nanosPerSecond ∨
    t.second = 59 ∧ t.nanosecond < 2 * nanosPerSecond

/-- A valid timestamp whose year has four digits and whose offset does not round to a day. -/
structure Writable (t : Timestamp) : Prop extends Valid t where
  year : 0 ≤ t.year ∧ t.year ≤ 9999
  offset : t.offset.natAbs < 86370

/-- A date and time in text that tells everything about a timestamp but the seconds of its
offset. -/
structure ToldBy (t : Timestamp) (d : DateTime) : Prop where
  date : (d.year : Int) = t.year ∧ d.month = t.month ∧ d.day = t.day
  time : d.hour = t.hour ∧ d.minute = t.minute
  /-- The second that follows the second 59 is a leap second. -/
  second : d.second = if t.nanosecond < nanosPerSecond then t.second else 60
  nanosecond : d.nanosecond = t.nanosecond % nanosPerSecond
  /-- There is a fraction unless it is zero. -/
  fraction_eq_nil_iff : d.fraction = [] ↔ t.nanosecond % nanosPerSecond = 0
  length_fraction_le : d.fraction.length ≤ 9
  getLast?_fraction_ne : d.fraction.getLast? ≠ some '0'
  zone_eq_utc_iff : d.zone = .utc ↔ t.offset = 0
  /-- Any other offset is rounded to the nearest minute, half a minute away from zero. -/
  zone_of_ne_zero : t.offset ≠ 0 → ∃ hours minutes,
    d.zone = .numeric (decide (t.offset < 0)) hours minutes ∧ minutes < 60 ∧
      t.offset.natAbs < 60 * (60 * hours + minutes) + 30 ∧
      60 * (60 * hours + minutes) ≤ t.offset.natAbs + 30
  /-- The text stands for the instant if and only if nothing was rounded. -/
  instant_eq_iff : d.instant = t.instant ↔ 60 ∣ t.offset

/-! ## Numbers of a fixed width -/

theorem length_padded {width n : Nat} (hwidth : 0 < width) (hn : n < 10 ^ width) :
    (padded width n).length = width := by
  have hlength : (digitChars n).length ≤ width :=
    (Nat.length_toDigits_le_iff (by decide) hwidth).2 hn
  rw [padded, List.length_append, List.length_replicate]
  omega

theorem isDigit_of_mem_padded {width n : Nat} {c : Char} (h : c ∈ padded width n) :
    c.isDigit = true := by
  rcases List.mem_append.1 h with h | h
  · rw [List.eq_of_mem_replicate h]
    rfl
  · exact isDigit_of_mem_digitChars h

theorem ofDigitChars_padded (width n : Nat) : Nat.ofDigitChars 10 (padded width n) 0 = n := by
  rw [padded, Nat.ofDigitChars_append, Nat.ofDigitChars_replicate_zero]
  exact Nat.ofDigitChars_ten_toDigits

end Timestamp

namespace DateTime

open Timestamp

theorem number?_padded {width least greatest n : Nat} (hwidth : 0 < width) (hn : n < 10 ^ width)
    (hleast : least ≤ n) (hgreatest : n ≤ greatest) (rest : List Char) :
    number? width least greatest (padded width n ++ rest) = some (n, rest) := by
  have hlength := length_padded hwidth hn
  have htake : (padded width n ++ rest).take width = padded width n := by
    rw [List.take_append_of_le_length hlength.ge, List.take_of_length_le hlength.le]
  have hdrop : (padded width n ++ rest).drop width = rest := by
    rw [List.drop_append_of_le_length hlength.ge, List.drop_of_length_le hlength.le,
      List.nil_append]
  have hdigits : (padded width n).all Char.isDigit = true :=
    List.all_eq_true.2 fun _ => isDigit_of_mem_padded
  simp only [number?, htake, hdrop, ofDigitChars_padded]
  exact if_pos ⟨hlength, hdigits, hleast, hgreatest⟩

end DateTime

/-! ## Fractions -/

namespace Timestamp

/-- The digits of a fraction of a second. -/
def fractionDigits (nanos : Nat) : List Char := (padded 9 nanos).rdropWhile (· = '0')

section Fraction
variable {nanos : Nat} (h : nanos < nanosPerSecond)

theorem fractionDigits_isPrefixOf (nanos : Nat) : fractionDigits nanos <+: padded 9 nanos :=
  List.rdropWhile_prefix _ _

include h in
theorem length_fractionDigits_le : (fractionDigits nanos).length ≤ 9 :=
  (fractionDigits_isPrefixOf nanos).length_le.trans (length_padded (by decide) h).le

theorem getLast?_fractionDigits_ne (nanos : Nat) :
    (fractionDigits nanos).getLast? ≠ some '0' := by
  intro hlast
  obtain ⟨hne, hzero⟩ := List.mem_getLast?_eq_getLast hlast
  exact List.rdropWhile_last_not _ _ hne (decide_eq_true hzero.symm)

include h in
/-- The zeros that are left out make up the nine digits. -/
theorem fractionDigits_append :
    fractionDigits nanos ++ List.replicate (9 - (fractionDigits nanos).length) '0' =
      padded 9 nanos := by
  have hsplit := List.rdropWhile_append_rtakeWhile (p := fun c => decide (c = '0'))
    (l := padded 9 nanos)
  have hzeros : ∀ c ∈ (padded 9 nanos).rtakeWhile (fun c => decide (c = '0')), c = '0' :=
    fun _ hc => of_decide_eq_true (List.mem_rtakeWhile_imp (p := fun c => decide (c = '0')) hc)
  have hlength := congrArg List.length hsplit
  rw [List.length_append, length_padded (by decide) h] at hlength
  conv_rhs => rw [← hsplit, List.eq_replicate_of_mem hzeros]
  rw [fractionDigits]
  congr 2
  omega

include h in
theorem fractionDigits_eq_nil_iff : fractionDigits nanos = [] ↔ nanos = 0 := by
  constructor
  · intro hnil
    have hzeros := fractionDigits_append h
    rw [hnil, List.nil_append] at hzeros
    rw [← ofDigitChars_padded 9 nanos, ← hzeros, Nat.ofDigitChars_replicate_zero]
    rfl
  · rintro rfl
    decide

end Fraction

theorem fractionChars_eq (nanos : Nat) (h : nanos ≠ 0) :
    fractionChars nanos = '.' :: fractionDigits nanos := if_neg h

end Timestamp

namespace DateTime

open Timestamp

/-- A fraction is read up to what is no digit; without a fraction there must be no point. -/
theorem fraction?_fractionChars {nanos : Nat} (h : nanos < nanosPerSecond) {c : Char}
    (hdigit : c.isDigit = false) (hpoint : c ≠ '.') (rest : List Char) :
    fraction? (fractionChars nanos ++ c :: rest) = some (fractionDigits nanos, c :: rest) := by
  by_cases hzero : nanos = 0
  · rw [(fractionDigits_eq_nil_iff h).2 hzero, fractionChars, if_pos hzero, List.nil_append]
    unfold fraction?
    split
    · rename_i heq
      exact absurd (List.cons.inj heq).1 hpoint
    · rfl
  · have hdigits : ∀ d ∈ fractionDigits nanos, d.isDigit = true :=
      fun d hd => isDigit_of_mem_padded ((fractionDigits_isPrefixOf nanos).mem hd)
    have hne : (fractionDigits nanos).isEmpty = false :=
      List.isEmpty_eq_false_iff.2 fun hnil => hzero ((fractionDigits_eq_nil_iff h).1 hnil)
    have htake : (fractionDigits nanos ++ c :: rest).takeWhile Char.isDigit =
        fractionDigits nanos := by
      rw [List.takeWhile_append_of_pos hdigits, List.takeWhile_cons_of_neg (by simp [hdigit]),
        List.append_nil]
    have hdrop : (fractionDigits nanos ++ c :: rest).dropWhile Char.isDigit = c :: rest := by
      rw [List.dropWhile_append_of_pos hdigits, List.dropWhile_cons_of_neg (by simp [hdigit])]
    rw [fractionChars_eq nanos hzero, List.cons_append, fraction?]
    simp only [htake, hdrop, hne]
    rfl

end DateTime

/-! ## Zones -/

namespace Timestamp

/-- The zone that an offset is written as. -/
def zoneOf (offset : Int) : Zone :=
  if offset = 0 then .utc
  else
    let minutes := (offset.natAbs + 30) / 60
    .numeric (decide (offset < 0)) (minutes / 60) (minutes % 60)

theorem offsetChars_cons (offset : Int) : ∃ c cs, offsetChars offset = c :: cs ∧
    c.isDigit = false ∧ c ≠ '.' := by
  unfold offsetChars
  split
  · exact ⟨'Z', [], rfl, rfl, by decide⟩
  · split
    · exact ⟨'-', _, rfl, rfl, by decide⟩
    · exact ⟨'+', _, rfl, rfl, by decide⟩

end Timestamp

namespace DateTime

open Timestamp

theorem mark?_self {c : Char} (h : c.toUpper = c) (cs : List Char) :
    mark? c (c :: cs) = some cs := if_pos h

theorem zone?_offsetChars {offset : Int} (h : offset.natAbs < 86370) :
    zone? (offsetChars offset) = some (zoneOf offset) := by
  unfold offsetChars zoneOf
  by_cases hzero : offset = 0
  · rw [if_pos hzero, if_pos hzero]
    rfl
  · rw [if_neg hzero, if_neg hzero]
    generalize hminutes : (offset.natAbs + 30) / 60 = minutes
    have hhours : minutes / 60 ≤ 23 := by omega
    have hrest : minutes % 60 ≤ 59 := by omega
    have hsigned : ∀ negative, zone?.signed negative
        (padded 2 (minutes / 60) ++ ':' :: padded 2 (minutes % 60)) =
          some (.numeric negative (minutes / 60) (minutes % 60)) := by
      intro negative
      have hlast : number? 2 0 59 (padded 2 (minutes % 60)) = some (minutes % 60, []) := by
        simpa using number?_padded (by decide) (by omega) (Nat.zero_le _) hrest []
      have hcolon := mark?_self (show ':'.toUpper = ':' by decide)
      rw [zone?.signed, number?_padded (by decide) (by omega) (Nat.zero_le _) hhours]
      simp only [Option.bind_eq_bind, Option.bind_some, hcolon, hlast]
      rfl
    by_cases hneg : offset < 0
    · simpa [hneg, zone?] using hsigned true
    · simpa [hneg, zone?] using hsigned false

end DateTime

/-! ## Whole texts -/

namespace Timestamp

/-- The date and time that a timestamp is written as. -/
def written (t : Timestamp) : DateTime where
  year := t.year.toNat
  month := t.month
  day := t.day
  hour := t.hour
  minute := t.minute
  second := t.second + t.nanosecond / nanosPerSecond
  fraction := fractionDigits (t.nanosecond % nanosPerSecond)
  zone := zoneOf t.offset

section Writable
variable {t : Timestamp}

theorem mod_nanosPerSecond_lt (n : Nat) : n % nanosPerSecond < nanosPerSecond :=
  Nat.mod_lt n (by decide)

theorem Valid.second_written (h : t.Valid) :
    t.written.second = if t.nanosecond < nanosPerSecond then t.second else 60 := by
  have hnanosecond := h.nanosecond
  have hnanos : nanosPerSecond = 1000000000 := rfl
  rw [hnanos] at hnanosecond ⊢
  show t.second + t.nanosecond / 1000000000 = _
  split <;> omega

theorem daysIn_le (year : Int) (month : Nat) : daysIn year month ≤ 31 := by
  unfold daysIn
  repeat' split
  all_goals decide

/-- Two digits within bounds are read whatever is behind them. -/
theorem number?_two {least greatest n : Nat} (hleast : least ≤ n) (hle : n ≤ greatest)
    (hlt : greatest < 100) (rest : List Char) :
    DateTime.number? 2 least greatest (padded 2 n ++ rest) = some (n, rest) :=
  DateTime.number?_padded (by decide) (Nat.lt_of_le_of_lt hle hlt) hleast hle rest

theorem Writable.date? (h : t.Writable) (rest : List Char) :
    DateTime.date? (yearChars t.year ++ '-' :: (padded 2 t.month ++ '-' :: (padded 2 t.day ++
      rest))) = some ((t.year.toNat, t.month, t.day), rest) := by
  have hchars : yearChars t.year = padded 4 t.year.toNat := if_pos h.year
  have hnat : (t.year.toNat : Int) = t.year := Int.toNat_of_nonneg h.year.1
  have hle : t.year.toNat ≤ 9999 := by
    have := h.year.2
    omega
  have hyear := DateTime.number?_padded (show 0 < 4 by decide) (Nat.lt_succ_of_le hle)
    (Nat.zero_le _) hle
  have hmonth := number?_two h.month.1 h.month.2 (by decide)
  have hday := number?_two h.day.1 h.day.2 (Nat.lt_of_le_of_lt (daysIn_le _ _) (by decide))
  have hdash := DateTime.mark?_self (show '-'.toUpper = '-' by decide)
  rw [DateTime.date?, hchars, hyear]
  simp only [Option.bind_eq_bind, Option.bind_some, hdash, hmonth, hnat, hday]

theorem Valid.time? (h : t.Valid) (rest : List Char) :
    DateTime.time? (padded 2 t.hour ++ ':' :: (padded 2 t.minute ++
      ':' :: (padded 2 t.written.second ++ rest))) =
        some ((t.hour, t.minute, t.written.second), rest) := by
  have hsecond_le : t.written.second ≤ 60 := by
    have hlt := h.second
    rw [h.second_written]
    split <;> omega
  have hhour := number?_two (Nat.zero_le _) (Nat.le_of_lt_succ h.hour) (by decide)
  have hminute := number?_two (Nat.zero_le _) (Nat.le_of_lt_succ h.minute) (by decide)
  have hsecond := number?_two (Nat.zero_le _) hsecond_le (by decide)
  have hcolon := DateTime.mark?_self (show ':'.toUpper = ':' by decide)
  rw [DateTime.time?, hhour]
  simp only [Option.bind_eq_bind, Option.bind_some, hcolon, hminute, hsecond]

/-- Every part is followed by a mark or a sign, so the text is read from left to right. -/
theorem read?_rfc3339 (h : t.Writable) : DateTime.read? t.rfc3339 = some t.written := by
  obtain ⟨c, cs, hoffset, hdigit, hpoint⟩ := offsetChars_cons t.offset
  have hfraction := DateTime.fraction?_fractionChars (mod_nanosPerSecond_lt t.nanosecond) hdigit
    hpoint cs
  rw [← hoffset] at hfraction
  have hzone := DateTime.zone?_offsetChars h.offset
  have hmark := DateTime.mark?_self (show 'T'.toUpper = 'T' by decide)
  have htext : t.rfc3339.toList = yearChars t.year ++ '-' :: (padded 2 t.month ++
      '-' :: (padded 2 t.day ++ 'T' :: (padded 2 t.hour ++ ':' :: (padded 2 t.minute ++
      ':' :: (padded 2 t.written.second ++
      (fractionChars (t.nanosecond % nanosPerSecond) ++ offsetChars t.offset)))))) := by
    rw [rfc3339, String.toList_ofList, rfc3339Chars]
    simp only [List.append_assoc, List.cons_append, written]
  rw [DateTime.read?, htext, h.date?]
  simp only [Option.bind_eq_bind, Option.bind_some, hmark, h.time?, hfraction, hzone]
  rfl

/-! ## What is told -/

theorem nanosecond_written (t : Timestamp) :
    t.written.nanosecond = t.nanosecond % nanosPerSecond := by
  have hlt := mod_nanosPerSecond_lt t.nanosecond
  have hlength := length_padded (show 0 < 9 by decide) hlt
  rw [DateTime.nanosecond, written, fractionDigits_append hlt, List.take_of_length_le hlength.le,
    ofDigitChars_padded]

/-- Hours and minutes are those of the offset plus half a minute. -/
theorem zoneOf_of_ne_zero {offset : Int} (h : offset ≠ 0) : ∃ hours minutes,
    zoneOf offset = .numeric (decide (offset < 0)) hours minutes ∧ minutes < 60 ∧
      offset.natAbs < 60 * (60 * hours + minutes) + 30 ∧
      60 * (60 * hours + minutes) ≤ offset.natAbs + 30 := by
  refine ⟨_, _, if_neg h, Nat.mod_lt _ (by decide), ?_, ?_⟩ <;> omega

theorem zoneOf_eq_utc_iff {offset : Int} : zoneOf offset = .utc ↔ offset = 0 := by
  constructor
  · intro hutc
    by_contra hne
    obtain ⟨hours, minutes, hzone, -⟩ := zoneOf_of_ne_zero hne
    rw [hzone] at hutc
    cases hutc
  · exact fun hzero => if_pos hzero

theorem offset_zoneOf_eq_iff {offset : Int} : (zoneOf offset).offset = offset ↔ 60 ∣ offset := by
  by_cases hzero : offset = 0
  · subst hzero
    decide
  · obtain ⟨hours, minutes, hzone, -, hlt, hle⟩ := zoneOf_of_ne_zero hzero
    rw [hzone, Zone.offset]
    by_cases hneg : offset < 0
    · simp only [hneg, decide_true, if_true]
      omega
    · simp only [hneg, decide_false, Bool.false_eq_true, if_false]
      omega

theorem Valid.instant_written_eq_iff (h : t.Valid) (hyear : 0 ≤ t.year) :
    t.written.instant = t.instant ↔ 60 ∣ t.offset := by
  have hyear_nat : (t.year.toNat : Int) = t.year := Int.toNat_of_nonneg hyear
  have hlt := h.second
  have hnanosecond := h.nanosecond
  have hsecond := h.second_written
  have hseconds : min t.written.second 59 = t.second := by
    rw [hsecond]
    split <;> omega
  have hnanos : t.written.nanosecond + (t.written.second - 59) * nanosPerSecond = t.nanosecond := by
    have hnanos : nanosPerSecond = 1000000000 := rfl
    rw [nanosecond_written, hsecond]
    rw [hnanos] at hnanosecond ⊢
    split <;> omega
  rw [← offset_zoneOf_eq_iff, DateTime.instant, instant, Instant.mk.injEq, hnanos, hseconds]
  simp only [written, hyear_nat, utcSecond, and_true]
  omega

theorem Writable.told_by_written (h : t.Writable) : t.ToldBy t.written where
  date := ⟨Int.toNat_of_nonneg h.year.1, rfl, rfl⟩
  time := ⟨rfl, rfl⟩
  second := h.second_written
  nanosecond := t.nanosecond_written
  fraction_eq_nil_iff := fractionDigits_eq_nil_iff (mod_nanosPerSecond_lt _)
  length_fraction_le := length_fractionDigits_le (mod_nanosPerSecond_lt _)
  getLast?_fraction_ne := getLast?_fractionDigits_ne _
  zone_eq_utc_iff := zoneOf_eq_utc_iff
  zone_of_ne_zero := zoneOf_of_ne_zero
  instant_eq_iff := h.instant_written_eq_iff h.year.1

/-- At the same local time, instants differ by the offsets alone. -/
theorem eq_of_instant_eq {u : Timestamp} (hdate : t.year = u.year ∧ t.month = u.month ∧
    t.day = u.day) (htime : t.hour = u.hour ∧ t.minute = u.minute ∧ t.second = u.second)
    (hinstant : t.instant = u.instant) : t = u := by
  obtain ⟨year, month, day, hour, minute, second, nanosecond, offset⟩ := t
  obtain ⟨rfl, rfl, rfl⟩ := hdate
  obtain ⟨rfl, rfl, rfl⟩ := htime
  obtain ⟨hseconds, hnanosecond⟩ := Instant.mk.inj hinstant
  have hoffset : offset = u.offset := by
    simp only [utcSecond] at hseconds
    omega
  subst hoffset hnanosecond
  rfl

/-- Of timestamps that are told alike, those with offsets of whole minutes are the same. -/
theorem ToldBy.eq {u : Timestamp} {d : DateTime} (ht : t.ToldBy d) (hu : u.ToldBy d)
    (htvalid : t.Valid) (huvalid : u.Valid) (htoffset : 60 ∣ t.offset) (huoffset : 60 ∣ u.offset) :
    t = u := by
  obtain ⟨hyear, hmonth, hday⟩ := ht.date
  obtain ⟨hyear', hmonth', hday'⟩ := hu.date
  obtain ⟨hhour, hminute⟩ := ht.time
  obtain ⟨hhour', hminute'⟩ := hu.time
  have hsecond : t.second = u.second := by
    have hsame := ht.second.symm.trans hu.second
    have hleap := htvalid.nanosecond
    have hleap' := huvalid.nanosecond
    have hlt := htvalid.second
    have hlt' := huvalid.second
    split at hsame <;> split at hsame <;> omega
  have hinstant : t.instant = u.instant :=
    (ht.instant_eq_iff.2 htoffset).symm.trans (hu.instant_eq_iff.2 huoffset)
  exact eq_of_instant_eq
    ⟨hyear.symm.trans hyear', hmonth.symm.trans hmonth', hday.symm.trans hday'⟩
    ⟨hhour.symm.trans hhour', hminute.symm.trans hminute', hsecond⟩ hinstant

/-- The text of a timestamp is read as what it tells: the local time to the nanosecond and the
offset to the minute. Timestamps whose offsets are whole minutes have the same text only if they are
the same. -/
theorem rfc3339_tells (h : t.Writable) :
    (∃ d, DateTime.read? t.rfc3339 = some d ∧ t.ToldBy d) ∧
    ∀ u : Timestamp, u.Writable → 60 ∣ t.offset → 60 ∣ u.offset → t.rfc3339 = u.rfc3339 →
      t = u := by
  refine ⟨⟨t.written, read?_rfc3339 h, h.told_by_written⟩, ?_⟩
  intro u hu htoffset huoffset htext
  have hread : some t.written = some u.written := by
    rw [← read?_rfc3339 h, ← read?_rfc3339 hu, htext]
  have htold := hu.told_by_written
  rw [← Option.some.inj hread] at htold
  exact h.told_by_written.eq htold h.toValid hu.toValid htoffset huoffset

end Writable

/-- A time within a leap second. -/
def leapSecond (offset : Int) : Timestamp where
  year := 2016
  month := 12
  day := 31
  hour := 18
  minute := 29
  second := 59
  nanosecond := 1000000120
  offset

theorem writable_leapSecond {offset : Int} (h : offset.natAbs < 86370) :
    (leapSecond offset).Writable where
  month := (by decide : 1 ≤ 12 ∧ 12 ≤ 12)
  day := (by decide : 1 ≤ 31 ∧ 31 ≤ daysIn 2016 12)
  hour := (by decide : 18 < 24)
  minute := (by decide : 29 < 60)
  second := (by decide : 59 < 60)
  nanosecond := .inr (by decide : 59 = 59 ∧ 1000000120 < 2 * nanosPerSecond)
  year := (by decide : (0 : Int) ≤ 2016 ∧ (2016 : Int) ≤ 9999)
  offset := h

/-- A second less than five hours and a half is rounded, so another instant is told. -/
theorem rfc3339_tells_leapSecond :
    (leapSecond (-19799)).Writable ∧
    (∃ d, DateTime.read? "2016-12-31T18:29:60.00000012-05:30" = some d ∧
      (leapSecond (-19799)).ToldBy d ∧ d.instant ≠ (leapSecond (-19799)).instant) ∧
    (leapSecond (-19800)).rfc3339 ≠ (leapSecond (-19740)).rfc3339 := by
  have hwritable : (leapSecond (-19799)).Writable := writable_leapSecond (by decide)
  have hwritable' : (leapSecond (-19800)).Writable := writable_leapSecond (by decide)
  have htext : (leapSecond (-19799)).rfc3339 = "2016-12-31T18:29:60.00000012-05:30" := by
    decide
  obtain ⟨d, hread, htold⟩ := (rfc3339_tells hwritable).1
  rw [htext] at hread
  have hrounded : d.instant ≠ (leapSecond (-19799)).instant :=
    fun heq => absurd (htold.instant_eq_iff.1 heq) (by decide)
  refine ⟨hwritable, ⟨d, hread, htold, hrounded⟩, fun heq => ?_⟩
  have hsame := (rfc3339_tells hwritable').2 _ (writable_leapSecond (by decide)) (by decide)
    (by decide) heq
  exact absurd hsame (by decide)

end Timestamp

end VectorQuery
