import MeshRoutes.Text.Blank
import MeshRoutes.Text.Numeral

/-!
# Points in time

Times are read with any offset and any fraction of a second, and they are kept in universal time, to
the nanosecond. They are written `2024-01-02T03:04:05Z`, without the fraction.

## Main definitions

* `CalendarTime`: a date and a time of day; `CalendarTime.IsValid`: whether the calendar has it.
* `Timestamp`: a point in universal time; `Timestamp.parse?`, `Timestamp.toText`.
* `Timestamp.inWholeSeconds`: the second in which a point in time lies.
-/

namespace MeshRoutes

/-- A date and a time of day, which the calendar may have or not. Months and days are counted from
one, and a leap second is second 60. -/
structure CalendarTime where
  year : Int
  month : Nat
  day : Nat
  hour : Nat
  minute : Nat
  second : Nat
deriving DecidableEq, Repr

namespace CalendarTime

/-- Whether a year has a 29th of February. -/
def isLeap (year : Int) : Bool := year % 4 == 0 && (year % 100 != 0 || year % 400 == 0)

/-- The number of days in a month. -/
def monthLength (year : Int) (month : Nat) : Nat :=
  if month == 2 then (if isLeap year then 29 else 28)
  else if month == 4 || month == 6 || month == 9 || month == 11 then 30 else 31

/-- Whether the calendar has the date and the time of day. Years further away than about a quarter
of a million are left out. -/
def IsValid (t : CalendarTime) : Prop :=
  (-262143 ≤ t.year ∧ t.year ≤ 262142) ∧ (1 ≤ t.month ∧ t.month ≤ 12) ∧
    (1 ≤ t.day ∧ t.day ≤ monthLength t.year t.month) ∧
    t.hour < 24 ∧ t.minute < 60 ∧ t.second ≤ 60

instance (t : CalendarTime) : Decidable t.IsValid := by
  unfold IsValid
  infer_instance

/-- The day after a date. -/
def nextDay (t : CalendarTime) : CalendarTime :=
  if t.day < monthLength t.year t.month then { t with day := t.day + 1 }
  else if t.month < 12 then { t with month := t.month + 1, day := 1 }
  else { t with year := t.year + 1, month := 1, day := 1 }

/-- The day before a date. -/
def previousDay (t : CalendarTime) : CalendarTime :=
  if 1 < t.day then { t with day := t.day - 1 }
  else if 1 < t.month then
    { t with month := t.month - 1, day := monthLength t.year (t.month - 1) }
  else { t with year := t.year - 1, month := 12, day := 31 }

/-- The time a number of minutes earlier, where less than a day is meant. -/
def minusMinutes (t : CalendarTime) (minutes : Int) : CalendarTime :=
  let total : Int := (t.hour * 60 + t.minute : Nat) - minutes
  let within := (total % 1440).toNat
  let clock := { t with hour := within / 60, minute := within % 60 }
  if total < 0 then clock.previousDay else if 1440 ≤ total then clock.nextDay else clock

end CalendarTime

/-- A point in universal time. -/
structure Timestamp extends CalendarTime where
  nanosecond : Nat
  isValid : toCalendarTime.IsValid
  nanosecond_lt : nanosecond < 1000000000
deriving DecidableEq, Repr

namespace Timestamp

/-- The point in universal time that a date and a time of day name. -/
def ofCalendar? (t : CalendarTime) (nanosecond : Nat) : Option Timestamp :=
  if valid : t.IsValid ∧ nanosecond < 1000000000 then some ⟨t, nanosecond, valid.1, valid.2⟩
  else none

/-- The second in which a point in time lies. -/
def inWholeSeconds (t : Timestamp) : Timestamp :=
  { t with nanosecond := 0, nanosecond_lt := by decide }

/-! ## Writing -/

/-- Digits in exactly the given number of places, filled with zeros. -/
def padded (places n : Nat) : List Char :=
  let digits := Text.decimalDigits n
  List.replicate (places - digits.length) '0' ++ digits

/-- A year in four digits. One that needs more, or lies before the year zero, has its sign in
front. -/
def yearText (year : Int) : List Char :=
  if 0 ≤ year ∧ year ≤ 9999 then padded 4 year.natAbs
  else (if year < 0 then '-' else '+') :: padded 4 year.natAbs

/-- The written form, in universal time and without the fraction of a second. -/
def toText (t : Timestamp) : String :=
  String.ofList (yearText t.year ++ '-' :: padded 2 t.month ++ '-' :: padded 2 t.day ++
    'T' :: padded 2 t.hour ++ ':' :: padded 2 t.minute ++ ':' :: padded 2 t.second ++ ['Z'])

/-! ## Reading

Each part of a time is read from the front of a text, with what follows it. -/

/-- All digits at the front. -/
def leadingDigits? (cs : List Char) : Option (Nat × List Char) :=
  (Text.digitsValue? 10 (cs.takeWhile Char.isDigit)).map (·, cs.dropWhile Char.isDigit)

/-- A number of at most so many digits, behind any blanks. -/
def number? (places : Nat) (cs : List Char) : Option (Nat × List Char) :=
  let cs := cs.dropWhile Text.isBlank
  let digits := (cs.take places).takeWhile Char.isDigit
  (Text.digitsValue? 10 digits).map (·, cs.drop digits.length)

/-- A year: at most four digits, or any number of digits behind a sign. -/
def year? (cs : List Char) : Option (Int × List Char) :=
  match cs.dropWhile Text.isBlank with
  | '+' :: cs => (leadingDigits? cs).map fun (n, rest) => ((n : Int), rest)
  | '-' :: cs => (leadingDigits? cs).map fun (n, rest) => (-(n : Int), rest)
  | cs => (number? 4 cs).map fun (n, rest) => ((n : Int), rest)

/-- What follows a mark, behind any blanks. -/
def afterMark? (mark : Char) (cs : List Char) : Option (List Char) :=
  match cs.dropWhile Text.isBlank with
  | c :: rest => if c == mark then some rest else none
  | [] => none

/-- What follows the mark between the date and the time of day. -/
def afterDate? : List Char → Option (List Char)
  | 'T' :: rest | 't' :: rest | ' ' :: rest => some rest
  | _ => none

/-- The nanoseconds of a fraction of a second. Digits behind the ninth do not count. -/
def fraction? : List Char → Option (Nat × List Char)
  | '.' :: cs =>
    let digits := cs.takeWhile Char.isDigit
    if digits.isEmpty then none
    else
      let nine := (digits ++ List.replicate 9 '0').take 9
      some (Text.decimalValue nine, cs.dropWhile Char.isDigit)
  | cs => some (0, cs)

/-- Two digits. -/
def twoDigits? : List Char → Option (Nat × List Char)
  | a :: b :: rest => (Text.digitsValue? 10 [a, b]).map (·, rest)
  | _ => none

/-- The minutes of an offset behind its sign. -/
def offsetMinutes? (cs : List Char) : Option (Nat × List Char) := do
  let (hours, rest) ← twoDigits? cs
  let (minutes, rest) ← twoDigits? (rest.dropWhile fun c => c == ':' || Text.isBlank c)
  if hours < 24 && minutes < 60 then some (hours * 60 + minutes, rest) else none

/-- The minutes by which an offset is ahead of universal time. -/
def offset? (cs : List Char) : Option (Int × List Char) :=
  if (cs.take 3).map Char.toUpper == ['U', 'T', 'C'] then some (0, cs.drop 3)
  else
    match cs with
    | 'Z' :: rest | 'z' :: rest => some (0, rest)
    | '+' :: cs => (offsetMinutes? cs).map fun (minutes, rest) => ((minutes : Int), rest)
    | '-' :: cs | '−' :: cs =>
      (offsetMinutes? cs).map fun (minutes, rest) => (-(minutes : Int), rest)
    | _ => none

/-- Reads a date, a time of day and an offset. -/
def parse? (text : String) : Option Timestamp := do
  let (year, rest) ← year? text.toList
  let (month, rest) ← number? 2 (← afterMark? '-' rest)
  let (day, rest) ← number? 2 (← afterMark? '-' rest)
  let (hour, rest) ← number? 2 (← afterDate? rest)
  let (minute, rest) ← number? 2 (← afterMark? ':' rest)
  let (second, rest) ← number? 2 (← afterMark? ':' rest)
  let (nanosecond, rest) ← fraction? rest
  let (offset, rest) ← offset? (rest.dropWhile Text.isBlank)
  let clock : CalendarTime := ⟨year, month, day, hour, minute, second⟩
  if clock.IsValid ∧ rest.all Text.isBlank then
    ofCalendar? (clock.minusMinutes offset) nanosecond
  else none

end Timestamp

end MeshRoutes
