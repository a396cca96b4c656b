import ControlPlane.Number.Digits
import ControlPlane.Text.Blank

/-!
# Timestamps

Points in time on the calendar, with an offset from universal time. The control plane writes
them as `2024-01-31T10:00:00+0000`; reading is lenient about white space before numbers, short
or signed numbers, a sixtieth second and the separator inside the offset (`Timestamp.read`), and
strict about the date being one (`Timestamp.isValid`).

Main statement: `read_isValid` — whatever is read is a date and a time that exist.
-/
namespace ControlPlane

/-- A date and a time of day with an offset, in minutes, from universal time. -/
structure Timestamp where
  year : Int
  month : Nat
  day : Nat
  hour : Nat
  minute : Nat
  /-- Seconds; a leap second is the sixtieth. -/
  second : Nat
  offset : Int
  deriving DecidableEq, Repr

namespace Timestamp

/-! ## The calendar -/

/-- Whether a year has a leap day. -/
def isLeapYear (year : Int) : Bool :=
  year % 4 == 0 && (year % 100 != 0 || year % 400 == 0)

/-- The number of days in a month. -/
def daysInMonth (year : Int) (month : Nat) : Nat :=
  match month with
  | 2 => if isLeapYear year then 29 else 28
  | 4 | 6 | 9 | 11 => 30
  | _ => 31

/-- Days from the first of January 1970. -/
def dayNumber (year : Int) (month day : Nat) : Int :=
  let y := if month ≤ 2 then year - 1 else year
  let era := y.fdiv 400
  let yearOfEra := y - era * 400
  let monthFromMarch : Int := if month ≤ 2 then month + 9 else (month : Int) - 3
  let dayOfYear := (153 * monthFromMarch + 2).fdiv 5 + day - 1
  let dayOfEra := yearOfEra * 365 + yearOfEra.fdiv 4 - yearOfEra.fdiv 100 + dayOfYear
  era * 146097 + dayOfEra - 719468

/-- Year, month and day of a day number. -/
def civil (dayNumber : Int) : Int × Nat × Nat :=
  let z := dayNumber + 719468
  let era := z.fdiv 146097
  let dayOfEra := z - era * 146097
  let yearOfEra :=
    (dayOfEra - dayOfEra.fdiv 1460 + dayOfEra.fdiv 36524 - dayOfEra.fdiv 146096).fdiv 365
  let dayOfYear := dayOfEra - (365 * yearOfEra + yearOfEra.fdiv 4 - yearOfEra.fdiv 100)
  let monthFromMarch := (5 * dayOfYear + 2).fdiv 153
  let day := dayOfYear - (153 * monthFromMarch + 2).fdiv 5 + 1
  let month := if monthFromMarch < 10 then monthFromMarch + 3 else monthFromMarch - 9
  let year := yearOfEra + era * 400
  (if month ≤ 2 then year + 1 else year, month.toNat, day.toNat)

/-- The years that dates may lie in. -/
def isYearInRange (year : Int) : Bool :=
  decide (-262143 ≤ year) && decide (year ≤ 262142)

/-- Seconds from the first of January 1970 in universal time; a leap second counts as the one
before it. -/
def unixSeconds (t : Timestamp) : Int :=
  dayNumber t.year t.month t.day * 86400 + t.hour * 3600 + t.minute * 60 + min t.second 59 -
    t.offset * 60

/-- Whether a number of seconds since the first of January 1970 lies in a year of the range. -/
def isMomentInRange (seconds : Int) : Bool :=
  decide (dayNumber (-262143) 1 1 * 86400 ≤ seconds) &&
    decide (seconds < (dayNumber 262142 12 31 + 1) * 86400)

/-- Whether date, time and offset exist, also in universal time. -/
def isValid (t : Timestamp) : Bool :=
  isYearInRange t.year && decide (1 ≤ t.month) && decide (t.month ≤ 12) && decide (1 ≤ t.day) &&
    decide (t.day ≤ daysInMonth t.year t.month) && decide (t.hour ≤ 23) &&
    decide (t.minute ≤ 59) && decide (t.second ≤ 60) && decide (-1440 < t.offset) &&
    decide (t.offset < 1440) && isMomentInRange t.unixSeconds

/-! ## Writing -/

/-- A year in four digits, or with a sign and at least four digits outside that range. -/
def yearText (year : Int) : List Char :=
  match year with
  | .ofNat n => if n ≤ 9999 then Number.padded 4 n else '+' :: Number.padded 4 n
  | .negSucc n => '-' :: Number.padded 4 (n + 1)

/-- An offset as sign, hours and minutes. -/
def offsetText (offset : Int) : List Char :=
  let magnitude := offset.natAbs
  (if offset < 0 then ['-'] else ['+']) ++ Number.padded 2 (magnitude / 60) ++ [':'] ++
    Number.padded 2 (magnitude % 60)

/-- The timestamp in the notation of RFC 3339. -/
def rfc3339 (t : Timestamp) : String :=
  String.ofList (yearText t.year ++ ['-'] ++ Number.padded 2 t.month ++ ['-'] ++
    Number.padded 2 t.day ++ ['T'] ++ Number.padded 2 t.hour ++ [':'] ++
    Number.padded 2 t.minute ++ [':'] ++ Number.padded 2 t.second ++ offsetText t.offset)

/-! ## Reading -/

/-- The character expected next. -/
def expect (c : Char) : List Char → Option (List Char)
  | d :: rest => if c = d then some rest else none
  | [] => none

/-- Up to `width` digits, at least one. -/
def readDigits (width : Nat) (cs : List Char) : Option (Nat × List Char) :=
  let ds := (cs.take width).takeWhile Char.isDigit
  if ds.isEmpty then none else some (Number.foldDigits 0 ds, cs.drop ds.length)

/-- A two-digit number after white space. -/
def readField (cs : List Char) : Option (Nat × List Char) :=
  readDigits 2 (cs.dropWhile Text.isBlank)

/-- A year after white space: up to four digits, or any number after a sign. -/
def readYear (cs : List Char) : Option (Int × List Char) :=
  match cs.dropWhile Text.isBlank with
  | '-' :: rest => (readDigits rest.length rest).map fun (n, after) => (-(n : Int), after)
  | '+' :: rest => (readDigits rest.length rest).map fun (n, after) => ((n : Int), after)
  | rest => (readDigits 4 rest).map fun (n, after) => ((n : Int), after)

/-- Exactly two digits. -/
def readTwo : List Char → Option (Nat × List Char)
  | a :: b :: rest =>
    if a.isDigit && b.isDigit then some (10 * Number.digitValue a + Number.digitValue b, rest)
    else none
  | _ => none

/-- The sign of an offset. -/
def readSign : List Char → Option (Bool × List Char)
  | '+' :: rest => some (false, rest)
  | '-' :: rest => some (true, rest)
  | '−' :: rest => some (true, rest)
  | _ => none

/-- An offset of hours and minutes, with colons and white space allowed between them. -/
def readOffset (cs : List Char) : Option (Int × List Char) := do
  let (negative, cs) ← readSign (cs.dropWhile Text.isBlank)
  let (hours, cs) ← readTwo cs
  let (minutes, cs) ← readTwo (cs.dropWhile fun c => c == ':' || Text.isBlank c)
  if minutes ≤ 59 then
    let offset : Int := hours * 60 + minutes
    pure (if negative then -offset else offset, cs)
  else none

/-- Reads the fields of a timestamp. -/
def readFields (cs : List Char) : Option Timestamp := do
  let (year, cs) ← readYear cs
  let cs ← expect '-' cs
  let (month, cs) ← readField cs
  let cs ← expect '-' cs
  let (day, cs) ← readField cs
  let cs ← expect 'T' cs
  let (hour, cs) ← readField cs
  let cs ← expect ':' cs
  let (minute, cs) ← readField cs
  let cs ← expect ':' cs
  let (second, cs) ← readField cs
  let (offset, cs) ← readOffset cs
  if cs.isEmpty then pure { year, month, day, hour, minute, second, offset } else none

/-- Reads a timestamp. -/
def read (text : String) : Option Timestamp :=
  (readFields text.toList).filter isValid

theorem read_isValid {text : String} {t : Timestamp} (h : read text = some t) :
    t.isValid = true :=
  (Option.filter_eq_some_iff.1 h).2

/-! ## The wall clock -/

/-- A moment of the wall clock in universal time, from seconds and nanoseconds; the fraction is
written with three, six or nine digits, as many as it needs. -/
def universalText (seconds nanos : Nat) : String :=
  let (year, month, day) := civil (seconds / 86400 : Nat)
  let inDay := seconds % 86400
  let fraction :=
    if nanos = 0 then []
    else if nanos % 1000000 = 0 then '.' :: Number.padded 3 (nanos / 1000000)
    else if nanos % 1000 = 0 then '.' :: Number.padded 6 (nanos / 1000)
    else '.' :: Number.padded 9 nanos
  String.ofList (yearText year ++ ['-'] ++ Number.padded 2 month ++ ['-'] ++ Number.padded 2 day ++
    ['T'] ++ Number.padded 2 (inDay / 3600) ++ [':'] ++ Number.padded 2 (inDay / 60 % 60) ++
    [':'] ++ Number.padded 2 (inDay % 60) ++ fraction ++ ['Z'])

end Timestamp

end ControlPlane
