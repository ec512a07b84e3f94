import Floorplan.Text.Blank
import Floorplan.Text.Digit

set_option autoImplicit false

/-! # Timestamps

A message carries the time at which it was written, in universal time with a resolution of a
nanosecond. A leap second is the second before it with a second or more of nanoseconds.

The written form is that of RFC 3339 with the fewest groups of three fraction digits. Reading is
relaxed: white space may stand in front of every part, numbers may be short, the date may be followed
by a space, and any offset is converted. -/

namespace Floorplan

/-- A day of the calendar that was extended to all years. -/
structure Date where
  year : Int
  month : Nat
  day : Nat
  deriving DecidableEq, Repr

namespace Date

/-- Does the year have a leap day? -/
def isLeapYear (year : Int) : Bool := year % 4 = 0 && (year % 100 ≠ 0 || year % 400 = 0)

/-- The days of a month. -/
def daysInMonth (year : Int) (month : Nat) : Nat :=
  if month = 2 then (if isLeapYear year then 29 else 28)
  else if month = 4 ∨ month = 6 ∨ month = 9 ∨ month = 11 then 30 else 31

/-- The first and the last year that can be written. -/
def years : Int × Int := (-262143, 262142)

/-- Is it a day of the calendar? -/
def isValid (d : Date) : Bool :=
  years.1 ≤ d.year && d.year ≤ years.2 && 1 ≤ d.month && d.month ≤ 12 && 1 ≤ d.day &&
    d.day ≤ daysInMonth d.year d.month

/-- Days since the first of January 1970. Years are counted from March, so that the leap day is the
last of its year. -/
def toDays (d : Date) : Int :=
  let year := if d.month ≤ 2 then d.year - 1 else d.year
  let month : Int := if d.month ≤ 2 then d.month + 9 else d.month - 3
  let cycle := year.fdiv 400
  let yearOfCycle := year - cycle * 400
  let dayOfYear := (153 * month + 2) / 5 + d.day - 1
  cycle * 146097 + yearOfCycle * 365 + yearOfCycle / 4 - yearOfCycle / 100 + dayOfYear - 719468

/-- The day that is a number of days after the first of January 1970. -/
def ofDays (days : Int) : Date :=
  let shifted := days + 719468
  let cycle := shifted.fdiv 146097
  let dayOfCycle := shifted - cycle * 146097
  let yearOfCycle :=
    (dayOfCycle - dayOfCycle / 1460 + dayOfCycle / 36524 - dayOfCycle / 146096) / 365
  let dayOfYear := dayOfCycle - (365 * yearOfCycle + yearOfCycle / 4 - yearOfCycle / 100)
  let month := (5 * dayOfYear + 2) / 153
  let day := (dayOfYear - (153 * month + 2) / 5 + 1).toNat
  let year := yearOfCycle + cycle * 400
  if month < 10 then ⟨year, (month + 3).toNat, day⟩ else ⟨year + 1, (month - 9).toNat, day⟩

end Date

/-- Seconds since the beginning of 1970, and nanoseconds. -/
structure Timestamp where
  seconds : Int
  nanos : Nat
  deriving DecidableEq, Repr

namespace Timestamp

/-- The time a number of nanoseconds after the beginning of 1970. -/
def ofNanos (ns : Nat) : Timestamp := ⟨ns / 1000000000, ns % 1000000000⟩

/-- The date. -/
def date (t : Timestamp) : Date := Date.ofDays (t.seconds.fdiv 86400)

/-- The second of the day. -/
def secondOfDay (t : Timestamp) : Nat := (t.seconds.fmod 86400).toNat

/-- The hour. -/
def hour (t : Timestamp) : Nat := t.secondOfDay / 3600

/-- The minute. -/
def minute (t : Timestamp) : Nat := t.secondOfDay / 60 % 60

/-! ## Writing -/

/-- A number with at least `width` digits. -/
def padded (width n : Nat) : List Char :=
  let ds := Nat.toDigits 10 n
  List.replicate (width - ds.length) '0' ++ ds

/-- The year: four digits, or beyond those a sign and at least four. -/
def yearChars (year : Int) : List Char :=
  if 0 ≤ year ∧ year ≤ 9999 then padded 4 year.toNat
  else (if year < 0 then '-' else '+') :: padded 4 year.natAbs

/-- The fraction of a second: nothing, or as many groups of three digits as it takes. -/
def fractionChars (nanos : Nat) : List Char :=
  if nanos = 0 then []
  else if nanos % 1000000 = 0 then '.' :: padded 3 (nanos / 1000000)
  else if nanos % 1000 = 0 then '.' :: padded 6 (nanos / 1000)
  else '.' :: padded 9 nanos

/-- The hours and minutes, as the transcript shows them. -/
def clockChars (t : Timestamp) : List Char := padded 2 t.hour ++ ':' :: padded 2 t.minute

/-- The timestamp as text. -/
def chars (t : Timestamp) : List Char :=
  let d := t.date
  let leap := t.nanos / 1000000000
  yearChars d.year ++ '-' :: padded 2 d.month ++ '-' :: padded 2 d.day ++ 'T' :: t.clockChars ++
    ':' :: padded 2 (t.secondOfDay % 60 + leap) ++ fractionChars (t.nanos % 1000000000) ++ ['Z']

/-- The timestamp as text. -/
def toText (t : Timestamp) : String := String.ofList t.chars

/-! ## Reading -/

/-- Reads at most `width` digits, and at least one. -/
def readNumber? (width : Nat) (s : List Char) : Option (Nat × List Char) :=
  let digits := (s.take width).takeWhile fun c => (Text.digitValue? c).isSome
  (Text.decimal? digits).map fun n => (n, s.drop digits.length)

/-- Reads a number of at most two digits that white space may precede. -/
def readPart? (s : List Char) : Option (Nat × List Char) := readNumber? 2 (Text.trimLeft s)

/-- Reads a character that white space may precede. -/
def readMark? (c : Char) (s : List Char) : Option (List Char) :=
  match Text.trimLeft s with
  | x :: rest => if x = c then some rest else none
  | [] => none

/-- Reads a year that white space may precede: at most four digits, or any number behind a sign. -/
def readYear? (s : List Char) : Option (Int × List Char) :=
  match Text.trimLeft s with
  | '-' :: rest => (readNumber? rest.length rest).map fun (n, left) => (-(n : Int), left)
  | '+' :: rest => (readNumber? rest.length rest).map fun (n, left) => ((n : Int), left)
  | rest => (readNumber? 4 rest).map fun (n, left) => ((n : Int), left)

/-- Reads the fraction of a second as nanoseconds, if there is one. Digits beyond the ninth are
skipped. -/
def readFraction? : List Char → Option (Nat × List Char)
  | '.' :: rest =>
    let digits := rest.takeWhile fun c => (Text.digitValue? c).isSome
    let kept := digits.take 9
    (Text.decimal? kept).map fun n => (n * Nat.pow 10 (9 - kept.length), rest.drop digits.length)
  | s => some (0, s)

/-- Reads exactly two digits. -/
def readTwo? : List Char → Option (Nat × List Char)
  | a :: b :: rest => do
    let high ← Text.digitValue? a
    let low ← Text.digitValue? b
    return (high * 10 + low, rest)
  | _ => none

/-- Reads hours and minutes of an offset behind its sign, as seconds less than a day. Colons and white
space may stand between them. -/
def readHours? (s : List Char) : Option (Nat × List Char) := do
  let (hours, s) ← readTwo? s
  let (minutes, s) ← readTwo? (s.dropWhile fun c => c = ':' || Text.isBlank c)
  if minutes < 60 ∧ hours * 3600 + minutes * 60 < 86400 then
    some (hours * 3600 + minutes * 60, s)
  else none

/-- Reads the offset from universal time in seconds: a letter Z, the letters UTC, or hours and minutes
with a sign. -/
def readOffset? : List Char → Option (Int × List Char)
  | 'Z' :: rest => some (0, rest)
  | 'z' :: rest => some (0, rest)
  | '+' :: rest => (readHours? rest).map fun (n, left) => ((n : Int), left)
  | '-' :: rest => (readHours? rest).map fun (n, left) => (-(n : Int), left)
  | '−' :: rest => (readHours? rest).map fun (n, left) => (-(n : Int), left)
  | a :: b :: c :: rest => if [a, b, c].map Char.toLower = ['u', 't', 'c'] then some (0, rest) else none
  | _ => none

/-- Reads the separator of date and time. -/
def readSeparator? : List Char → Option (List Char)
  | 'T' :: rest => some rest
  | 't' :: rest => some rest
  | ' ' :: rest => some rest
  | _ => none

/-- Reads a date. -/
def readDate? (s : List Char) : Option (Date × List Char) := do
  let (year, s) ← readYear? s
  let s ← readMark? '-' s
  let (month, s) ← readPart? s
  let s ← readMark? '-' s
  let (day, s) ← readPart? s
  return (⟨year, month, day⟩, s)

/-- Reads a time of day as seconds and nanoseconds; the sixtieth second is a leap second. -/
def readTime? (s : List Char) : Option ((Nat × Nat) × List Char) := do
  let (hour, s) ← readPart? s
  let s ← readMark? ':' s
  let (minute, s) ← readPart? s
  let s ← readMark? ':' s
  let (second, s) ← readPart? s
  let (nanos, s) ← readFraction? s
  if hour < 24 ∧ minute < 60 ∧ second ≤ 60 then
    let leap := second / 60
    some ((hour * 3600 + minute * 60 + (second - leap), nanos + leap * 1000000000), s)
  else none

/-- The timestamp that a text denotes. Before and after the conversion to universal time the date must
be one of the calendar. -/
def ofText? (text : String) : Option Timestamp := do
  let (date, s) ← readDate? text.toList
  let s ← readSeparator? s
  let ((seconds, nanos), s) ← readTime? s
  let (offset, s) ← readOffset? (Text.trimLeft s)
  let t : Timestamp := ⟨date.toDays * 86400 + seconds - offset, nanos⟩
  if date.isValid && t.date.isValid && (Text.trimLeft s).isEmpty then some t else none

end Timestamp

end Floorplan
