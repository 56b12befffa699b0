import SqlBuilder.Number.Digits

/-!
# Dates and times

Dates of the proleptic Gregorian calendar, times of day to the microsecond, and their ISO 8601 text.
A time may carry its offset from UTC, in seconds.
-/

namespace SqlBuilder

structure Date where
  year : Nat
  month : Nat
  day : Nat
  deriving DecidableEq, Repr

structure TimeOfDay where
  hour : Nat
  minute : Nat
  second : Nat
  microsecond : Nat
  offset : Option Int
  deriving DecidableEq, Repr

structure DateTime where
  date : Date
  time : TimeOfDay
  deriving DecidableEq, Repr

open Number (padded)

namespace Date

def isLeap (year : Nat) : Bool := year % 4 == 0 && (year % 100 != 0 || year % 400 == 0)

def daysInMonth (year month : Nat) : Nat :=
  if month = 2 then (if isLeap year then 29 else 28)
  else if month = 4 ∨ month = 6 ∨ month = 9 ∨ month = 11 then 30 else 31

def isValid (d : Date) : Bool :=
  1 ≤ d.year && d.year ≤ 9999 && 1 ≤ d.month && d.month ≤ 12 && 1 ≤ d.day
    && d.day ≤ daysInMonth d.year d.month

def text (d : Date) : String := padded 4 d.year ++ "-" ++ padded 2 d.month ++ "-" ++ padded 2 d.day

/-- Days before the first of January of `year`. -/
def daysBeforeYear (year : Nat) : Nat :=
  let before := year - 1
  before * 365 + before / 4 - before / 100 + before / 400

/-- Days of the first `months` months of `year`. -/
def daysOfMonths (year : Nat) : (months : Nat) → Nat
  | 0 => 0
  | months + 1 => daysOfMonths year months + daysInMonth year (months + 1)

/-- Days before the date, counted from the first of January of the year 1. -/
def ordinal (d : Date) : Nat :=
  daysBeforeYear d.year + daysOfMonths d.year (d.month - 1) + (d.day - 1)

end Date

namespace TimeOfDay

def isValid (t : TimeOfDay) : Bool :=
  t.hour < 24 && t.minute < 60 && t.second < 60 && t.microsecond < 1000000
    && t.offset.all (fun seconds => seconds.natAbs < 86400)

/-- `+HH:MM`, and the seconds if there are any. -/
def offsetText (seconds : Int) : String :=
  let size := seconds.natAbs
  (if seconds < 0 then "-" else "+") ++ padded 2 (size / 3600) ++ ":" ++ padded 2 (size / 60 % 60)
    ++ (if size % 60 = 0 then "" else ":" ++ padded 2 (size % 60))

/-- `HH:MM:SS`, microseconds if there are any, and the offset. -/
def text (t : TimeOfDay) : String :=
  padded 2 t.hour ++ ":" ++ padded 2 t.minute ++ ":" ++ padded 2 t.second
    ++ (if t.microsecond = 0 then "" else "." ++ padded 6 t.microsecond)
    ++ (t.offset.map offsetText).getD ""

/-- Microseconds since midnight. -/
def microseconds (t : TimeOfDay) : Nat :=
  ((t.hour * 60 + t.minute) * 60 + t.second) * 1000000 + t.microsecond

end TimeOfDay

namespace DateTime

def isValid (m : DateTime) : Bool := m.date.isValid && m.time.isValid

/-- Date and time with `separator` between them. -/
def textWith (separator : String) (m : DateTime) : String :=
  m.date.text ++ separator ++ m.time.text

def text (m : DateTime) : String := m.textWith "T"

/-- Microseconds since the start of the calendar, by the clock on the wall. -/
def wallMicroseconds (m : DateTime) : Int := m.date.ordinal * 86400000000 + m.time.microseconds

end DateTime

/-! ## Reading -/

/-- The value of the first `width` characters if they are digits, and the rest. -/
def fixedDigits? (width : Nat) (cs : List Char) : Option (Nat × List Char) :=
  let digits := cs.take width
  if digits.length = width && digits.all Char.isDigit then
    some (Number.digitsValue digits, cs.drop width)
  else none

namespace Date

/-- A year of four digits, month and day of two, with or without hyphens. -/
def read? (cs : List Char) : Option (Date × List Char) := do
  let (year, cs) ← fixedDigits? 4 cs
  let hyphened := cs.head? == some '-'
  let (month, cs) ← fixedDigits? 2 (if hyphened then cs.drop 1 else cs)
  if hyphened && cs.head? != some '-' then none
  let (day, cs) ← fixedDigits? 2 (if hyphened then cs.drop 1 else cs)
  return ({ year, month, day }, cs)

def ofText? (s : String) : Option Date :=
  match read? s.toList with
  | some (d, []) => if d.isValid then some d else none
  | _ => none

end Date

namespace TimeOfDay

/-- Hours, and if given minutes, seconds and fractions of a second. -/
def readClock? (cs : List Char) : Option (Nat × Nat × Nat × Nat) := do
  let (hour, cs) ← fixedDigits? 2 cs
  if cs.isEmpty then return (hour, 0, 0, 0)
  let (minute, cs) ← fixedDigits? 2 (if cs.head? == some ':' then cs.drop 1 else cs)
  if cs.isEmpty then return (hour, minute, 0, 0)
  let (second, cs) ← fixedDigits? 2 (if cs.head? == some ':' then cs.drop 1 else cs)
  match cs with
  | [] => return (hour, minute, second, 0)
  | c :: fraction =>
    if (c == '.' || c == ',') && !fraction.isEmpty && fraction.all Char.isDigit then
      let six := (fraction ++ List.replicate 6 '0').take 6
      return (hour, minute, second, Number.digitsValue six)
    else none

/-- The offset after its sign. -/
def readOffset? (negative : Bool) (cs : List Char) : Option Int := do
  let (hour, minute, second, _) ← readClock? cs
  let seconds : Int := (hour * 60 + minute) * 60 + second
  return if negative then -seconds else seconds

def ofChars? (cs : List Char) : Option TimeOfDay := do
  let clock := cs.takeWhile fun c => c != '+' && c != '-' && c != 'Z'
  let (hour, minute, second, microsecond) ← readClock? clock
  let offset ← match cs.drop clock.length with
    | [] => some none
    | ['Z'] => some (some 0)
    | '+' :: zone => (readOffset? false zone).map some
    | '-' :: zone => (readOffset? true zone).map some
    | _ => none
  let t : TimeOfDay := { hour, minute, second, microsecond, offset }
  if t.isValid then some t else none

def ofText? (s : String) : Option TimeOfDay :=
  ofChars? (if s.toList.head? == some 'T' then s.toList.drop 1 else s.toList)

end TimeOfDay

/-- A date, or a date and a time after any one character. -/
def DateTime.ofText? (s : String) : Option DateTime := do
  let (date, rest) ← Date.read? s.toList
  let time ← match rest with
    | [] => some { hour := 0, minute := 0, second := 0, microsecond := 0, offset := none }
    | _ :: cs => TimeOfDay.ofChars? cs
  if date.isValid then some { date, time } else none

end SqlBuilder
