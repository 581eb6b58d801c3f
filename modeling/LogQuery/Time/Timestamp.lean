import LogQuery.Decimal.Reader
import LogQuery.Text.Split
import LogQuery.Time.Calendar

/-!
# Timestamps

A timestamp is read from a text in one of three forms, blank characters around it aside. The first
is the Internet form: every field with its full number of digits, date and time separated by the
letter `T` or a space, and an offset from UTC that is either the letter `Z` or hours and minutes
with a sign. The second is date and time without offset, which is then UTC, and the third is a date
alone, which is its midnight. In the last two forms a field may have fewer digits and blank
characters in front, and a year with a sign may have any number of digits.

All that is asked of a timestamp is the hour of its day in UTC.
-/

namespace LogQuery.Time

open LogQuery.Text LogQuery.Decimal

/-- A date with the time of day at some offset from UTC. -/
structure Timestamp where
  year : Int
  /-- The month, counted from one. -/
  month : Nat
  /-- The day of the month, counted from one. -/
  day : Nat
  hour : Nat
  minute : Nat
  /-- The second of the minute; sixty in a leap second. -/
  second : Nat
  /-- How many minutes the clock is ahead of UTC. -/
  offset : Int

/-- The years of which dates are kept. -/
def isKeptYear (year : Int) : Bool := -262143 ≤ year ∧ year ≤ 262142

/-- Whether the fields denote a date and a time of day. -/
def Timestamp.valid (t : Timestamp) : Bool :=
  isKeptYear t.year && isDate t.year t.month t.day && t.hour < 24 && t.minute < 60 && t.second ≤ 60

/-- The hour of the day in UTC. -/
def Timestamp.utcHour (t : Timestamp) : Nat :=
  (((t.hour * 60 + t.minute : Int) - t.offset) % 1440 / 60).toNat

/-- The number made of the digits that a text starts with, of which there are at least `least` and
of which at most `most` are taken. -/
def number? (least most : Nat) (s : List Char) : Option (Nat × List Char) :=
  let ds := (s.take most).takeWhile isDigit
  if ds.length < least then none else some (digitsValue ds, s.drop ds.length)

/-- The text behind a fraction of a second, if there is one; a point without digits is an error. -/
def skipFraction? : List Char → Option (List Char)
  | '.' :: rest => (run? isDigit rest).map (·.2)
  | rest => some rest

/-- The offset from UTC, in minutes, that ends a timestamp in the Internet form. -/
def offset? : List Char → Option Int
  | [] => none
  | sign :: rest =>
    if (sign = 'Z' ∨ sign = 'z') ∧ rest = [] then some 0
    else if sign = '+' ∨ sign = '-' ∨ sign = '\u2212' then do
      let (hours, rest) ← number? 2 2 rest
      let rest ← after? [':'] rest
      let (minutes, rest) ← number? 2 2 rest
      if rest ≠ [] ∨ 24 ≤ hours ∨ 60 ≤ minutes then none
      let size : Int := hours * 60 + minutes
      return if sign = '+' then size else -size
    else none

/-- A timestamp in the Internet form. -/
def internet? (s : List Char) : Option Timestamp := do
  let (year, s) ← number? 4 4 s
  let (month, s) ← number? 2 2 (← after? ['-'] s)
  let (day, s) ← number? 2 2 (← after? ['-'] s)
  let separator :: s := s | none
  if ¬ (separator = 'T' ∨ separator = 't' ∨ separator = ' ') then none
  let (hour, s) ← number? 2 2 s
  let (minute, s) ← number? 2 2 (← after? [':'] s)
  let (second, s) ← number? 2 2 (← after? [':'] s)
  let offset ← offset? (← skipFraction? s)
  return ⟨year, month, day, hour, minute, second, offset⟩

/-- A field of one or two digits after blank characters. -/
def field? (s : List Char) : Option (Nat × List Char) := number? 1 2 (trimStart s)

/-- A year of up to four digits, or of any number of digits after a sign. -/
def year? (s : List Char) : Option (Int × List Char) :=
  match trimStart s with
  | '-' :: rest => (number? 1 rest.length rest).map fun (n, rest) => (-(n : Int), rest)
  | '+' :: rest => (number? 1 rest.length rest).map fun (n, rest) => ((n : Int), rest)
  | rest => (number? 1 4 rest).map fun (n, rest) => ((n : Int), rest)

/-- A date, and what follows it. -/
def date? (s : List Char) : Option (Timestamp × List Char) := do
  let (year, s) ← year? s
  let (month, s) ← field? (← after? ['-'] s)
  let (day, s) ← field? (← after? ['-'] s)
  return (⟨year, month, day, 0, 0, 0, 0⟩, s)

/-- A date and a time of day with a separator in between; the separator is either the letter `T` or
any number of blank characters. -/
def local? (separator : List Char → Option (List Char)) (s : List Char) : Option Timestamp := do
  let (date, s) ← date? s
  let (hour, s) ← field? (← separator s)
  let (minute, s) ← field? (← after? [':'] s)
  let (second, s) ← field? (← after? [':'] s)
  match ← skipFraction? s with
  | [] => return { date with hour, minute, second }
  | _ => none

/-- A date alone. -/
def dateOnly? (s : List Char) : Option Timestamp := do
  match ← date? s with
  | (date, []) => return date
  | _ => none

/-- The timestamp that a text denotes: the first of the forms that the text has with fields that
denote a date and a time of day. -/
def timestamp? (s : List Char) : Option Timestamp :=
  let s := trim s
  [internet?, local? (after? ['T']), local? fun s => some (trimStart s), dateOnly?].findSome?
    fun form => (form s).filter Timestamp.valid

end LogQuery.Time
