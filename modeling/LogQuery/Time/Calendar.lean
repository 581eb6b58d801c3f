import LogQuery.Decimal.Layout

/-!
# Calendar

The proleptic Gregorian calendar: which dates exist, on which day a year begins, and which date a
day has. Days are counted from the first of January of the year zero. An instant is counted in
milliseconds from the beginning of the year 1970 and written with fields of fixed width, so that the
texts of instants are in the order of the instants.
-/

namespace LogQuery.Time

/-- Whether a year has a twenty-ninth of February. -/
def isLeap (year : Int) : Bool := year % 4 = 0 ∧ (year % 100 ≠ 0 ∨ year % 400 = 0)

/-- How many days the months of a year have. -/
def monthLengths (leap : Bool) : List Nat :=
  [31, if leap then 29 else 28, 31, 30, 31, 30, 31, 31, 30, 31, 30, 31]

/-- Whether a year has a day of this number in the month of this number. -/
def isDate (year : Int) (month day : Nat) : Bool :=
  match (monthLengths (isLeap year))[month - 1]? with
  | some length => 1 ≤ month ∧ 1 ≤ day ∧ day ≤ length
  | none => false

/-- How many days lie before a year that is not negative. -/
def daysBeforeYear (year : Nat) : Nat :=
  365 * year + (year + 3) / 4 + (year + 399) / 400 - (year + 99) / 100

/-- The year that a day belongs to: the last one that does not begin after it. -/
def yearOfDay (day : Nat) : Nat :=
  let guess := 400 * day / 146097
  if day < daysBeforeYear guess then guess - 1
  else if day < daysBeforeYear (guess + 1) then guess
  else guess + 1

/-- The month and the day of the month of a day of the year, both counted from one, `month` being
the month that the first of the lengths belongs to. -/
def monthAndDay (month : Nat) : List Nat → Nat → Nat × Nat
  | [], day => (month, day + 1)
  | length :: rest, day =>
    if day < length then (month, day + 1) else monthAndDay (month + 1) rest (day - length)

/-- Year, month and day of the month of a day. -/
def dateOfDay (day : Nat) : Nat × Nat × Nat :=
  let year := yearOfDay day
  (year, monthAndDay 1 (monthLengths (isLeap year)) (day - daysBeforeYear year))

/-- A number with zeros in front to fill `width` places. -/
def padded (width n : Nat) : List Char :=
  let ds := Decimal.digits n
  List.replicate (width - ds.length) '0' ++ ds

/-- How many milliseconds a day has. -/
def dayMillis : Nat := 86400000

/-- The day that begins the year 1970. -/
def epochDay : Nat := daysBeforeYear 1970

/-- Date and time of an instant, to the millisecond, in UTC. -/
def isoText (millis : Nat) : List Char :=
  let (year, month, day) := dateOfDay (epochDay + millis / dayMillis)
  let time := millis % dayMillis
  padded 4 year ++ '-' :: padded 2 month ++ '-' :: padded 2 day ++
    'T' :: padded 2 (time / 3600000) ++ ':' :: padded 2 (time / 60000 % 60) ++
    ':' :: padded 2 (time / 1000 % 60) ++ '.' :: padded 3 (time % 1000) ++ ['Z']

end LogQuery.Time
