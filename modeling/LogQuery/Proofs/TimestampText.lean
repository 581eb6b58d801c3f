import LogQuery.Proofs.Calendar
import LogQuery.Proofs.PaddedNumbers

/-!
# Written timestamps

The ways to write a timestamp and what is meant by them: the text, the hour of the day in UTC and
the instant. The hour depends on the instant only (`Written.hour_eq`): an offset moves the hour and
the instant by the same time, over the ends of hours, days and years.
-/

namespace LogQuery

open Decimal

namespace Time

/-! ## Written timestamps -/

/-- A date of a year with four digits. -/
structure Date where
  year : Nat
  month : Nat
  day : Nat
  year_lt : year < 10000
  valid : isDate year month day = true

/-- A time of day. -/
structure Clock where
  hour : Nat
  minute : Nat
  second : Nat
  /-- The digits of the fraction of the second; none when no fraction is written. -/
  fraction : List Char
  hour_lt : hour < 24
  minute_lt : minute < 60
  second_lt : second < 60
  isDigit_fraction : ∀ c ∈ fraction, isDigit c = true
  length_fraction : fraction.length ≤ 9

/-- The ways to write a timestamp. -/
inductive Written where
  /-- With the hours and minutes by which the clock is ahead of UTC or behind it. -/
  | offset (date : Date) (clock : Clock) (ahead : Bool) (hours : Fin 24) (minutes : Fin 60)
  /-- With the letter `Z` for UTC. -/
  | zulu (date : Date) (clock : Clock)
  /-- Without an offset. -/
  | plain (date : Date) (clock : Clock)
  /-- Without an offset and with a space in place of the letter `T`. -/
  | spaced (date : Date) (clock : Clock)
  | dateOnly (date : Date)

/-- Four digits for the year and two each for the month and the day, with hyphens between them. -/
def Date.text (d : Date) : List Char :=
  padded 4 d.year ++ '-' :: (padded 2 d.month ++ '-' :: padded 2 d.day)

/-- The digits of the fraction behind a point, if there are any. -/
def Clock.fractionText (c : Clock) : List Char :=
  if c.fraction = [] then [] else '.' :: c.fraction

/-- Two digits each for the hour, the minute and the second, with colons between them, and the
fraction. -/
def Clock.text (c : Clock) : List Char :=
  padded 2 c.hour ++ ':' :: (padded 2 c.minute ++ ':' :: (padded 2 c.second ++ c.fractionText))

/-- The sign, the hours and the minutes of an offset. -/
def offsetText (ahead : Bool) (hours minutes : Nat) : List Char :=
  (if ahead then '+' else '-') :: (padded 2 hours ++ ':' :: padded 2 minutes)

/-- A timestamp in the way in which it is written. -/
def Written.text : Written → List Char
  | offset date clock ahead hours minutes =>
    date.text ++ 'T' :: (clock.text ++ offsetText ahead hours minutes)
  | zulu date clock => date.text ++ 'T' :: (clock.text ++ ['Z'])
  | plain date clock => date.text ++ 'T' :: clock.text
  | spaced date clock => date.text ++ ' ' :: clock.text
  | dateOnly date => date.text

/-! ## What is written -/

/-- The hour of the day in UTC. -/
def Written.hour : Written → Int
  | offset _ clock true hours minutes =>
    ((clock.hour * 60 + clock.minute) - (hours * 60 + minutes) : Int) % 1440 / 60
  | offset _ clock false hours minutes =>
    ((clock.hour * 60 + clock.minute) + (hours * 60 + minutes) : Int) % 1440 / 60
  | zulu _ clock | plain _ clock | spaced _ clock => clock.hour
  | dateOnly _ => 0

/-- A day in nanoseconds since the beginning of the year zero. -/
def Date.nanos (d : Date) : Nat := dayOfDate d.year d.month d.day * 86400000000000

/-- A time of day in nanoseconds. -/
def Clock.nanos (c : Clock) : Nat :=
  ((c.hour * 60 + c.minute) * 60 + c.second) * 1000000000 +
    digitsValue c.fraction * 10 ^ (9 - c.fraction.length)

/-- The instant in nanoseconds since the beginning of the year zero in UTC. -/
def Written.instant : Written → Int
  | offset date clock true hours minutes =>
    (date.nanos + clock.nanos : Int) - (hours * 60 + minutes) * 60000000000
  | offset date clock false hours minutes =>
    (date.nanos + clock.nanos : Int) + (hours * 60 + minutes) * 60000000000
  | zulu date clock | plain date clock | spaced date clock => date.nanos + clock.nanos
  | dateOnly date => date.nanos

theorem Clock.nanos_bounds (c : Clock) :
    (c.hour * 60 + c.minute) * 60000000000 ≤ c.nanos ∧
      c.nanos < (c.hour * 60 + c.minute + 1) * 60000000000 := by
  have hfraction : digitsValue c.fraction * 10 ^ (9 - c.fraction.length) < 1000000000 := by
    calc digitsValue c.fraction * 10 ^ (9 - c.fraction.length)
        < 10 ^ c.fraction.length * 10 ^ (9 - c.fraction.length) :=
          Nat.mul_lt_mul_of_pos_right (digitsValue_lt c.isDigit_fraction) (Nat.pow_pos (by decide))
      _ = 1000000000 := by rw [← Nat.pow_add, Nat.add_sub_cancel' c.length_fraction]
  have hsecond := c.second_lt
  -- seconds and their fraction do not fill a minute
  unfold nanos
  generalize digitsValue c.fraction * 10 ^ (9 - c.fraction.length) = fraction at *
  omega

/-- The hour is the one that the instant has in UTC. -/
theorem Written.hour_eq (w : Written) : w.hour = w.instant / 3600000000000 % 24 := by
  cases w with
  | offset date clock ahead hours minutes =>
    have hclock := clock.nanos_bounds
    cases ahead
    · simp only [hour, instant, Date.nanos]
      omega
    · simp only [hour, instant, Date.nanos]
      omega
  | zulu date clock | plain date clock | spaced date clock =>
    have hclock := clock.nanos_bounds
    have hhour := clock.hour_lt
    have hminute := clock.minute_lt
    simp only [hour, instant, Date.nanos]
    omega
  | dateOnly date =>
    simp only [hour, instant, Date.nanos]
    omega

end Time

end LogQuery
