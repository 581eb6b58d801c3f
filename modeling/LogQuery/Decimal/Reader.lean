import LogQuery.Decimal.Layout
import LogQuery.Text.Blank

/-!
# Reading numbers

Numbers in texts are read leniently. Blank characters around the number do not matter and a text of
nothing else reads as zero. Otherwise a number is an optional sign followed by the word `inf`,
`infinity` or `nan`, in letters of any size, or by decimal digits with an optional point and an
optional exponent, where at least one digit stands before or after the point. The number read is the
floating-point number nearest to the decimal. A text of any other form reads as no number at all,
the value `NaN`, which no comparison holds of.
-/

namespace LogQuery.Decimal

open LogQuery.Text

/-- Whether a character is one of the ten ASCII digits. -/
def isDigit (c : Char) : Bool := '0' ≤ c && c ≤ '9'

/-- The natural number that a row of digits denotes, `n` standing for the digits before it. -/
def digitsValueFrom (n : Nat) (ds : List Char) : Nat :=
  ds.foldl (fun n c => 10 * n + (c.toNat - '0'.toNat)) n

/-- The natural number that a row of digits denotes. -/
def digitsValue (ds : List Char) : Nat := digitsValueFrom 0 ds

/-- The digits of a number denote it. -/
theorem digitsValue_digits (n : Nat) : digitsValue (digits n) = n :=
  Nat.ofDigitChars_ten_toDigits

theorem isDigit_of_mem_digits {n : Nat} {c : Char} (h : c ∈ digits n) : isDigit c = true :=
  Nat.isDigit_of_mem_toDigits (by decide) (by decide) h

theorem digits_ne_nil (n : Nat) : digits n ≠ [] := Nat.toDigits_ne_nil

/-- The floating-point number nearest to `coefficient · 10 ^ exponent`. Beyond four hundred places
every number is infinite or zero, whatever its digits. -/
def nearest (coefficient : Nat) (exponent : Int) : Float :=
  let magnitude : Int := (Nat.toDigits 10 coefficient).length + exponent
  if coefficient = 0 ∨ magnitude < -400 then 0
  else if 400 < magnitude then 1 / 0
  else Float.ofScientific coefficient (exponent < 0) exponent.natAbs

/-- The exponent written at the end of a number: its value, or zero when there is none. -/
def exponent? : List Char → Option Int
  | [] => some 0
  | mark :: rest =>
    let (negative, ds) := match rest with
      | '-' :: ds => (true, ds)
      | '+' :: ds => (false, ds)
      | ds => (false, ds)
    if (mark = 'e' ∨ mark = 'E') ∧ ds ≠ [] ∧ ds.all isDigit then
      some (if negative then -(digitsValue ds : Int) else digitsValue ds)
    else none

/-- The number that digits, point and exponent denote. -/
def unsigned? (s : List Char) : Option Float :=
  let whole := s.takeWhile isDigit
  let (fraction, rest) := match s.dropWhile isDigit with
    | '.' :: rest => (rest.takeWhile isDigit, rest.dropWhile isDigit)
    | rest => ([], rest)
  if whole.isEmpty && fraction.isEmpty then none
  else (exponent? rest).map fun e => nearest (digitsValue (whole ++ fraction)) (e - fraction.length)

/-- The values that are written as words. -/
def named? (s : List Char) : Option Float :=
  match String.ofList (s.map Char.toLower) with
  | "inf" | "infinity" => some (1 / 0)
  | "nan" => some (0 / 0)
  | _ => none

/-- The number that a text denotes, without blank characters around it. -/
def float? (s : List Char) : Option Float :=
  let (negative, rest) := match s with
    | '-' :: rest => (true, rest)
    | '+' :: rest => (false, rest)
    | rest => (false, rest)
  ((unsigned? rest).or (named? rest)).map fun x => if negative then -x else x

/-- The number that a text is read as. -/
def read (s : List Char) : Float :=
  match trim s with
  | [] => 0
  | trimmed => (float? trimmed).getD (0 / 0)

end LogQuery.Decimal
