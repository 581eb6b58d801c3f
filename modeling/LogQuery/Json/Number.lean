import LogQuery.Decimal.Reader
import LogQuery.Json.Basic

/-!
# Numbers in JSON

A number is an optional minus sign, digits without superfluous leading zeros, an optional fraction
and an optional exponent. Without fraction and exponent it is a whole number as long as its digits
fit sixty-four unsigned bits, or with the minus sign sixty-four signed bits; minus zero is a
floating-point number.

Any other number is a floating-point number computed from at most sixty-four bits of its digits: the
digits before the point that no longer fit are counted as powers of ten, those after the point are
dropped, and the significand is then multiplied or divided by one power of ten. This rounds twice,
so the result can differ from the nearest floating-point number in the last place. A number beyond
the range of floating-point numbers denotes nothing.
-/

namespace LogQuery.Json

open LogQuery.Decimal

/-- The parts of a number as they are written. -/
structure Numeral where
  /-- Whether it starts with a minus sign. -/
  negative : Bool
  /-- The digits before the point. -/
  whole : List Char
  /-- The digits after the point, empty when there is no point. -/
  fraction : List Char
  /-- The sign and the digits of the exponent. -/
  exponent : Option (Bool × List Char)

/-- The greatest significand, one below the first number that needs sixty-five bits. -/
def maxSignificand : Nat := UInt64.size - 1

/-- The greatest size of an exponent. -/
def maxExponent : Int := 0x7FFFFFFF

/-- The significand after the digits before the point, with how many of them did not fit. -/
def wholeSignificand (n : Nat) : List Char → Nat × Nat
  | [] => (n, 0)
  | c :: rest =>
    let next := digitsValueFrom n [c]
    if next ≤ maxSignificand then wholeSignificand next rest else (n, rest.length + 1)

/-- The significand after the digits behind the point, with how many of them did fit. -/
def fractionSignificand (n : Nat) : List Char → Nat × Nat
  | [] => (n, 0)
  | c :: rest =>
    let next := digitsValueFrom n [c]
    if next ≤ maxSignificand then
      let (significand, places) := fractionSignificand next rest
      (significand, places + 1)
    else (n, 0)

/-- A number divided by `10 ^ places`, by no more than `10 ^ 308` at a time; after so many divisions
every number is zero. -/
def scaleDown (x : Float) (places : Nat) : (divisions : Nat) → Float
  | 0 => 0
  | divisions + 1 =>
    if places ≤ 308 then x / Float.ofScientific 1 false places
    else scaleDown (x / Float.ofScientific 1 false 308) (places - 308) divisions

/-- The floating-point number `significand · 10 ^ exponent`, unless it is out of range. -/
def scale? (significand : Nat) (exponent : Int) : Option Float :=
  let x := Float.ofNat significand
  if exponent < 0 then some (scaleDown x exponent.natAbs 4)
  else if significand = 0 then some 0
  else if 308 < exponent then none
  else
    let scaled := x * Float.ofScientific 1 false exponent.toNat
    if scaled.isInf then none else some scaled

/-- The size of a floating-point numeral, unless it is out of range. -/
def Numeral.magnitude? (numeral : Numeral) : Option Float :=
  let (n, dropped) := wholeSignificand 0 numeral.whole
  let (significand, places) := fractionSignificand n numeral.fraction
  let start : Int := dropped - places
  match numeral.exponent with
  | none => scale? significand start
  | some (negative, ds) =>
    let size : Int := digitsValue ds
    if maxExponent < size then
      if significand ≠ 0 ∧ ¬ negative then none else some 0
    else
      let exponent := if negative then start - size else start + size
      scale? significand (max (-maxExponent - 1) (min maxExponent exponent))

/-- The document that a numeral denotes. -/
def Numeral.toJson (numeral : Numeral) : Json :=
  let n := digitsValue numeral.whole
  if numeral.fraction.isEmpty && numeral.exponent.isNone && n ≤ maxSignificand then
    if ¬ numeral.negative then .integer n
    else if n = 0 then .float (-0.0)
    else if n ≤ 0x8000000000000000 then .integer (-n)
    else .float (-Float.ofNat n)
  else
    match numeral.magnitude? with
    | some x => .float (if numeral.negative then -x else x)
    | none => .meaningless

/-- The exponent that a text starts with, if it has one; a mark without digits is an error. -/
def exponentPart? : List Char → Option (Option (Bool × List Char) × List Char)
  | mark :: rest =>
    if mark = 'e' ∨ mark = 'E' then
      let (negative, rest) := match rest with
        | '-' :: rest => (true, rest)
        | '+' :: rest => (false, rest)
        | rest => (false, rest)
      match rest.takeWhile isDigit with
      | [] => none
      | ds => some (some (negative, ds), rest.dropWhile isDigit)
    else some (none, mark :: rest)
  | [] => some (none, [])

/-- The fraction that a text starts with, if it has one; a point without digits is an error. -/
def fractionPart? : List Char → Option (List Char × List Char)
  | '.' :: rest =>
    match rest.takeWhile isDigit with
    | [] => none
    | ds => some (ds, rest.dropWhile isDigit)
  | rest => some ([], rest)

/-- The numeral that a text starts with, and what follows it. -/
def numeral? (s : List Char) : Option (Numeral × List Char) := do
  let (negative, s) := match s with
    | '-' :: rest => (true, rest)
    | rest => (false, rest)
  let whole := s.takeWhile isDigit
  if whole.isEmpty || (whole.head? == some '0' && 1 < whole.length) then none
  let (fraction, s) ← fractionPart? (s.dropWhile isDigit)
  let (exponent, s) ← exponentPart? s
  return (⟨negative, whole, fraction, exponent⟩, s)

end LogQuery.Json
