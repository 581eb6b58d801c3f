import LogQuery.Decimal.Shortest

/-!
# Written numbers

How the digits of a number are laid out as text. A whole number of any size is written with all its
digits. Of a floating-point number the shortest digits that read back are written, either
positionally or, where the style says so, in scientific notation; a style also says which of two
equally near decimals is taken and how a number without fraction ends. Where the number of digits
behind the point is fixed, the exact value is rounded to it.
-/

namespace LogQuery.Decimal

/-- The decisions that make up a way of writing floating-point numbers. -/
structure Style where
  /-- Which of two equally near decimals is written. -/
  tie : Tie
  /-- What follows the last digit of a positional number without fraction. -/
  wholeSuffix : List Char
  /-- The least and the greatest exponent of the leading digit that are written positionally;
  without them every exponent is. -/
  positional : Option (Int × Int)

/-- The decimal digits of a natural number. -/
def digits (n : Nat) : List Char := Nat.toDigits 10 n

/-- A whole number with its sign. -/
def wholeText (n : Int) : List Char :=
  if n < 0 then '-' :: digits n.natAbs else digits n.natAbs

/-- Digits of which the first `point` stand before the decimal point. -/
def positionalText (style : Style) (ds : List Char) (point : Int) : List Char :=
  if point ≤ 0 then ['0', '.'] ++ List.replicate (-point).toNat '0' ++ ds
  else if point < ds.length then ds.take point.toNat ++ '.' :: ds.drop point.toNat
  else ds ++ List.replicate (point.toNat - ds.length) '0' ++ style.wholeSuffix

/-- Digits with the exponent of the first one. -/
def scientificText (ds : List Char) (exponent : Int) : List Char :=
  let fraction := if ds.length ≤ 1 then [] else '.' :: ds.drop 1
  let sign := if exponent < 0 then '-' else '+'
  ds.take 1 ++ fraction ++ 'e' :: sign :: digits exponent.natAbs

/-- A decimal in the given style. -/
def Style.write (style : Style) (d : Scaled) : List Char :=
  let ds := digits d.digits
  let point := ds.length + d.exponent
  match style.positional with
  | some (least, greatest) =>
    if least ≤ point - 1 ∧ point - 1 ≤ greatest then positionalText style ds point
    else scientificText ds (point - 1)
  | none => positionalText style ds point

/-- A finite floating-point number in the given style. -/
def Style.writeFinite (style : Style) (x : Float) : List Char :=
  let bits := x.toBits
  let number := Binary.ofBits bits
  let magnitude : Scaled := if number.significand = 0 then ⟨0, 0⟩ else number.shortest style.tie
  if bits >>> 63 = 1 then '-' :: style.write magnitude else style.write magnitude

/-- The style of plain text: positional throughout, `3` rather than `3.0`. -/
def plain : Style where
  tie := .up
  wholeSuffix := []
  positional := none

/-- A floating-point number as plain text. -/
def floatText (x : Float) : List Char :=
  if x.isNaN then ['N', 'a', 'N']
  else if x.isInf then if x < 0 then ['-', 'i', 'n', 'f'] else ['i', 'n', 'f']
  else plain.writeFinite x

/-- A fraction rounded to the nearest whole number, halves to the even one. -/
def roundedQuotient (numerator denominator : Nat) : Nat :=
  let below := numerator / denominator
  match compare (2 * (numerator % denominator)) denominator with
  | .lt => below
  | .gt => below + 1
  | .eq => below + below % 2

/-- A floating-point number with a fixed number of digits behind the point, at least one. -/
def fixedText (places : Nat) (x : Float) : List Char :=
  if x.isNaN || x.isInf then floatText x
  else
    let bits := x.toBits
    let number := Binary.ofBits bits
    let scaled := roundedQuotient
      ((number.significand * Nat.pow 10 places) <<< number.exponent.toNat)
      (1 <<< (-number.exponent).toNat)
    let ds := digits scaled
    let ds := List.replicate (places + 1 - ds.length) '0' ++ ds
    let text := ds.take (ds.length - places) ++ '.' :: ds.drop (ds.length - places)
    if bits >>> 63 = 1 then '-' :: text else text

end LogQuery.Decimal
