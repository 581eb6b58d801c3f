/-!
# Shortest decimals

The decimal that stands for a binary floating-point number is the shortest of those that read back
as it, and of the shortest the nearest one. A finite number `m · 2 ^ q` is the nearest one to every
real between the midpoints to its two neighbours, and to the midpoints themselves when `m` is even.
So the grids of ever finer powers of ten are searched for a point of that interval. On each grid
only the two points next to the number matter: when any point of the grid lies in the interval, so
does one of these two.

All comparisons are made on natural numbers, after the powers of two and ten have been multiplied
out; nothing is rounded on the way.
-/

namespace LogQuery.Decimal

/-- A finite number without its sign: `significand · 2 ^ exponent`. -/
structure Binary where
  significand : Nat
  /-- The power of two it is scaled by. -/
  exponent : Int
  /-- Whether the number below is half as far away as the number above, which holds of the powers
  of two. -/
  narrowBelow : Bool

/-- A decimal `digits · 10 ^ exponent`. -/
structure Scaled where
  /-- The digits, read as a natural number. -/
  digits : Nat
  /-- The power of ten they are scaled by. -/
  exponent : Int

/-- What to do when two decimals of the same length are equally near. -/
inductive Tie where
  /-- Take the one with the even last digit. -/
  | toEven
  /-- Take the larger one. -/
  | up

/-- The number that the bits of a finite value denote, without its sign. -/
def Binary.ofBits (bits : UInt64) : Binary :=
  let biased := ((bits >>> 52) &&& 0x7FF).toNat
  let fraction := (bits &&& 0xFFFFFFFFFFFFF).toNat
  if biased = 0 then ⟨fraction, -1074, false⟩
  else ⟨fraction + 0x10000000000000, (biased : Int) - 1075, fraction = 0 ∧ 1 < biased⟩

/-- The number written out in full. -/
def Binary.exact (x : Binary) : Scaled :=
  if 0 ≤ x.exponent then ⟨x.significand <<< x.exponent.toNat, 0⟩
  else ⟨x.significand * Nat.pow 5 (-x.exponent).toNat, x.exponent⟩

/-- The multiple of `10 ^ scale` nearest to the number among those that read back as it. -/
def Binary.onGrid? (x : Binary) (tie : Tie) (scale : Int) : Option Nat :=
  let quarter := x.exponent - 2
  let up := Nat.pow 10 (-scale).toNat <<< quarter.toNat
  let unit := Nat.pow 10 scale.toNat <<< (-quarter).toNat
  let low := (4 * x.significand - if x.narrowBelow then 1 else 2) * up
  let number := 4 * x.significand * up
  let high := (4 * x.significand + 2) * up
  let readsBack (d : Nat) : Bool :=
    if x.significand % 2 = 0 then low ≤ d * unit && d * unit ≤ high
    else low < d * unit && d * unit < high
  let below := number / unit
  let above := below + 1
  match readsBack below, readsBack above with
  | true, false => some below
  | false, true => some above
  | false, false => none
  | true, true =>
    match compare (2 * number) ((below + above) * unit), tie with
    | .lt, _ => some below
    | .gt, _ => some above
    | .eq, .up => some above
    | .eq, .toEven => some (if below % 2 = 0 then below else above)

/-- A power of ten above the number: at least `log₁₀` of the power of two above it. -/
def Binary.topScale (x : Binary) : Int :=
  ((x.significand.log2 + x.exponent + 1) * 30103).fdiv 100000 + 2

/-- The shortest decimal that reads back as the number, the nearest one of that length. -/
def Binary.shortest (x : Binary) (tie : Tie) : Scaled :=
  let scales := (List.range 24).map fun (i : Nat) => x.topScale - (i : Int)
  match scales.findSome? fun scale => (x.onGrid? tie scale).map (Scaled.mk · scale) with
  | some decimal => decimal
  | none => x.exact

end LogQuery.Decimal
