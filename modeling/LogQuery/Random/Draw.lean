import LogQuery.Random.Keystream
import LogQuery.Text.Hex

/-!
# Drawing at random

What is drawn from a keystream: words, whole numbers below a bound that are all equally likely, rare
events, and random identifiers. A draw takes the words it needs from the front of the keystream.
-/

namespace LogQuery.Random

open Text

/-- A draw: a value made from words of a keystream, and the rest of the keystream. -/
abbrev Draw := StateM Keystream

/-- A word of thirty-two bits. -/
def word : Draw UInt32 := fun k => k.nextWord

/-- A number of sixty-four bits, the low half drawn first. -/
def wide : Draw Nat := do
  let low ← word
  let high ← word
  return low.toNat + UInt32.size * high.toNat

/-- How often a number is drawn again before `below` gives up; each draw succeeds with a probability
of at least one half. -/
def maxAttempts : Nat := 1000

/-- A number below `bound`: the high half of a random number times the bound, drawn again as long as
the low half lies above `zone`. -/
def belowWithin (bound zone : Nat) : (attempts : Nat) → Draw Nat
  | 0 => return 0
  | attempts + 1 => do
    let product := (← wide) * bound
    if product % UInt64.size ≤ zone then return product / UInt64.size
    else belowWithin bound zone attempts

/-- A number below a positive bound of at most sixty-four bits, all of them equally likely. -/
def below (bound : Nat) : Draw Nat :=
  belowWithin bound (bound <<< (63 - bound.log2) - 1) maxAttempts

/-- An event with the probability of one in twenty: that a random fraction exceeds the
floating-point number nearest to 0.95. -/
def oneInTwenty : Draw Bool := return 0x1E666666666666 < (← wide) >>> 11

/-- An element of a list that is not empty, the default when it is. -/
def oneOf {α : Type} (default : α) (choices : List α) : Draw α :=
  return choices.getD (← below choices.length) default

/-- Runs a draw so many times, telling it how often it has run before. -/
def times {α : Type} (n : Nat) (draw : Nat → Draw α) : Draw (List α) := (List.range n).mapM draw

/-- The two hexadecimal digits of a byte. -/
def byteText (byte : Nat) : List Char := [hexDigit (byte / 16), hexDigit (byte % 16)]

/-- The text of an identifier of sixteen bytes, in which the seventh byte shows the version four and
the ninth the variant. -/
def identifierText (bytes : List Nat) : List Char :=
  let marked := bytes.mapIdx fun i byte =>
    if i = 6 then 0x40 + byte % 16 else if i = 8 then 0x80 + byte % 64 else byte
  let part (start stop : Nat) := ((marked.take stop).drop start).flatMap byteText
  part 0 4 ++ '-' :: part 4 6 ++ '-' :: part 6 8 ++ '-' :: part 8 10 ++ '-' :: part 10 16

/-- A random identifier; each of its bytes is the low byte of a word. -/
def identifier : Draw String := do
  let bytes ← times 16 fun _ => return (← word).toNat % 256
  return String.ofList (identifierText bytes)

end LogQuery.Random
