import LogQuery.Text.Ligature

/-!
# Columns of painted texts

How many columns of a terminal a text fills that may hold colouring sequences. A sequence, an escape
character followed by a bracket and ended by the letter `m`, is measured as if it were shown, and
then the characters from the bracket to the letter are taken off, one column for each that is wider
than nothing by itself. The escape character remains and counts as one column.
-/

namespace LogQuery.Report

open Text

/-- How far the reading of a colouring sequence has come. -/
inductive PaintState where
  /-- Outside a sequence. -/
  | plain
  /-- After the escape character. -/
  | escape
  /-- Between the bracket and the letter that ends the sequence. -/
  | inside

/-- How many columns are taken off for a character of a colouring sequence. -/
def takenOff (c : Char) : Nat := if isControl c || charWidth c = 0 then 0 else 1

/-- How many columns are taken off for colouring sequences, the reading being in the given state. -/
def hidden : PaintState → List Char → Nat
  | _, [] => 0
  | .plain, c :: rest => hidden (if c = '\x1b' then .escape else .plain) rest
  | .escape, c :: rest =>
    if c = '[' then hidden .inside rest + takenOff c else hidden .plain rest
  | .inside, c :: rest => hidden (if c = 'm' then .plain else .inside) rest + takenOff c

/-- How many columns a text fills. -/
def columns (s : List Char) : Nat := textWidth s - hidden .plain s

end LogQuery.Report
