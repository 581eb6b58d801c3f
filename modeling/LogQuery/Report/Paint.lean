import LogQuery.Text.Split

/-!
# Paint

Terminals colour the text between a sequence that names the ink and a sequence that resets it. A
text that holds resets of its own would lose its ink after the first of them, so the ink is named
again after each.
-/

namespace LogQuery.Report

open Text

/-- The inks that reports are written in. -/
inductive Ink where
  /-- Bold letters in the colour of the terminal. -/
  | bold
  | blue
  | red
  | green
  | boldRed
  | boldGreen

/-- The number that names an ink to the terminal. -/
def Ink.code : Ink → List Char
  | bold => ['1']
  | blue => ['3', '4']
  | red => ['3', '1']
  | green => ['3', '2']
  | boldRed => ['1', ';', '3', '1']
  | boldGreen => ['1', ';', '3', '2']

/-- The sequence with the given number. -/
def sequence (code : List Char) : List Char := '\x1b' :: '[' :: (code ++ ['m'])

/-- The sequence that ends the ink. -/
def reset : List Char := sequence ['0']

/-- A text in an ink, even an empty one. -/
def paint (ink : Ink) (text : List Char) : List Char :=
  let start := sequence ink.code
  start ++ joined (reset ++ start) (pieces reset text) ++ reset

/-- Whether reports are painted, given the settings that force, forbid and allow it and whether a
terminal shows them. A setting of `0` is off; what forbids need only be set. -/
def paints (forcing forbidding allowing : Option String) (terminal : Bool) : Bool :=
  if forcing.any (· != "0") then true
  else if forbidding.isSome then false
  else allowing.all (· != "0") && terminal

end LogQuery.Report
