import LogQuery.Text.Blank
import LogQuery.Text.Split

/-!
# Scripts

A query is written in lines. Blank lines and lines that begin with two slashes do not count. The
first line that counts names the table and may go on with stages; every later line that begins with
a bar adds stages, and all other lines are ignored. Stages are separated by bars that stand outside
quoted literals. Either quotation mark opens a literal, and only the same mark closes it; a literal
that stays open ends with its line.
-/

namespace LogQuery

open Text

/-- A query cut into its table and the texts of its stages. -/
structure Script where
  /-- The table that the query starts from. -/
  table : String
  /-- The texts of the stages in order. -/
  stages : List String

namespace Script

/-- The literal that is open after a character, if one was open before it. -/
def quoteAfter (c : Char) : (literal : Option Char) → Option Char
  | none => if c = '"' ∨ c = '\'' then some c else none
  | some mark => if c = mark then none else some mark

/-- The segments of a line between the bars outside literals, when the given literal is open at its
start. -/
def segmentsFrom : (literal : Option Char) → List Char → List (List Char)
  | _, [] => [[]]
  | literal, c :: rest =>
    if c = '|' ∧ literal = none then [] :: segmentsFrom none rest
    else (segmentsFrom (quoteAfter c literal) rest).modifyHead (c :: ·)

/-- The segments of a line between the bars outside literals. -/
def segments (line : List Char) : List (List Char) := segmentsFrom none line

/-- A segment without the blank characters around it. -/
def trimmed (segment : List Char) : String := String.ofList (trim segment)

/-- Whether a trimmed line counts. -/
def isSignificant (line : List Char) : Bool := line ≠ [] ∧ ¬ (after? ['/', '/'] line).isSome

/-- The lines of a query that count, trimmed. -/
def significantLines (text : List Char) : List (List Char) :=
  ((lines text).map trim).filter isSignificant

/-- The stages that a later line adds. -/
def lineStages (line : List Char) : List String :=
  match line with
  | '|' :: _ => ((segments line).drop 1).map trimmed
  | _ => []

/-- The script that a text denotes: none when no line of it counts. -/
def parse? (text : String) : Option Script :=
  match significantLines text.toList with
  | [] => none
  | first :: rest =>
    some
      { table := trimmed (((segments first).head?).getD [])
        stages := ((segments first).drop 1).map trimmed ++ rest.flatMap lineStages }

end Script

end LogQuery
