import LogQuery.Condition.Parser
import LogQuery.Stage.Basic

/-!
# Reading stages

A stage begins with a verb in small letters and a space; the first verb of a fixed list that fits
decides what it is. A text that begins with no verb, or whose argument makes no sense, is the stage
that keeps everything.

The argument of a summary is read by looking for the last word `by` between blanks, which has the
aggregations before it and the grouping column after it. Without that word the only thing understood
is the count of all rows.
-/

namespace LogQuery.Stage

open Text Decimal

/-- The column that shows a count without a name of its own. -/
def defaultCountAlias : String := "count_"

/-- The whole number that a text starts with, up to the greatest one in size, after blanks and an
optional sign. -/
def leadingInt? (s : List Char) : Option Int :=
  let (negative, s) := match trimStart s with
    | '-' :: rest => (true, rest)
    | '+' :: rest => (false, rest)
    | rest => (false, rest)
  match s.takeWhile isDigit with
  | [] => none
  | ds =>
    let size : Int := Condition.cappedValue ds
    some (if negative then -size else size)

/-- The limit that a trimmed stage denotes: the number is the second of its texts between single
spaces. -/
def parseLimit (s : List Char) : Stage :=
  match ((s.splitOn ' ')[1]?).bind leadingInt? with
  | some n => .limit n
  | none => .passthrough

/-- The sort that a trimmed stage denotes, once its verbs are erased: a column, and after a single
space the word `desc` in letters of any size for the descending order. -/
def parseSort (s : List Char) : Stage :=
  let argument := trim (eraseFirst "sort by ".toList (eraseFirst "order by ".toList s))
  match argument.splitOn ' ' with
  | column :: direction :: _ =>
    .sort (String.ofList column)
      (if direction.map Char.toLower = "desc".toList then .descending else .ascending)
  | column :: _ => .sort (String.ofList column) .ascending
  | [] => .sort "" .ascending

/-- What follows the word `by` between blanks at the start of a text, up to the end of the line. -/
def afterBy? (s : List Char) : Option (List Char) := do
  let (_, s) ← run? isBlank s
  let s ← after? ['b', 'y'] s
  let (_, s) ← run? isBlank s
  match s.takeWhile (· ≠ '\n') with
  | [] => none
  | group => return group

/-- The aggregations at the start of a text, as long as the line allows, with the grouping column
that follows them. -/
def groupedAt? : List Char → Option (List Char × List Char)
  | [] => none
  | c :: rest =>
    if c = '\n' then none
    else
      match groupedAt? rest with
      | some (aggregations, group) => some (c :: aggregations, group)
      | none => (afterBy? rest).map ([c], ·)

/-- The name that an aggregation at the start of a text is given: a name and an equals sign in front
of the function. -/
def aliasAt? (s : List Char) : Option (String × List Char) := do
  let (name, s) ← run? isWord s
  let s ← after? ['='] (trimStart s)
  return (String.ofList name, trimStart s)

/-- The name of a count at the start of a text. -/
def countAt? (s : List Char) : Option String := do
  let (name, s) ← aliasAt? s
  let _ ← after? "count()".toList s
  return name

/-- A distinct count at the start of a text. -/
def distinctCountAt? (s : List Char) : Option DistinctCount := do
  let (name, s) ← aliasAt? s
  let s ← after? "dcount(".toList s
  let (column, s) ← run? isWord s
  let _ ← after? [')'] s
  return ⟨name, String.ofList column⟩

/-- The summary that a trimmed argument denotes. -/
def parseSummary (s : List Char) : SummaryPlan :=
  match firstMatch? groupedAt? s with
  | none => { count := if occurs "count()".toList s then some defaultCountAlias else none }
  | some (aggregations, group) =>
    let aggregations := trim aggregations
    { count :=
        if occurs "count()".toList aggregations then
          some ((firstMatch? countAt? aggregations).getD defaultCountAlias)
        else none
      distinctCount := firstMatch? distinctCountAt? aggregations
      groupBy := some (String.ofList (trim group)) }

/-- A verb with what makes a stage of the trimmed text that begins with it and of the text after
it. -/
def verbs : List (List Char × (List Char → List Char → Stage)) :=
  [("where ".toList, fun _ rest => .filter (Condition.parse (String.ofList rest))),
   ("project ".toList, fun _ rest =>
      .project ((rest.splitOn ',').map fun column => String.ofList (trim column))),
   ("limit ".toList, fun s _ => parseLimit s),
   ("take ".toList, fun s _ => parseLimit s),
   ("order by ".toList, fun s _ => parseSort s),
   ("sort by ".toList, fun s _ => parseSort s),
   ("distinct ".toList, fun _ rest => .distinct (String.ofList (trim rest))),
   ("summarize ".toList, fun _ rest => .summarize (parseSummary (trim rest)))]

/-- The stage that a trimmed text denotes. -/
def ofTrimmed (s : List Char) : Stage :=
  if s = "count".toList then .count
  else (verbs.findSome? fun (verb, make) => (after? verb s).map (make s)).getD .passthrough

/-- The stage that a text denotes. -/
def parse (text : String) : Stage := ofTrimmed (trim text.toList)

end LogQuery.Stage
