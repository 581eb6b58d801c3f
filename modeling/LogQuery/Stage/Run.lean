import LogQuery.Condition.Selection
import LogQuery.Stage.Basic
import Std.Data.HashMap
import Std.Data.HashSet

/-!
# Running stages

What each stage does to rows. Sorting, distinct rows, groups and distinct counts all go by the text
of a column, so values of different kinds that have the same text are the same to them. Sorting is
stable in both directions; distinct rows and groups come in the order in which their texts are first
met.
-/

namespace LogQuery.Stage

/-- The rows with only the named columns, in the order in which they are named. -/
def projectRows (columns : List String) (rows : List Record) : List Record :=
  rows.map fun row =>
    .ofPairs (columns.filterMap fun column => (row.get? column).map (column, ·))

/-- The first rows, or for a negative number all but so many of the last ones. -/
def limitRows (n : Int) (rows : List Record) : List Record :=
  if 0 ≤ n then rows.take n.toNat else rows.take (rows.length - n.natAbs)

/-- Whether a row may stand before another one. -/
def inOrder (column : String) : Direction → Record → Record → Bool
  | .ascending, a, b => Record.text a column ≤ Record.text b column
  | .descending, a, b => Record.text b column ≤ Record.text a column

/-- The rows sorted by the text of a column; rows with the same text keep their order. -/
def sortRows (column : String) (direction : Direction) (rows : List Record) : List Record :=
  rows.mergeSort (inOrder column direction)

/-- The first row for each text of a column, reduced to that column. -/
def distinctRows (column : String) (rows : List Record) : List Record :=
  (firstByKey (Record.text · column) [] rows).map fun row =>
    .ofPairs [(column, (row.get? column).getD .null)]

/-- Rows in groups. -/
structure Groups where
  /-- The texts that name the groups, in the order in which they are first met. -/
  order : Array String := #[]
  /-- The rows of each group. -/
  members : Std.HashMap String (Array Record) := ∅

/-- The groups after a row is added to the one named by its text of a column. -/
def Groups.add (column : String) (groups : Groups) (row : Record) : Groups :=
  let key := Record.text row column
  { order := if groups.members.contains key then groups.order else groups.order.push key
    members := groups.members.insert key ((groups.members.getD key #[]).push row) }

/-- How many different texts a column has. -/
def distinctTexts (column : String) (rows : List Record) : Nat :=
  (Std.HashSet.ofList (rows.map (Record.text · column))).size

/-- The row that a summary shows of a group. Columns of the same name overwrite one another in the
order key, count, distinct count. -/
def groupRow (plan : SummaryPlan) (column key : String) (members : List Record) : Record :=
  let counts := plan.count.toList.map fun name => (name, Value.ofCount members.length)
  let distinctCounts := plan.distinctCount.toList.map fun distinct =>
    (distinct.name, Value.ofCount (distinctTexts distinct.column members))
  .ofPairs ((column, .string key) :: counts ++ distinctCounts)

/-- The rows that a summary shows of the named groups. The members of each group are taken out of
the map. -/
def groupRows (plan : SummaryPlan) (column : String) :
    (names : List String) → Std.HashMap String (Array Record) → List Record
  | [], _ => []
  | key :: rest, members =>
    groupRow plan column key (members.getD key #[]).toList ::
      groupRows plan column rest (members.erase key)

/-- The rows of a summary: one for each group, or, without groups, one that shows the number of all
rows if that is asked for. -/
def summarizeRows (plan : SummaryPlan) (rows : List Record) : List Record :=
  match plan.groupBy with
  | some column =>
    let groups := rows.foldl (Groups.add column) {}
    groupRows plan column groups.order.toList groups.members
  | none =>
    if plan.count.isSome then [.ofPairs [("count_", .ofCount rows.length)]] else rows

/-- What a stage makes of rows. -/
def run : Stage → List Record → List Record
  | filter condition, rows => condition.filter rows
  | project columns, rows => projectRows columns rows
  | count, rows => [.ofPairs [("Count", .ofCount rows.length)]]
  | limit n, rows => limitRows n rows
  | sort column direction, rows => sortRows column direction rows
  | distinct column, rows => distinctRows column rows
  | summarize plan, rows => summarizeRows plan rows
  | passthrough, rows => rows

end LogQuery.Stage
