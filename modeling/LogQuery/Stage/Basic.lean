import LogQuery.Condition.Basic

/-!
# Stages

A query is a pipeline of stages, each of which turns rows into rows. A stage that is not understood
leaves the rows as they are.
-/

namespace LogQuery

/-- The order of a sort. -/
inductive Direction where
  /-- Lesser texts come first. -/
  | ascending
  /-- Greater texts come first. -/
  | descending
  deriving DecidableEq

/-- The count of the different texts of a column. -/
structure DistinctCount where
  /-- The column that shows the count. -/
  name : String
  /-- The column whose texts are counted. -/
  column : String
  deriving DecidableEq

/-- What a summary shows of each group of rows. -/
structure SummaryPlan where
  /-- The column that shows the number of rows, if it is asked for. -/
  count : Option String := none
  /-- The distinct count, if one is asked for. -/
  distinctCount : Option DistinctCount := none
  /-- The column whose texts make the groups; without it all rows are one group. -/
  groupBy : Option String := none
  deriving DecidableEq

/-- One step of a pipeline. -/
inductive Stage where
  /-- Keep the rows of which a condition holds. -/
  | filter (condition : Condition)
  /-- Keep the named columns. -/
  | project (columns : List String)
  /-- Replace the rows by one that shows their number. -/
  | count
  /-- Keep so many rows from the start; a negative number drops rows from the end instead. -/
  | limit (n : Int)
  /-- Sort the rows by the text of a column. -/
  | sort (column : String) (direction : Direction)
  /-- Keep the first row for each text of a column, and only that column of it. -/
  | distinct (column : String)
  /-- Summarize groups of rows. -/
  | summarize (plan : SummaryPlan)
  /-- Keep everything. -/
  | passthrough

end LogQuery
