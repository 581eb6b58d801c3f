import LogQuery.Script
import LogQuery.Stage.Parser
import LogQuery.Stage.Run
import LogQuery.Store

/-!
# Queries

A query runs the stages of its script, one after the other, on a copy of the rows of its table. It
fails when no line of it counts, and otherwise when the store lacks the table, and in no other case;
the stages are not looked at before the table is found. An answer never is an error of the program:
a failed query is answered by its message, without columns and rows. Either answer tells how long
the query took, as the machine has measured it.
-/

namespace LogQuery

/-- Why a query fails. -/
inductive QueryError where
  /-- No line of the query counts. -/
  | emptyQuery
  /-- The store lacks the table, and has those available. -/
  | unknownTable (name : String) (available : List String)
  /-- Running the query fails for another cause. -/
  | execution (cause : String)
  deriving DecidableEq

/-- The message of an error. -/
def QueryError.message : QueryError → String
  | emptyQuery => "Empty query"
  | unknownTable name available =>
    "Unknown table: " ++ name ++ ". Available tables: " ++ ", ".intercalate available
  | execution cause => "Query execution error: " ++ cause

/-- The answer to a query. -/
structure QueryResult where
  /-- The names of the columns, taken from the first row. -/
  columns : List String := []
  rows : List Record := []
  rowCount : Nat := 0
  /-- How long the query took, in milliseconds. -/
  executionTime : Float := 0
  /-- The message, when the query failed. -/
  error : Option String := none

namespace QueryResult

/-- The answer that shows the rows found in so many milliseconds. -/
def ofRows (rows : List Record) (elapsed : Float) : QueryResult where
  columns := ((rows.head?).map OrderedMap.names).getD []
  rows := rows
  rowCount := rows.length
  executionTime := elapsed

/-- The answer that reports the error met after so many milliseconds. -/
def ofError (error : QueryError) (elapsed : Float) : QueryResult where
  executionTime := elapsed
  error := some error.message

/-- The answer to a query that comes out so after so many milliseconds. -/
def ofOutcome (outcome : Except QueryError (List Record)) (elapsed : Float) : QueryResult :=
  match outcome with
  | .ok rows => .ofRows rows elapsed
  | .error error => .ofError error elapsed

end QueryResult

namespace Query

/-- Runs stages one after the other. -/
def runStages (stages : List String) (rows : List Record) : List Record :=
  stages.foldl (fun rows text => (Stage.parse text).run rows) rows

/-- The rows that a query asks for. -/
def run (store : Store) (query : String) : Except QueryError (List Record) :=
  match Script.parse? query with
  | none => .error .emptyQuery
  | some script =>
    match store.get? script.table with
    | none => .error (.unknownTable script.table store.names)
    | some rows => .ok (runStages script.stages rows)

/-- The answer to a query that takes so many milliseconds. -/
def execute (store : Store) (query : String) (elapsed : Float := 0) : QueryResult :=
  .ofOutcome (run store query) elapsed

end Query

end LogQuery
