import LogQuery.Json.Field
import LogQuery.Query

/-!
# Messages

The documents that clients exchange with the program: a request to run a query, the answer to it,
the list of tables, and the envelope that either of the last two is sent in. Each kind of message
has a written form and is read back from every document that has the fields it needs.

A failed query has its message in the answer; the field is left out when there is none. In the
envelope the field for an error is always written.
-/

namespace LogQuery

/-- A request to run a query. -/
structure QueryRequest where
  query : String

/-- The envelope of an answer. -/
structure Reply (α : Type) where
  /-- Whether what was asked for succeeded. -/
  success : Bool
  /-- Why it did not. -/
  error : Option String
  data : Option α

namespace QueryRequest

/-- A request as a document. -/
def toJson (request : QueryRequest) : Json := .object [("query", .string request.query)]

/-- The request that a document is. -/
def ofJson? (document : Json) : Option QueryRequest := do
  match ← document.fields? ["query"] 0 with
  | [some query] => return ⟨← query.string?⟩
  | _ => none

end QueryRequest

namespace TableInfo

/-- A listed table as a document. -/
def toJson (info : TableInfo) : Json :=
  .object [("name", .string info.name), ("rows", .integer info.rows)]

/-- The listed table that a document is. -/
def ofJson? (document : Json) : Option TableInfo := do
  match ← document.fields? ["name", "rows"] 0 with
  | [some name, some rows] => return ⟨← name.string?, ← rows.count?⟩
  | _ => none

end TableInfo

namespace QueryResult

/-- The fields of an answer that are always written. -/
def baseFields (result : QueryResult) : List (String × Json) :=
  [("columns", .array (result.columns.map .string)), ("rows", .ofRows result.rows),
   ("rowCount", .integer result.rowCount),
   ("executionTime", .ofValue (.float result.executionTime))]

/-- An answer as a document. -/
def toJson (result : QueryResult) : Json :=
  .object (result.baseFields ++ result.error.toList.map fun message => ("error", .string message))

/-- The answer that a document is, `room` being how many arrays and objects may nest. -/
def ofJson? (room : Nat) (document : Json) : Option QueryResult := do
  match ← document.fields? ["columns", "rows", "rowCount", "executionTime", "error"] 1 with
  | [some columns, some rows, some rowCount, some executionTime, error] =>
    return {
      columns := ← columns.strings?
      rows := ← rows.rows? (room - 1)
      rowCount := ← rowCount.count?
      executionTime := ← executionTime.float?
      error := ← Json.optional? Json.string? error }
  | _ => none

end QueryResult

namespace Reply

/-- An envelope as a document. -/
def toJson {α : Type} (dataJson : α → Json) (reply : Reply α) : Json :=
  .object
    [("success", .boolean reply.success), ("error", (reply.error.map Json.string).getD .null),
     ("data", (reply.data.map dataJson).getD .null)]

/-- The envelope that a document is. -/
def ofJson? {α : Type} (data? : Json → Option α) (document : Json) : Option (Reply α) := do
  match ← document.fields? ["success", "error", "data"] 0 with
  | [some success, error, data] =>
    return {
      success := ← success.boolean?
      error := ← Json.optional? Json.string? error
      data := ← Json.optional? data? data }
  | _ => none

/-- The envelope of the answer to a query that arrives in a document. -/
def ofResultJson? (document : Json) : Option (Reply QueryResult) :=
  ofJson? (QueryResult.ofJson? (Json.maxDepth - 1)) document

end Reply

end LogQuery
