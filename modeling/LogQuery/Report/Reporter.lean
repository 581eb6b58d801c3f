import LogQuery.Message
import LogQuery.Report.Grid
import LogQuery.Report.Paint
import LogQuery.Value.Text

/-!
# Reports

How answers are shown to a reader. There are three forms: plain text with a line for each row and
tabulators between the columns, an indented document, and a drawn table. Messages are shown in all
three forms too, as plain text or, among documents, as a document with one field that names their
kind. What is coloured is the messages and, in plain text, the line of the column names.

In a drawn table a column that a row lacks is empty and a long text is cut short, so that a row
remains readable; plain text and documents show everything.
-/

namespace LogQuery.Report

/-- The forms of a report. -/
inductive Format where
  | text
  /-- A document. -/
  | json
  | table
  deriving DecidableEq

/-- The kinds of messages. -/
inductive Tone where
  | error
  /-- Something to know. -/
  | info
  | success

/-- A way of showing answers. -/
structure Reporter where
  format : Format := .text
  /-- Whether colours are used. -/
  color : Bool := false

namespace Format

/-- All forms with their names. -/
def names : List (String × Format) := [("text", text), ("json", json), ("table", table)]

/-- The form with the given name. -/
def ofName? (name : String) : Option Format := names.lookup name

end Format

namespace Tone

/-- The field of a document that holds a message of this kind. -/
def field : Tone → String
  | error => "error"
  | info => "info"
  | success => "success"

/-- The ink of a message among documents. -/
def documentInk : Tone → Ink
  | error => .red
  | info => .blue
  | success => .green

/-- The ink of a message in plain text and below drawn tables. -/
def textInk : Tone → Ink
  | error => .boldRed
  | info => .blue
  | success => .boldGreen

end Tone

/-- The greatest number of characters that a cell of a drawn table shows. -/
def maxCellLength : Nat := 50

/-- A text cut short to what a cell shows, its last three characters then being dots. -/
def shortened (text : List Char) : List Char :=
  if maxCellLength < text.length then text.take (maxCellLength - 3) ++ ['.', '.', '.'] else text

/-- The drawn table of the rows of an answer. -/
def resultGrid (result : QueryResult) : Grid where
  titles := result.columns.map fun column => { text := column.toList }
  rows := result.rows.map fun row => result.columns.map fun column =>
    { text := shortened (Record.text row column).toList }

/-- The drawn table of the tables of a store. -/
def tablesGrid (tables : List TableInfo) : Grid where
  titles := [{ text := "Table".toList }, { text := "Lignes".toList }]
  rows := tables.map fun info =>
    [{ text := info.name.toList }, { text := Decimal.digits info.rows, side := .right }]

namespace Reporter

/-- A text, coloured when colours are used. -/
def painted (reporter : Reporter) (ink : Ink) (text : String) : String :=
  if reporter.color then String.ofList (paint ink text.toList) else text

/-- A message. -/
def message (reporter : Reporter) (tone : Tone) (text : String) : String :=
  match reporter.format with
  | .json =>
    reporter.painted tone.documentInk (Json.compactText (.object [(tone.field, .string text)]))
  | .text | .table => reporter.painted tone.textInk text

/-- The rows of an answer as plain text, the column names first. -/
def rowLines (reporter : Reporter) (result : QueryResult) : List String :=
  reporter.painted .bold ("\t".intercalate result.columns) ::
    result.rows.map fun row => "\t".intercalate (result.columns.map (Record.text row ·))

/-- An answer. -/
def result (reporter : Reporter) (result : QueryResult) : String :=
  match reporter.format, result.error with
  | .json, _ => result.toJson.indentedText
  | _, some error => reporter.message .error error
  | .text, none =>
    if result.rows.isEmpty then reporter.message .info "Aucun résultat"
    else "\n".intercalate (reporter.rowLines result)
  | .table, none =>
    String.ofList (resultGrid result).draw ++
      reporter.message .info (toString result.rowCount ++ " ligne(s)")

/-- The tables of a store. -/
def tables (reporter : Reporter) (tables : List TableInfo) : String :=
  match reporter.format with
  | .text => "\n".intercalate (tables.map fun info => info.name ++ "\t" ++ toString info.rows)
  | .json => Json.indentedText (.array (tables.map TableInfo.toJson))
  | .table => String.ofList (tablesGrid tables).draw

end Reporter

end LogQuery.Report
