import LogQuery.Json.Parser
import LogQuery.Json.Printer
import LogQuery.Text.Blank

/-!
# Histories

The history of a shell lists the queries that were run, the latest last. It holds a limited number
of them and forgets the earliest first. A query is entered without the blank characters around it,
and not again while it is the latest.

In a file each query is written as a string in quotation marks on a line of its own, so that queries
of several lines stay apart. When the file is read, blank lines do not count, and a line that is no
such string is a query as it stands. A file that is not well-formed is read as far as it is, and the
limit is then not applied to what was read.
-/

namespace LogQuery.Shell

open Text

/-- The last `limit` members of a list. -/
def latest {α : Type} (limit : Nat) (entries : List α) : List α :=
  entries.drop (entries.length - limit)

/-- The queries that were run. -/
structure History where
  /-- How many queries are remembered. -/
  limit : Nat
  /-- The queries, the latest last. -/
  entries : List String := []

namespace History

/-- Enters a query. -/
def add (history : History) (text : String) : History :=
  let entry := String.ofList (trim text.toList)
  if entry = "" ∨ history.entries.getLast? = some entry then history
  else
    let entries := history.entries ++ [entry]
    { history with
      entries := if history.limit < entries.length then entries.drop 1 else entries }

/-- The queries that hold a text. -/
def search (history : History) (part : String) : List String :=
  history.entries.filter fun entry => occurs part.toList entry.toList

/-- The query that a line of a file denotes. -/
def entryOfLine (line : List Char) : String :=
  match Json.parse? line with
  | some (.string entry) => entry
  | _ => String.ofList line

/-- The queries that the lines of a file denote. -/
def entriesOfLines (lines : List (List Char)) : List String :=
  (lines.filter (!allBlank ·)).map entryOfLine

/-- The history that the content of a file denotes, and whether all of the file could be read. -/
def read (limit : Nat) (content : ByteArray) : History × Bool :=
  match decodedLines content with
  | (lines, true) => ({ limit, entries := latest limit (entriesOfLines lines) }, true)
  | (lines, false) => ({ limit, entries := entriesOfLines lines }, false)

/-- The history after its file is read, which may not exist, and whether all of it could be read. -/
def load (history : History) : (content : Option ByteArray) → History × Bool
  | none => (history, true)
  | some content => read history.limit content

/-- The text of the file that holds the history. -/
def fileText (history : History) : String :=
  String.ofList (history.entries.flatMap fun entry => Json.quote entry.toList ++ ['\n'])

end History

end LogQuery.Shell
