import LogQuery.Text.Blank
import LogQuery.Text.Split

/-!
# Query buffers

An interactive query is typed line by line. The lines are collected until one of them ends the
query: a blank line, or a line with a semicolon at its end. The query is made of what the lines
contribute, which is the line itself without blank characters at its end and without the semicolon,
as long as anything is left that is not blank. A query without any contribution is no query.
-/

namespace LogQuery.Shell

open Text

/-- The lines of the query that is being typed. -/
structure Buffer where
  /-- What the lines typed so far contribute. -/
  lines : List (List Char) := []

namespace Buffer

/-- Whether a line ends the query. -/
def endsQuery (line : List Char) : Bool :=
  allBlank line || (trimEnd line).getLast? == some ';'

/-- The line without blank characters at its end and without the semicolon that ends the query. -/
def body (line : List Char) : List Char :=
  let line := trimEnd line
  if line.getLast? = some ';' then line.dropLast else line

/-- What a line contributes to the query. -/
def contribution (line : List Char) : Option (List Char) :=
  if allBlank (body line) then none else some (body line)

/-- Whether no query is being typed. -/
def isEmpty (buffer : Buffer) : Bool := buffer.lines.isEmpty

/-- The query that lines make up, unless there are none. -/
def query? (lines : List (List Char)) : Option String :=
  if lines.isEmpty then none else some (String.ofList (joined ['\n'] lines))

/-- The buffer after a line, and the query if the line ends one. -/
def push (buffer : Buffer) (line : List Char) : Buffer × Option String :=
  let lines := buffer.lines ++ (contribution line).toList
  if endsQuery line then ({}, query? lines) else ({ lines }, none)

end Buffer

end LogQuery.Shell
