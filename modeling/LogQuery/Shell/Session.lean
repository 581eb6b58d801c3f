import LogQuery.Shell.Buffer
import LogQuery.Shell.Command
import LogQuery.Shell.History
import LogQuery.Text.Cluster

/-!
# Sessions

In a session the shell reads line after line. A line is a command, or a part of a query; a finished
query is entered into the history and answered. A command that fails is answered by its message and
changes nothing. The session ends by a command, at the end of the input, or at a line that is not
well-formed.

What happens on each line is a function of the session before it, so the run of a session on the
lines of an input is a fold. How long a query takes is not: the machine measures it, and it is shown
with the answer.
-/

namespace LogQuery.Shell

open Text Report

/-- What queries are run on and how answers are shown. -/
structure Desk where
  store : Store
  /-- How answers are shown. -/
  reporter : Reporter := {}
  /-- Whether each answer is followed by a summary. -/
  verbose : Bool := false

namespace Desk

/-- The text with a line feed behind it. -/
def withNewline (text : String) : String := text ++ "\n"

/-- The summary of an answer. -/
def summary (result : QueryResult) : String :=
  toString result.rowCount ++ " lignes en " ++
    String.ofList (Decimal.fixedText 3 result.executionTime) ++ " ms"

/-- What is shown in answer to a query that comes out so after so many milliseconds. -/
def answer (desk : Desk) (outcome : Except QueryError (List Record)) (elapsed : Float) : String :=
  let result := QueryResult.ofOutcome outcome elapsed
  withNewline (desk.reporter.result result) ++
    if desk.verbose then withNewline (desk.reporter.message .info (summary result)) else ""

/-- What is shown when the tables are asked for. -/
def listing (desk : Desk) : String := withNewline (desk.reporter.tables desk.store.tables)

end Desk

/-- The state of the shell between two lines. -/
structure Session extends Desk where
  /-- The queries that were run. -/
  history : History
  /-- The query that is being typed. -/
  buffer : Buffer := {}

/-- What the shell can be given to read. -/
inductive Input where
  /-- A line. -/
  | line (text : List Char)
  /-- A line that is not well-formed. -/
  | illFormed
  /-- No further line. -/
  | ended

/-- How a session goes on. -/
inductive Progress where
  /-- It waits for the next input. -/
  | goesOn
  /-- It is over. -/
  | over
  /-- It breaks off, and the program with it. -/
  | brokenOff
  deriving DecidableEq

/-- What there is to show after an input. -/
inductive Display where
  | text (text : String)
  /-- The answer to a query that comes out so. -/
  | answer (outcome : Except QueryError (List Record))

/-- What becomes of a session after an input. -/
structure Turn where
  session : Session
  display : Display := .text ""
  /-- How the session goes on. -/
  progress : Progress := .goesOn

/-- What is shown in a turn that takes so many milliseconds. -/
def Turn.output (turn : Turn) (elapsed : Float) : String :=
  match turn.display with
  | .text text => text
  | .answer outcome => turn.session.answer outcome elapsed

/-- What has become of a session in several turns. -/
structure Course where
  session : Session
  /-- All that was shown. -/
  output : String := ""
  /-- How the session goes on. -/
  progress : Progress := .goesOn

/-- The character by which a terminal asks to erase what was typed last. -/
def eraser : List Char := ['\x08']

/-- What is left of a line that is being typed. -/
structure Typed where
  /-- The characters, the last one first. -/
  text : List Char := []
  /-- How many bytes each eraser will take, the next one first. -/
  steps : List Nat := []

namespace Typed

/-- How many bytes a text takes. -/
def byteCount (text : List Char) : Nat := text.foldl (fun count c => count + c.utf8Size) 0

/-- The text, the last character first, without so many bytes at its end, unless that would split a
character. -/
def dropBytes? : Nat → List Char → Option (List Char)
  | 0, text => some text
  | _, [] => none
  | count, c :: text => if c.utf8Size ≤ count then dropBytes? (count - c.utf8Size) text else none

/-- What is left after another cluster is typed. An eraser takes the cluster before it, but of one
that has 256 bytes or more only the bytes in excess of a multiple of 256, which it cannot when that
would split a character. -/
def type? (typed : Typed) (cluster : List Char) : Option Typed :=
  if cluster = eraser then
    match typed.steps with
    | [] => some typed
    | step :: steps => (dropBytes? step typed.text).map ({ text := ·, steps })
  else
    some {
      text := cluster.reverse ++ typed.text
      steps := byteCount cluster % 256 :: typed.steps }

end Typed

/-- The line that is left when each eraser has taken what was typed before it, unless one cannot. -/
def withoutErased? (line : List Char) : Option (List Char) :=
  ((clusters line).foldlM Typed.type? {}).map (·.text.reverse)

/-- How many queries the history of a session remembers. -/
def historyLimit : Nat := 1000

/-- The inputs that bytes hold. -/
def inputs (bytes : ByteArray) : List Input :=
  match decodedLines bytes with
  | (lines, true) => lines.map .line ++ [.ended]
  | (lines, false) => lines.map .line ++ [.illFormed]

namespace Session

/-- What is shown at the beginning. -/
def greeting (session : Session) : String :=
  Desk.withNewline (session.reporter.message .info "KQL Dojo - Mode interactif") ++
    Desk.withNewline (session.reporter.message .info
      ("Terminez une requête par une ligne vide ou ';'. " ++
        "Tapez .help pour l'aide ou .exit pour quitter"))

/-- What is shown before each line is read. -/
def prompt (session : Session) : String :=
  if session.buffer.isEmpty then "kql> " else "   ...> "

/-- What is shown of the queries in a history. -/
def listed (entries : List String) : String :=
  if entries.isEmpty then "Aucune requête dans l'historique.\n"
  else
    String.join (entries.mapIdx fun i entry => toString (i + 1) ++ ": " ++ Desk.withNewline entry)

/-- Chooses the form of the answers. -/
def choose (session : Session) (name : String) : Except CommandError (Session × String) := do
  let format ← Command.chosenFormat name
  let session := { session with reporter.format := format }
  return (session,
    Desk.withNewline (session.reporter.message .success ("Format défini à " ++ name)))

/-- What becomes of a session that is told to do something other than to end. -/
def obey (session : Session) : Command → Except CommandError (Session × String)
  | .help => .ok (session, String.join (Command.helpLines.map Desk.withNewline))
  | .exit => .ok (session, "Au revoir !\n")
  | .tables => .ok (session, session.listing)
  | .format none => .error (.usage ".format <text|json|table>")
  | .format (some name) => session.choose name
  | .history none => .ok (session, listed session.history.entries)
  | .history (some part) => .ok (session, listed (session.history.search part))
  | .unknown name => .error (.unknownCommand name)

/-- What becomes of a session after a command. -/
def command (session : Session) (command : Command) : Turn :=
  match session.obey command with
  | .ok (session, output) =>
    { session, display := .text output, progress := if command = .exit then .over else .goesOn }
  | .error error =>
    { session, display := .text (Desk.withNewline (session.reporter.message .error error.message)) }

/-- What becomes of a session after a line of a query. -/
def typed (session : Session) (line : List Char) : Turn :=
  match session.buffer.push line with
  | (buffer, none) => { session := { session with buffer } }
  | (buffer, some query) =>
    { session := { session with buffer, history := session.history.add query }
      display := .answer (Query.run session.store query) }

/-- What becomes of a session after an input. -/
def respond (session : Session) : Input → Turn
  | .line text =>
    match withoutErased? text with
    | none => { session, progress := .brokenOff }
    | some line =>
      match Command.parse? line with
      | some command =>
        if session.buffer.isEmpty then session.command command else session.typed line
      | none => session.typed line
  | .illFormed =>
    { session
      display := .text (Desk.withNewline
        (session.reporter.message .error "Erreur: stream did not contain valid UTF-8"))
      progress := .over }
  | .ended => { session, display := .text "Fin de l'entrée (Ctrl-D)\n", progress := .over }

/-- What becomes of a session after the inputs up to the one that ends it. The turn on the input at
each place takes so many milliseconds. -/
def run (session : Session) (elapsed : Nat → Float) : List Input → Course
  | [] => { session }
  | input :: rest =>
    let turn := session.respond input
    let output := session.prompt ++ turn.output (elapsed 0)
    match turn.progress with
    | .goesOn =>
      let final := turn.session.run (fun place => elapsed (place + 1)) rest
      { final with output := output ++ final.output }
    | progress => { session := turn.session, output, progress }

end Session

end LogQuery.Shell
