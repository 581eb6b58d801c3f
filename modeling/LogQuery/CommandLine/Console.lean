import LogQuery.CommandLine.Arguments
import LogQuery.CommandLine.Host
import LogQuery.Dataset
import LogQuery.Store.Files

/-!
# The console program

The program runs a query, lists the tables, writes the practice dataset into a folder, or, without a
command, holds a session. Its tables come from a folder or, without one, from the practice dataset
of a seed. They are read before anything else is done, and a folder that cannot be read ends the
program.
-/

namespace LogQuery.CommandLine

open Shell Report

variable {m : Type → Type} [Monad m] [Host m]

/-- Where the tables come from. -/
inductive Source where
  /-- The practice dataset of a seed. -/
  | dataset (seed : UInt64)
  | folder (path : String)

/-- The tables of a source. -/
def Source.read : Source → m (Except StoreError Store)
  | dataset seed => return .ok (Dataset.ofSeed seed)
  | folder path => do
    match ← Host.readFolder path Store.isTableFile with
    | some files => return Store.ofFiles files
    | none => return .error .inaccessible

namespace Console

/-- What the program can be asked to do. -/
inductive Task where
  /-- Run a query; a dash stands for the text of the standard input. -/
  | query (text : String)
  | tables
  /-- Write the practice dataset into a folder. -/
  | generate (folder : String)
  | converse

/-- What the arguments of the program say. -/
structure Options where
  /-- How often more output was asked for. -/
  verbosity : Nat
  /-- The form of the answers. -/
  format : Format
  /-- The server that is to run the queries. -/
  server : Option String
  seed : UInt64
  /-- The folder with the tables. -/
  data : Option String
  /-- The file that keeps the history. -/
  history : String
  task : Task

/-- The arguments of the program. -/
def rules : Rules where
  options :=
    [{ name := "verbose", letter := some 'v', takesValue := false },
     { name := "format", letter := some 'f' }, { name := "server", letter := some 's' },
     { name := "seed" }, { name := "data", letter := some 'd' }, { name := "history" }]
  commands := ["query", "tables", "generate"]

/-- What a command and the arguments behind it ask for. -/
def task? : Option (String × List String) → Option Task
  | none => some .converse
  | some ("query", list) => do
    match (← Rules.parse? { operands := 1 } list).operands with
    | [text] => some (.query text)
    | _ => none
  | some ("tables", list) => do
    let _ ← Rules.parse? {} list
    return .tables
  | some ("generate", list) => do
    let arguments ← Rules.parse? { options := [{ name := "output", letter := some 'o' }] } list
    return .generate (← path? (← arguments.value? "output"))
  | some _ => none

/-- Where the history is kept when nothing else is said. -/
def defaultHistory : String := ".kql_dojo_history"

/-- What a list of arguments says. -/
def options? (list : List String) : Option Options := do
  let arguments ← rules.parse? list
  return {
    verbosity := arguments.count "verbose"
    format := ← arguments.read? "format" Format.ofName? .text
    server := arguments.value? "server"
    seed := ← arguments.read? "seed" word? Dataset.defaultSeed
    data := ← arguments.read? "data" (fun text => (path? text).map some) none
    history := ← arguments.read? "history" path? defaultHistory
    task := ← task? arguments.command }

/-- Where the tables come from. -/
def Options.source (options : Options) : Source :=
  match options.data with
  | some path => .folder path
  | none => .dataset options.seed

/-- Runs a query. -/
def query (desk : Desk) (text : String) : m ExitStatus := do
  let text? ← if text = "-" then String.fromUTF8? <$> Host.readInput else pure (some text)
  match text? with
  | some text =>
    let (outcome, elapsed) ← Host.timed fun _ => Query.run desk.store text
    Host.print (desk.answer outcome elapsed)
    return .success
  | none =>
    Host.complain "stream did not contain valid UTF-8"
    return .failure

/-- Writes the practice dataset of a seed into a folder. -/
def generate (reporter : Reporter) (seed : UInt64) (folder : String) : m ExitStatus := do
  let store := Dataset.ofSeed seed
  let written ← if ← Host.makeFolder folder then
      store.files.allM fun (name, text) => Host.writeFile (folder ++ "/" ++ name) text
    else pure false
  if written then
    Host.print (Desk.withNewline (reporter.message .success
      (toString store.size ++ " tables écrites dans " ++ folder)))
    return .success
  else
    Host.complain StoreError.inaccessible.message
    return .failure

/-- Holds a session whose history is kept in a file. -/
def converse (desk : Desk) (path : String) : m ExitStatus := do
  let history := match ← Host.readFile path with
    | .readable content => (History.read historyLimit content).1
    | _ => { limit := historyLimit }
  let session : Session := { desk with history }
  Host.print session.greeting
  let some session ← Host.converse session | return .breakdown
  if ← Host.writeFile path session.history.fileText then return .success
  else
    Host.complain StoreError.inaccessible.message
    return .failure

/-- Does what is asked for, once the tables are read. -/
def perform (options : Options) (desk : Desk) : m ExitStatus :=
  match options.server with
  | some address => do
    Host.complain (CommandError.serverUnavailable address).message
    return .failure
  | none =>
    match options.task with
    | .query text => query desk text
    | .tables => do
      Host.print desk.listing
      return .success
    | .generate folder => generate desk.reporter options.seed folder
    | .converse => converse desk options.history

/-- How the program is called. -/
def usage : String :=
  "usage: [-v] [-f text|json|table] [-s SERVER] [--seed N] [-d FOLDER] [--history FILE] " ++
    "[query TEXT | tables | generate -o FOLDER]"

/-- Runs the program. -/
def run (color : Bool) (list : List String) : m ExitStatus := do
  match options? list with
  | none =>
    Host.complain usage
    return .misuse
  | some options =>
    match ← options.source.read with
    | .error error =>
      Host.complain error.message
      return .failure
    | .ok store =>
      perform options
        { store
          reporter := { format := options.format, color }
          verbose := 0 < options.verbosity }

end Console

end LogQuery.CommandLine
