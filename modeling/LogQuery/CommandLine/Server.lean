import LogQuery.CommandLine.Console
import LogQuery.Text.Quoted

/-!
# The server program

The program reads its tables, lists them, and then answers requests at an address until it is
stopped. A host and a port that do not make up an address are found out only after the tables are
listed.
-/

namespace LogQuery.CommandLine.Server

open Shell

variable {m : Type → Type} [Monad m] [Host m]

/-- What the arguments of the program say. -/
structure Options where
  host : String
  port : UInt16
  /-- How many milliseconds to wait before each answer. -/
  latency : UInt64
  seed : UInt64
  /-- The folder with the tables. -/
  data : Option String

/-- The arguments of the program. -/
def rules : Rules where
  options :=
    [{ name := "port", letter := some 'p' }, { name := "host", letter := some 'H' },
     { name := "latency-ms", letter := some 'l' }, { name := "seed" },
     { name := "data", letter := some 'd' }]

/-- The host when nothing else is said. -/
def defaultHost : String := "127.0.0.1"

/-- The port when nothing else is said. -/
def defaultPort : UInt16 := 3000

/-- What a list of arguments says. -/
def options? (list : List String) : Option Options := do
  let arguments ← rules.parse? list
  return {
    host := (arguments.value? "host").getD defaultHost
    port := ← arguments.read? "port" port? defaultPort
    latency := ← arguments.read? "latency-ms" word? 0
    seed := ← arguments.read? "seed" word? Dataset.defaultSeed
    data := ← arguments.read? "data" (fun text => (path? text).map some) none }

/-- Where the tables come from. -/
def Options.source (options : Options) : Source :=
  match options.data with
  | some path => .folder path
  | none => .dataset options.seed

/-- What is shown before the tables are read. -/
def announcement : Source → String
  | .folder path => "Chargement des tables depuis: " ++ Text.quoted path
  | .dataset seed => "Génération du jeu de données (graine " ++ toString seed ++ ")"

/-- What is shown of a table. -/
def tableLine (info : TableInfo) : String :=
  "  " ++ info.name ++ " (" ++ toString info.rows ++ " lignes)"

/-- Answers requests on the tables of a store. -/
def serve (options : Options) (store : Store) : m ExitStatus := do
  Host.print (Desk.withNewline
    ("Démarrage du serveur sur " ++ options.host ++ ":" ++ toString options.port))
  match SocketAddress.ofHost? options.host options.port with
  | some address =>
    Host.serve address options.latency fun request elapsed => Api.respond store request elapsed
  | none =>
    Host.complain SocketAddress.syntaxMessage
    return .failure

/-- Runs the program. -/
def run (list : List String) : m ExitStatus := do
  match options? list with
  | none =>
    Host.complain "usage: [-H HOST] [-p PORT] [-l MILLISECONDS] [--seed N] [-d FOLDER]"
    return .misuse
  | some options =>
    Host.print (Desk.withNewline (announcement options.source))
    match ← options.source.read with
    | .error error =>
      Host.complain error.message
      return .failure
    | .ok store =>
      Host.print (String.join (store.tables.map fun info => Desk.withNewline (tableLine info)))
      serve options store

end LogQuery.CommandLine.Server
