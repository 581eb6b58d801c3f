import LogQuery.Report.Reporter
import LogQuery.Text.Blank

/-!
# Commands

A line that begins with a dot, where no query is being typed, is a command. Its first word says what
to do and its second word, where there is one, with what; further words do not count.
-/

namespace LogQuery.Shell

open Text

/-- What the shell can be told to do. -/
inductive Command where
  | help
  | exit
  | tables
  /-- Choose the form of the answers. -/
  | format (name : Option String)
  /-- Show the history, or the queries in it that hold a text. -/
  | history (part : Option String)
  /-- Anything else. -/
  | unknown (name : String)
  deriving DecidableEq

/-- Why a command fails. -/
inductive CommandError where
  /-- A server does not answer. -/
  | serverUnavailable (address : String)
  /-- There is no form of this name. -/
  | unknownFormat (name : String)
  /-- There is no command of this name. -/
  | unknownCommand (name : String)
  /-- The command lacks a word. -/
  | usage (text : String)
  deriving DecidableEq

/-- The message of an error. -/
def CommandError.message : CommandError → String
  | serverUnavailable address => "Serveur injoignable: " ++ address
  | unknownFormat name => "Format inconnu: " ++ name ++ " (attendu: text, json, table)"
  | unknownCommand name => "Commande inconnue: ." ++ name
  | usage text => "Usage: " ++ text

namespace Command

/-- The command that the words behind the dot denote. -/
def ofWords : List String → Command
  | [] => unknown ""
  | name :: rest =>
    match name with
    | "help" => help
    | "exit" | "quit" => exit
    | "tables" => tables
    | "format" => format rest.head?
    | "history" => history rest.head?
    | _ => unknown name

/-- The command that a line denotes. -/
def parse? (line : List Char) : Option Command :=
  match trim line with
  | '.' :: rest => some (ofWords ((words rest).map String.ofList))
  | _ => none

/-- The form of a name in letters of any size. -/
def chosenFormat (name : String) : Except CommandError Report.Format :=
  match Report.Format.ofName? (String.ofList (name.toList.map Char.toLower)) with
  | some chosen => .ok chosen
  | none => .error (.unknownFormat name)

/-- The lines that show the commands. -/
def helpLines : List String :=
  ["Commandes disponibles:",
   "  .help                     Affiche cette aide",
   "  .exit, .quit              Quitte le CLI",
   "  .tables                   Liste les tables et leur nombre de lignes",
   "  .format <text|json|table> Définit le format de sortie",
   "  .history [motif]          Affiche l'historique des requêtes (filtré par motif optionnel)",
   "",
   "Toute autre entrée est ajoutée à la requête en cours.",
   "Une ligne vide ou un ';' final l'exécute, par exemple:",
   "  SigninLogs",
   "  | where ResultType == 50126",
   "  | summarize Attempts = count() by UserPrincipalName;"]

end Command

end LogQuery.Shell
