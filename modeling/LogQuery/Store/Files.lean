import LogQuery.Disk
import LogQuery.Json.Field
import LogQuery.Json.Parser
import LogQuery.Json.Printer
import LogQuery.Store

/-!
# Stores on disk

A store is kept in a folder with one file for each table, an indented document that lists the rows.
The file is named after the table with `.json` behind it. When a folder is loaded, the files with
such names are taken in the order of the bytes of their names; all other entries of the folder are
left alone. A single file whose name is no text, or that does not hold a list of records, makes the
loading fail.
-/

namespace LogQuery

open Text

/-- Why a store cannot be loaded or saved. -/
inductive StoreError where
  /-- A folder or file cannot be read or written. -/
  | inaccessible
  /-- A file does not hold a table, for the given reason. -/
  | invalidTable (file : FileName) (reason : String)
  deriving DecidableEq

/-- The message of an error. -/
def StoreError.message : StoreError → String
  | inaccessible => "I/O error"
  | invalidTable file reason => "Invalid table file " ++ file.shown ++ ": " ++ reason

namespace Store

/-- What the names of table files end with. -/
def fileSuffix : String := ".json"

/-- The name of the file that holds a table. -/
def fileName (table : String) : String := table ++ fileSuffix

/-- What stands before the suffix in the name of a file, unless that is nothing. -/
def stem? (file : FileName) : Option (List UInt8) :=
  let suffix := bytes fileSuffix
  let stem := file.bytes.take (file.bytes.length - suffix.length)
  if stem ≠ [] ∧ file.bytes = stem ++ suffix then some stem else none

/-- Whether a file of the given name has to hold a table. -/
def isTableFile (file : FileName) : Bool := (stem? file).isSome

/-- The table that a file of the given name holds. -/
def tableName? (file : FileName) : Option String := (stem? file).bind text?

/-- Why a file whose name is no text does not hold a table. -/
def nameReason : String := "file name is not a valid table name"

/-- Why a file does not hold a table when its content is no list of records; it stands for all that
can be said about a content. -/
def contentReason : String := "not a list of records"

/-- The rows that the content of a table file denotes. -/
def rows? (content : ByteArray) : Option (List Record) := do
  (← Json.ofBytes? content).rows? Json.maxDepth

/-- The name and the rows of the table in a file. The name is looked at first. -/
def readTable (file : FileName × ByteArray) : Except StoreError (String × List Record) :=
  match tableName? file.1 with
  | none => .error (.invalidTable file.1 nameReason)
  | some name =>
    match rows? file.2 with
    | none => .error (.invalidTable file.1 contentReason)
    | some rows => .ok (name, rows)

/-- The files that have to hold tables, in the order of the bytes of their names. -/
def tableFiles (files : List (FileName × ByteArray)) : List (FileName × ByteArray) :=
  (files.filter (isTableFile ·.1)).mergeSort fun a b => a.1 ≤ b.1

/-- The store that files hold. -/
def ofFiles (files : List (FileName × ByteArray)) : Except StoreError Store := do
  return .ofPairs (← (tableFiles files).mapM readTable)

/-- The store that is found in a folder. -/
def ofListing (listing : Listing) : Except StoreError Store := ofFiles listing.files

/-- The store that a folder holds. -/
def load (folder : Folder) : Except StoreError Store := ofListing folder.listing

/-- The files that hold a store, with the texts in them. -/
def files (store : Store) : List (String × String) :=
  store.entries.map fun (name, rows) => (fileName name, (Json.ofRows rows).indentedText)

/-- Writes the files of a store into a folder. -/
def save (store : Store) (folder : Folder) : Except StoreError Folder :=
  store.files.foldlM (fun folder (name, text) =>
    match folder.write? name text.toUTF8 with
    | some folder => .ok folder
    | none => .error .inaccessible) folder

end Store

end LogQuery
