import LogQuery.OrderedMap
import LogQuery.Text.Bytes

/-!
# Files and folders

A disk is a folder, whose entries are files of bytes and other folders. A path names an entry by
steps separated by slashes, taken from the root of the disk: an empty step and a dot stay where they
are, two dots go back, and every other step goes to the entry of that name. A step can be taken from
a folder only, so a path that ends in a slash leads to a folder or nowhere.

A file can be written where its folder exists and no folder is in its place. A folder is made
together with the folders on the way to it.

Paths are texts, and so are the names that they write. A folder that was written by others can have
entries whose names are no texts, so what is found in a folder has names of bytes.
-/

namespace LogQuery

open Text

/-- The name of an entry as it is found in a folder: bytes, which need not make up a text. -/
structure FileName where
  bytes : List UInt8
  deriving DecidableEq

namespace FileName

/-- The name that a text is. -/
def ofText (text : String) : FileName := ⟨Text.bytes text⟩

/-- The name as it is shown to a reader. -/
def shown (name : FileName) : String := String.ofList (shownCharacters name.bytes)

/-- Names are ordered by their bytes. -/
instance : LE FileName := ⟨fun a b => a.bytes ≤ b.bytes⟩

instance : DecidableLE FileName := fun a b => inferInstanceAs (Decidable (a.bytes ≤ b.bytes))

instance : Coe String FileName := ⟨ofText⟩

instance : Coe FileName String := ⟨shown⟩

end FileName

/-- An entry of a folder. -/
inductive Entry where
  | file (content : ByteArray)
  | folder (entries : OrderedMap Entry)

/-- A folder: an ordered map from names to entries. -/
abbrev Folder := OrderedMap Entry

/-- What is found in a folder: entries in any order. -/
abbrev Listing := List (FileName × Entry)

/-- The greatest number of bytes in the name of an entry. -/
def maxNameSize : Nat := 255

/-- Whether an entry can be given a name. -/
def fitsEntry (name : String) : Bool := name.utf8ByteSize ≤ maxNameSize

/-- The steps of a path that leads somewhere on the disk: it is not empty, does not begin with a
slash and has no null character. -/
def pathSteps? (path : String) : Option (List String) :=
  let text := path.toList
  if text = [] ∨ text.head? = some '/' ∨ '\x00' ∈ text then none
  else some ((text.splitOn '/').map String.ofList)

namespace Entry

/-- What an entry holds if it is a file. -/
def content? : Entry → Option ByteArray
  | file content => some content
  | folder _ => none

/-- The entry that a list of names leads to. -/
def descend? : Entry → List String → Option Entry
  | entry, [] => some entry
  | .folder entries, name :: rest => (entries.get? name).bind (·.descend? rest)
  | .file _, _ :: _ => none

end Entry

/-- The files that are found in a folder, with their contents. -/
def Listing.files (listing : Listing) : List (FileName × ByteArray) :=
  listing.filterMap fun (name, entry) => entry.content?.map (name, ·)

namespace Folder

/-- The names that lead to where steps end, which are taken from the folder at `here`. The last step
need not lead to an entry. -/
def place? (root : Folder) : (here : List String) → (steps : List String) → Option (List String)
  | here, [] => some here
  | here, step :: rest =>
    match (Entry.folder root).descend? here with
    | some (.folder _) =>
      if step = "" ∨ step = "." then place? root here rest
      else if step = ".." then if here = [] then none else place? root here.dropLast rest
      else place? root (here ++ [step]) rest
    | _ => none

/-- The entry at a path. -/
def at? (root : Folder) (path : String) : Option Entry := do
  (Entry.folder root).descend? (← root.place? [] (← pathSteps? path))

/-- Puts an entry where names lead, whose folders exist. -/
def put (entry : Entry) : (names : List String) → Folder → Folder
  | [], folder => folder
  | [name], folder => folder.insert name entry
  | name :: rest, folder =>
    match folder.get? name with
    | some (.folder inner) => folder.insert name (.folder (put entry rest inner))
    | _ => folder

/-- Writes a file, unless its path leads to no place for one. -/
def write? (root : Folder) (path : String) (content : ByteArray) : Option Folder := do
  let names ← root.place? [] (← pathSteps? path)
  match (Entry.folder root).descend? names with
  | some (.folder _) => none
  | some (.file _) => some (put (.file content) names root)
  | none => if names.all fitsEntry then some (put (.file content) names root) else none

/-- Makes the folders that steps from the folder at `here` lead through. -/
def make? (root : Folder) : (here : List String) → (steps : List String) → Option Folder
  | _, [] => some root
  | here, step :: rest =>
    if step = "" ∨ step = "." then make? root here rest
    else if step = ".." then if here = [] then none else make? root here.dropLast rest
    else
      let next := here ++ [step]
      match (Entry.folder root).descend? next with
      | some (.folder _) => make? root next rest
      | some (.file _) => none
      | none =>
        if fitsEntry step then make? (put (.folder .empty) next root) next rest else none

/-- Makes the folder at a path, unless a file is in the way. -/
def makeFolder? (root : Folder) (path : String) : Option Folder := do
  root.make? [] (← pathSteps? path)

/-- The files of a folder with their contents. -/
def files (folder : Folder) : List (String × ByteArray) :=
  folder.entries.filterMap fun (name, entry) => entry.content?.map (name, ·)

/-- What is found in a folder. -/
def listing (folder : Folder) : Listing :=
  folder.entries.map fun (name, entry) => (.ofText name, entry)

end Folder

end LogQuery
