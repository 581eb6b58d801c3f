import LogQuery.Api.Route
import LogQuery.Disk
import LogQuery.Shell.Session
import LogQuery.SocketAddress

/-!
# Hosts

A program asks the machine it runs on for a few things only: to write out texts, to read the
standard input and the disk, to hold a conversation, to listen, to tell how long a query took. A
host grants them. Programs are written for any host, so they run on a real machine as well as on a
modelled one, which has a disk, an input, a clock and an output and nothing else; what they do there
is a function.
-/

namespace LogQuery.CommandLine

open Shell

/-- How a program ends. -/
inductive ExitStatus where
  /-- It has done what was asked. -/
  | success
  /-- It could not. -/
  | failure
  /-- It did not understand its arguments. -/
  | misuse
  /-- It broke off. -/
  | breakdown
  deriving DecidableEq

/-- The number that tells how a program ended. -/
def ExitStatus.code : ExitStatus → UInt8
  | success => 0
  | failure => 1
  | misuse => 2
  | breakdown => 101

/-- What is found at a path where a file is looked for. -/
inductive FileState where
  | missing
  /-- Something that cannot be read. -/
  | unreadable
  | readable (content : ByteArray)

/-- What programs ask of the machine they run on. -/
class Host (m : Type → Type) where
  /-- Computes something, and tells how many milliseconds that took. -/
  timed : {α : Type} → (Unit → α) → m (α × Float)
  /-- Writes a text to the standard output. -/
  print : String → m Unit
  /-- Tells the reason of a failure, apart from the output. -/
  complain : String → m Unit
  /-- Reads all of the standard input. -/
  readInput : m ByteArray
  /-- Runs a session on the lines of the standard input, and gives back what became of it unless it
  broke off. -/
  converse : Session → m (Option Session)
  readFile : (path : String) → m FileState
  /-- Reads the files of a folder whose names are wanted, unless there is no such folder. -/
  readFolder : (path : String) → (wanted : FileName → Bool) →
    m (Option (List (FileName × ByteArray)))
  /-- Writes a file, and tells whether that was possible. -/
  writeFile : (path text : String) → m Bool
  /-- Makes a folder with all folders on the way, and tells whether that was possible. -/
  makeFolder : (path : String) → m Bool
  /-- Answers requests at an address, each after so many milliseconds. An answer tells how long it
  took to find it. -/
  serve : SocketAddress → (latency : UInt64) →
    (Api.Request → (elapsed : Float) → Except Api.Rejection Json) → m ExitStatus

/-- A modelled machine. -/
structure Machine where
  disk : Folder := .empty
  input : ByteArray := ByteArray.empty
  /-- How many milliseconds each query takes: the only one of a program, or in a session the one
  that is finished by the input at a place. -/
  elapsed : Nat → Float := fun _ => 0
  /-- What was written to the standard output. -/
  output : String := ""

namespace Machine

/-- The machine after more output. -/
def wrote (machine : Machine) (text : String) : Machine :=
  { machine with output := machine.output ++ text }

/-- What is found at a path. -/
def fileState (machine : Machine) (path : String) : FileState :=
  match machine.disk.at? path with
  | some (.file content) => .readable content
  | some (.folder _) => .unreadable
  | none => .missing

/-- The wanted files of a folder. -/
def filesIn (machine : Machine) (path : String) (wanted : FileName → Bool) :
    Option (List (FileName × ByteArray)) :=
  match machine.disk.at? path with
  | some (.folder folder) => some ((Folder.listing folder).files.filter (wanted ·.1))
  | _ => none

/-- The machine with a changed disk, unless the change is not possible. -/
def change (machine : Machine) : Option Folder → Bool × Machine
  | some disk => (true, { machine with disk })
  | none => (false, machine)

instance : Host (StateM Machine) where
  timed compute := return (compute (), (← get).elapsed 0)
  print text := modify (·.wrote text)
  complain _ := pure ()
  readInput := return (← get).input
  converse session := do
    let machine ← get
    let course := session.run machine.elapsed (inputs machine.input)
    modify (·.wrote course.output)
    return if course.progress = .brokenOff then none else some course.session
  readFile path := return (← get).fileState path
  readFolder path wanted := return (← get).filesIn path wanted
  writeFile path text := modifyGet fun machine =>
    machine.change (machine.disk.write? path text.toUTF8)
  makeFolder path := modifyGet fun machine => machine.change (machine.disk.makeFolder? path)
  serve _ _ _ := return .success

end Machine

end LogQuery.CommandLine
