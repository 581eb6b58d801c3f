import LogQuery.CommandLine.Server

/-!
# The real machine

The two programs on the machine that runs them. They share one executable: called by a name that
ends in `server` it is the server program, by any other name the console program.
-/

namespace LogQuery

open Shell CommandLine

/-- The bytes up to the next line feed and with it, if there is one. -/
def readLine (stream : IO.FS.Stream) : IO ByteArray := do
  let mut line := ByteArray.empty
  repeat
    let bytes ← stream.read 1
    line := line ++ bytes
    if bytes.isEmpty || bytes.toList = [10] then break
  return line

/-- Computes something, and tells how many milliseconds that took. -/
def measured {α : Type} (compute : Unit → α) : IO (α × Float) := do
  let start ← IO.monoNanosNow
  let result ← IO.lazyPure compute
  let stop ← IO.monoNanosNow
  return (result, Float.ofNat (stop - start) / 1000000)

/-- Runs a session on the lines of the standard input, as they come. -/
def converseOnTerminal (session : Session) : IO (Option Session) := do
  let input ← IO.getStdin
  let output ← IO.getStdout
  let mut session := session
  repeat
    output.putStr session.prompt
    output.flush
    let line ← readLine input
    let (turn, elapsed) ← measured fun _ => session.respond ((inputs line).headD .ended)
    output.putStr (turn.output elapsed)
    output.flush
    session := turn.session
    if turn.progress = .over then break
    if turn.progress = .brokenOff then return none
  return some session

/-- Whether an action can be done. -/
def succeeds (action : IO Unit) : IO Bool :=
  try
    action
    return true
  catch _ => return false

/-- The real machine. It does not listen. -/
instance : Host IO where
  timed := measured
  print text := do
    let output ← IO.getStdout
    output.putStr text
    output.flush
  complain text := IO.eprintln text
  readInput := do (← IO.getStdin).readBinToEnd
  converse := converseOnTerminal
  readFile path := do
    if ← ((← IO.currentDir) / path).pathExists then
      try
        return .readable (← IO.FS.readBinFile path)
      catch _ => return .unreadable
    else return .missing
  readFolder path wanted := do
    try
      let mut files := []
      for entry in ← ((← IO.currentDir) / path).readDir do
        if wanted entry.fileName && !(← entry.path.isDir) then
          files := (.ofText entry.fileName, ← IO.FS.readBinFile entry.path) :: files
      return some files
    catch _ => return none
  writeFile path text := succeeds (IO.FS.writeFile path text)
  makeFolder path := succeeds (IO.FS.createDirAll path)
  serve address _ _ := do
    IO.eprintln ("cannot listen on " ++ String.ofList address.text)
    return .failure

end LogQuery

/-- Runs the program whose name the executable is called by. -/
def main (arguments : List String) : IO UInt32 := do
  let name := (← IO.appPath).fileName.getD ""
  let status ← if name.endsWith "server" then LogQuery.CommandLine.Server.run arguments
    else
      let color := LogQuery.Report.paints (← IO.getEnv "CLICOLOR_FORCE") (← IO.getEnv "NO_COLOR")
        (← IO.getEnv "CLICOLOR") (← (← IO.getStdout).isTty)
      LogQuery.CommandLine.Console.run color arguments
  return status.code.toUInt32
