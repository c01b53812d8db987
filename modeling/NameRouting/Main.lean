import NameRouting.Command.Task
import NameRouting.Log.Setup
import NameRouting.Reader.Document

/-!
# The program

Reads the variables of the process, the accounts and the files that may hold a configuration, lets
the pure program decide everything, and writes what it tells. No plugins are installed.
-/

namespace NameRouting

/-- A world without plugins. -/
def bareHost : Host Unit :=
  ⟨fun request state =>
    match request with
    | .entryPoints _ => (.ok [], state)
    | _ => (.error (.naming "no plugins are installed"), state)⟩

/-- A variable of the process from its line, which has the name first. -/
def readVariable (line : List Char) : Option (String × String) :=
  match Text.cutAt '=' line with
  | (name, some value) => some (String.ofList name, String.ofList value)
  | (_, none) => none

/-- The file at a path, if there is one: its bytes, unless it may not be opened. -/
def readPath (path : String) : IO (Option (Option ByteArray)) := do
  try
    return some (some (← IO.FS.readBinFile path))
  catch
    | .permissionDenied _ _ _ => return some none
    | _ => return none

/-- The variables of the process. -/
def readVariables : IO (Table String) := do
  let bytes := ((← readPath "/proc/self/environ").bind id).getD .empty
  let lines := Text.pieces '\x00' ((String.fromUTF8? bytes).getD "").toList
  return Table.ofEntries (lines.filterMap readVariable)

/-- The lines of a text file; there are none when it cannot be read. -/
def readLines (path : String) : IO (List (List Char)) := do
  let bytes := ((← readPath path).bind id).getD .empty
  return Text.pieces '\n' ((String.fromUTF8? bytes).getD "").toList

/-- The home directories of the accounts of the machine, by name or for the one that runs the
program. -/
def readAccounts : IO (Option String → Option String) := do
  let accounts : List (List String) := (← readLines "/etc/passwd").map fun line =>
    (Text.pieces ':' line).map String.ofList
  let status : List (List String) := (← readLines "/proc/self/status").map fun line =>
    (Text.pieces '\t' line).map String.ofList
  let user := (status.find? fun fields => fields[0]? == some "Uid:").bind (·[1]?)
  return fun name =>
    let found := match name with
      | some name => accounts.find? fun account => account[0]? == some name
      | none => accounts.find? fun account => account[2]?.isSome && account[2]? == user
    found.bind (·[5]?)

/-- The files that may hold the configuration of an invocation. -/
def readFiles (interpreter : Interpreter) (process : Table String) (settings : Command.Settings) :
    IO (List (String × Option ByteArray)) := do
  let mut found := []
  for candidate in Config.candidates process settings.config do
    let path := Config.expandHome interpreter process candidate
    if let some content ← readPath path then
      found := found ++ [(path, content)]
  return found

/-- Writes a log record to the error stream and to the log file. -/
def writeRecord (setup : Log.Setup) (logFile : Option IO.FS.Handle) (record : Log.Record) :
    IO Unit := do
  if setup.enabled 0 record.level then
    IO.eprintln record.line
    if let some handle := logFile then
      handle.putStrLn record.fileLine

/-- Writes what was told while a program ran. -/
def writeEvents (setup : Log.Setup) (logFile : Option IO.FS.Handle) (events : List Event) :
    IO Unit := do
  for event in events do
    match event with
    | .told (.record record) => writeRecord setup logFile record
    | .told (.line text) => IO.println text
    | .asked _ _ => pure ()

/-- Carries out an invocation. -/
def carryOut (invocation : Command.Invocation) : IO UInt32 := do
  let settings := invocation.settings
  let process ← readVariables
  let setup := Log.Setup.initial.configure (some settings.logLevel) process
  let logFile ← (settings.logFile.filter (· ≠ "")).mapM fun path =>
    IO.FS.Handle.mk path .append
  if logFile.isSome then
    writeRecord setup logFile (Command.fileRecord (settings.logFile.getD ""))
  let interpreter := { Reader.interpreter with home? := ← readAccounts }
  let files ← readFiles interpreter process settings
  let run := (invocation.perform interpreter (files.lookup ·) process).run bareHost ()
  writeEvents setup logFile run.events
  match run.outcome with
  | .ok exit => return exit.code.toUInt32
  | .error fault => throw (IO.userError fault.message)

end NameRouting

/-- Calls the program with the arguments of the process. -/
def main (args : List String) : IO UInt32 :=
  match NameRouting.Command.Invocation.read args with
  | .ok invocation => NameRouting.carryOut invocation
  | .error refusal => do
    IO.eprintln NameRouting.Command.usage
    return refusal.code.toUInt32
