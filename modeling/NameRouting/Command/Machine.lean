import NameRouting.Command.Task
import NameRouting.Files
import NameRouting.Log.Setup

/-!
# The machine around the command line

The program runs in an interpreter on a machine with files, process variables, an output stream and
an error stream.
Log records at the level in force go to the error stream and to every log file that was opened so
far; a log file is opened before anything else happens, and stays open for later invocations.
-/

namespace NameRouting.Command

/-- The machine that the program runs on: the interpreter, the files with the current directory, the
variables of the process, how it logs, the places of the open log files, and what was written to
its two streams. -/
structure Machine where
  interpreter : Interpreter
  files : FileTree
  process : Table String
  setup : Log.Setup
  logFiles : List (List String)
  output : String
  errors : String

/-- How a call of the program ends: with an exit code, with a command line that was refused, or with
a fault that nothing handled. -/
inductive Ending where
  | exit (code : Nat)
  | refusal (refusal : Refusal)
  | fault (fault : Fault)
deriving DecidableEq, Inhabited, Repr

namespace Machine

/-- The machine before anything was run on it. -/
def initial (interpreter : Interpreter) (files : FileTree) (process : Table String) : Machine :=
  ⟨interpreter, files, process, .initial, [], "", ""⟩

/-- The files with text added to an open log file. -/
def appendTo (text : String) (files : FileTree) (place : List String) : FileTree :=
  match files.append place text "" with
  | .ok files => files
  | .error _ => files

/-- Writes a log record wherever records go. -/
def write (machine : Machine) (record : Log.Record) : Machine :=
  let line := if machine.setup.enabled 0 record.level then record.fileLine ++ "\n" else ""
  { machine with
    errors := machine.errors ++ machine.setup.written 0 record
    files := machine.logFiles.foldl (appendTo line) machine.files }

/-- Takes over what happened while a program ran. -/
def absorb (machine : Machine) : List Event → Machine
  | [] => machine
  | .told (.record record) :: rest => (machine.write record).absorb rest
  | .told (.line text) :: rest =>
    { machine with output := machine.output ++ text ++ "\n" }.absorb rest
  | .asked _ _ :: rest => machine.absorb rest

/-- Opens a log file, which is made when there is none. -/
def openLog (machine : Machine) (path : String) : Except Fault Machine :=
  let place := FileTree.placeOf machine.files.here path
  match machine.files.append place "" ("/" ++ "/".intercalate place) with
  | .error fault => .error fault
  | .ok files =>
    .ok ({ machine with files, logFiles := machine.logFiles ++ [place] }.write (fileRecord path))

/-- Sets up logging as the command line asks for. -/
def configure (machine : Machine) (settings : Settings) : Machine :=
  { machine with setup := machine.setup.configure (some settings.logLevel) machine.process }

/-- Opens the log file that the command line names, if it does. -/
def openLogs (machine : Machine) (settings : Settings) : Except Fault Machine :=
  match settings.logFile.filter (· ≠ "") with
  | none => .ok machine
  | some path => machine.openLog path

/-- Calls the program with a command line. -/
def call {σ : Type} (machine : Machine) (host : Host σ) (args : List String) (state : σ) :
    Ending × Machine × σ :=
  match Invocation.read args with
  | .error refusal => (.refusal refusal, machine, state)
  | .ok invocation =>
    let machine := machine.configure invocation.settings
    match machine.openLogs invocation.settings with
    | .error fault => (.fault fault, machine, state)
    | .ok machine =>
      let run := (invocation.perform machine.interpreter machine.files.open?
        machine.process).run host state
      let ending := match run.outcome with
        | .ok exit => .exit exit.code
        | .error fault => .fault fault
      (ending, machine.absorb run.events, run.state)

/-- Calls the program several times, as long as it ends with an exit code. -/
def callTimes {σ : Type} (host : Host σ) (args : List String) :
    (count : Nat) → Machine → σ → Ending × Machine × σ
  | 0, machine, state => (.exit 0, machine, state)
  | 1, machine, state => machine.call host args state
  | count + 2, machine, state =>
    match machine.call host args state with
    | (.exit _, machine, state) => callTimes host args (count + 1) machine state
    | ended => ended

end Machine

end NameRouting.Command
