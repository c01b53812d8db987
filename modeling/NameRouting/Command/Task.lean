import NameRouting.Command.Invocation
import NameRouting.Config.Load
import NameRouting.Endpoint.Configured
import NameRouting.Name.Parse
import NameRouting.Name.Scheme
import NameRouting.Plugin.Service

/-!
# Tasks of the command line

Each task reads the configuration first, with the settings of the command line on top, and then
shows what it was asked for. A configuration that cannot be used and a name or an endpoint that is
refused are told in a log record and in the exit code; then nothing is printed. What else stops the
program is handled by nobody.
-/

namespace NameRouting.Command

/-- The name under which the command line writes log records. -/
def logger : String := "cli_naming"

/-- The record that tells where records are logged. -/
def fileRecord (path : String) : Log.Record :=
  ⟨Log.info, logger, "Logging to file: " ++ path, []⟩

/-- How an invocation ends. -/
inductive Exit where
  | success
  | configuration
  | naming
deriving DecidableEq, Inhabited, Repr

/-- The code of an exit. -/
def Exit.code : Exit → Nat
  | success => 0
  | configuration => 1
  | naming => 2

/-- The environment with settings of the form `KEY=VALUE` on top; blanks around a key do not
count. -/
def override (env : Table Value) : List String → Except Fault (Table Value)
  | [] => .ok env
  | item :: rest =>
    match Text.cutAt '=' item.toList with
    | (_, none) => .error (.config (.invalidOverride item))
    | (key, some value) =>
      let key := Text.trim key
      if key.isEmpty then
        .error (.config (.invalidOverride item))
      else
        override (env.insert (String.ofList key) (.text (String.ofList value))) rest

/-- The environment of an invocation. -/
def environment (interpreter : Interpreter) (open? : String → Option (Option ByteArray))
    (process : Table String) (settings : Settings) : Logged (Table Value) := do
  let env ← Config.environment interpreter open? process settings.config
  Logged.ofExcept (override env settings.overrides)

/-- Prints a line, unless the interpreter stops that. -/
def printLine (interpreter : Interpreter) (line : String) : Program Unit :=
  match interpreter.printing line with
  | some cause => Program.fail (.foreign cause)
  | none => Program.print line

/-- Prints lines one after the other. -/
def printAll (interpreter : Interpreter) : List String → Program Unit
  | [] => pure ()
  | line :: rest => do
    printLine interpreter line
    printAll interpreter rest

/-- The lines that show how a name splits. -/
def splitLines (name : String) : Except Fault (List String) := do
  let split := (← CompositeName.parse name).split
  return ["scheme:   " ++ split.scheme.getD "(none)", "residual: " ++ split.residual.render,
    "components: " ++ CompositeName.displayTexts split.residual.components]

/-- The lines that show configured endpoints. -/
def endpointLines : Option (List Endpoint) → List String
  | none => ["(none)"]
  | some [] => ["(empty)"]
  | some endpoints => endpoints.map (·.raw)

/-- The endpoints of an environment, unless the interpreter stops their derivation. -/
def derive (interpreter : Interpreter) (process : Table String) (env : Table Value) :
    Logged (Option (List Endpoint)) :=
  match interpreter.derivation env with
  | some (records, cause) => ⟨.error (.foreign cause), records⟩
  | none => Endpoint.configured ⟨none, process⟩ env

/-- Prints the plugins of a group below a heading. -/
def showGroup (interpreter : Interpreter) (heading group : String)
    (expected : Service.Expected) : Program Unit := do
  printLine interpreter heading
  let services ← Service.load group expected
  printAll interpreter (services.map fun service => "  " ++ service.kindName)

/-- Carries out a task in an environment. -/
def Task.perform (interpreter : Interpreter) (process : Table String) (env : Table Value) :
    Task → Program Unit
  | split name => do
    printAll interpreter (← Program.ofExcept (splitLines name))
  | endpoints => do
    let found ← Program.ofLogged (derive interpreter process env)
    printAll interpreter (endpointLines found)
  | plugins => do
    showGroup interpreter "providers:" Property.providerGroup .provider
    showGroup interpreter "contexts:" Property.contextGroup .context

/-- Tells a fault in a log record and ends with an exit. -/
def giveUp (exit : Exit) (text : String) : Program Exit := do
  Program.log ⟨Log.error, logger, text, []⟩
  return exit

/-- What a fault of a task comes to: only those of the directory itself become an exit. -/
def refused (fault : Fault) : Program Exit :=
  if fault.isNaming then giveUp .naming fault.message else Program.fail fault

/-- Carries out a task in an environment and ends with an exit. -/
def finish (interpreter : Interpreter) (process : Table String) (task : Task)
    (env : Table Value) : Program Exit :=
  Program.handle refused do
    task.perform interpreter process env
    return .success

/-- What a fault of the configuration comes to: only a failure to read it becomes an exit. -/
def unread (fault : Fault) : Program Exit :=
  if fault.isReadFailure then giveUp .configuration ("Configuration error: " ++ fault.message)
  else Program.fail fault

/-- Carries out an invocation. -/
def Invocation.perform (invocation : Invocation) (interpreter : Interpreter)
    (open? : String → Option (Option ByteArray)) (process : Table String) : Program Exit :=
  let configured := environment interpreter open? process invocation.settings
  match configured.outcome with
  | .ok env => do
    Program.ofLogged ⟨.ok (), configured.records⟩
    finish interpreter process invocation.task env
  | .error fault => do
    Program.ofLogged ⟨.ok (), configured.records⟩
    unread fault

end NameRouting.Command
