import NameRouting.Command.Argument

/-!
# Invocations

A command line has global flags, then the name of a command, then the arguments of the command.
Nothing but the name to split belongs to a command.
-/

namespace NameRouting.Command

/-- What the program is asked to show: how a name splits, which endpoints are configured, or which
plugins are installed. -/
inductive Task where
  | split (name : String)
  | endpoints
  | plugins
deriving DecidableEq, Inhabited, Repr

/-- The global settings of a command line. -/
structure Settings where
  config : Option String
  overrides : List String
  logLevel : String
  logFile : Option String
deriving DecidableEq, Inhabited, Repr

/-- A command line that was understood. -/
structure Invocation where
  settings : Settings
  task : Task
deriving DecidableEq, Inhabited, Repr

/-- The settings of a command line without flags. -/
def Settings.initial : Settings :=
  ⟨none, [], "INFO", none⟩

/-- The levels that the program can log at. -/
def logLevels : List String :=
  ["DEBUG", "INFO", "WARNING", "ERROR", "CRITICAL"]

/-- The settings with the value of one more flag. -/
def Settings.set (settings : Settings) (flag : Flag) (value : String) : Except Refusal Settings :=
  match flag with
  | .config => .ok { settings with config := some value }
  | .override => .ok { settings with overrides := settings.overrides ++ [value] }
  | .logFile => .ok { settings with logFile := some value }
  | .logLevel =>
    if logLevels.contains value then .ok { settings with logLevel := value } else .error .misuse
  | .help => .error .help

/-- The flags that every command has. -/
def taskFlags : List Spelling :=
  [.short 'h' .help, .long "help" .help]

/-- The flags in front of a command. -/
def globalFlags : List Spelling :=
  taskFlags ++ [.short 'c' .config, .long "config" .config, .long "set" .override,
    .long "loglevel" .logLevel, .long "logfile" .logFile]

/-- What is said about the form of a command line. -/
def usage : String :=
  "usage: naming-router [-h] [-c CONFIG] [--set KEY=VALUE] [--loglevel LEVEL] " ++
    "[--logfile LOGFILE] (split NAME | endpoints | plugins)"

/-- The help that the arguments of a command ask for, if they do. -/
def helpAsked : List (String × Piece) → Option Refusal
  | [] => none
  | (_, .flagged found) :: _ => some (found.help taskFlags false)
  | _ :: rest => helpAsked rest

/-- The name among the arguments of a command, which must have no other; a divider may stand in
front of it or after it. -/
def onlyName : List (String × Piece) → Except Refusal String
  | [(name, .plain)] => .ok name
  | [(_, .divider), (name, .plain)] => .ok name
  | [(name, .plain), (_, .divider)] => .ok name
  | _ => .error .misuse

/-- The task that a command with its arguments stands for. -/
def readTask (command : String) (args : List String) : Except Refusal Task := do
  let args ← if ["split", "endpoints", "plugins"].contains command then pieces taskFlags args
    else .error .misuse
  match helpAsked args with
  | some refusal => .error refusal
  | none =>
    match command with
    | "split" => (onlyName args).map .split
    | "endpoints" => if args.isEmpty then .ok .endpoints else .error .misuse
    | _ => if args.isEmpty then .ok .plugins else .error .misuse

/-- Reads flags up to the command. A flag that is unknown is an error only at the end, so that help
is still given. -/
def readArguments (settings : Settings) (unknown : Bool) :
    List (String × Piece) → Except Refusal Invocation
  | [] => .error .misuse
  | (_, .divider) :: _ => .error .misuse
  | (_, .unknown) :: rest => readArguments settings true rest
  | (command, .plain) :: rest => do
    let task ← readTask command (rest.map (·.1))
    if unknown then .error .misuse else .ok ⟨settings, task⟩
  | (_, .flagged ⟨short, flag, attached⟩) :: rest =>
    if flag = .help then
      let nextIsPlain := match rest with
        | (_, .plain) :: _ => true
        | _ => false
      .error (Flagged.help ⟨short, flag, attached⟩ globalFlags nextIsPlain)
    else
      match attached, rest with
      | some value, rest => do
        readArguments (← settings.set flag (String.ofList value)) unknown rest
      | none, (value, .plain) :: rest => do
        readArguments (← settings.set flag value) unknown rest
      | none, _ => .error .misuse

/-- The invocation that a command line stands for. -/
def Invocation.read (args : List String) : Except Refusal Invocation := do
  readArguments .initial false (← pieces globalFlags args)

end NameRouting.Command
