import NameRouting.Log.Record
import NameRouting.Property
import NameRouting.Table

/-!
# Logging setup

The level that the program logs at, and the lines that its records become. Setting up twice
changes the level and adds no second destination.
-/

namespace NameRouting.Log

/-- The capital of a letter, for the letters of level names: two small letters outside ASCII also
have a capital inside it. -/
def capital (c : Char) : Char :=
  if c = 'ı' then 'I'
  else if c = 'ſ' then 'S'
  else c.toUpper

/-- The level that a name in any case stands for; every other text means plain information. -/
def levelOf (name : String) : Nat :=
  match String.ofList (name.toList.map capital) with
  | "CRITICAL" | "FATAL" => critical
  | "ERROR" => error
  | "WARNING" | "WARN" => warning
  | "DEBUG" => debug
  | "NOTSET" => 0
  | _ => info

/-- How the program logs: the level of the root, and the number of destinations added so far. -/
structure Setup where
  level : Nat
  destinations : Nat
deriving DecidableEq, Inhabited, Repr

namespace Setup

/-- Nothing has been set up. -/
def initial : Setup :=
  ⟨critical, 0⟩

/-- Sets the level, given by name or else by a variable of the process, and adds a destination if
there is none. -/
def configure (setup : Setup) (name : Option String) (process : Table String) : Setup :=
  let given (text : Option String) : Option String := text.filter (· ≠ "")
  let chosen := (given name).getD ((given (process.get? Property.logLevel)).getD "INFO")
  ⟨levelOf chosen, max setup.destinations 1⟩

/-- The level in force for a logger with a level of its own; zero means that it has none. -/
def effective (setup : Setup) (own : Nat) : Nat :=
  if own = 0 then setup.level else own

/-- Whether a record of a level is written for a logger with a level of its own. -/
def enabled (setup : Setup) (own level : Nat) : Bool :=
  0 < level && setup.effective own ≤ level

end Setup

/-- The line that a record becomes on the error stream. -/
def Record.line (record : Record) : String :=
  "[" ++ levelName record.level ++ "] " ++ record.message

/-- The line that a record becomes in a file, without its time. -/
def Record.fileLine (record : Record) : String :=
  levelName record.level ++ " " ++ record.logger ++ " " ++ record.message

/-- What a setup writes of a record of a logger with a level of its own: nothing as long as there is
no destination. -/
def Setup.written (setup : Setup) (own : Nat) (record : Record) : String :=
  if 0 < setup.destinations && setup.enabled own record.level then record.line ++ "\n" else ""

end NameRouting.Log
