import NameRouting.Fault
import NameRouting.Value

/-!
# Log records

What happens on the way to an answer is told in log records. A computation that tells something
carries its records beside its outcome, so that both can be reasoned about; which records are shown
is decided where they are printed.
-/

namespace NameRouting

namespace Log

/-- The level of traces. -/
def debug : Nat := 10

/-- The level of plain information. -/
def info : Nat := 20

/-- The level of warnings. -/
def warning : Nat := 30

/-- The level of errors. -/
def error : Nat := 40

/-- The level above all others. -/
def critical : Nat := 50

/-- The name of a level. -/
def levelName (level : Nat) : String :=
  match level with
  | 0 => "NOTSET"
  | 10 => "DEBUG"
  | 20 => "INFO"
  | 30 => "WARNING"
  | 40 => "ERROR"
  | 50 => "CRITICAL"
  | other => "Level " ++ toString other

/-- One record: how grave it is, which part of the program tells it, what it says, and the fields
that describe the event for machines. -/
structure Record where
  level : Nat
  logger : String
  message : String
  fields : List (String × Value)
deriving Inhabited

/-- The fields that have a value. -/
def presentFields (fields : List (String × Value)) : List (String × Value) :=
  fields.filter fun field => match field.2 with
    | .null => false
    | _ => true

/-- A text as a field, when there is one. -/
def optionalText (text : Option String) : Value :=
  text.elim .null .text

/-- The trace of a decision. -/
def trace (logger message : String) (fields : List (String × Value)) : Record :=
  ⟨debug, logger, message, presentFields fields⟩

end Log

/-- The outcome of a computation beside the records that it wrote on the way. -/
structure Logged (α : Type) where
  outcome : Except Fault α
  records : List Log.Record
deriving Inhabited

namespace Logged

variable {α β : Type}

/-- Ends well without writing anything. -/
def pure (a : α) : Logged α :=
  ⟨.ok a, []⟩

/-- Goes on with the result; after a fault nothing else happens. -/
def bind (first : Logged α) (next : α → Logged β) : Logged β :=
  match first.outcome with
  | .ok a => ⟨(next a).outcome, first.records ++ (next a).records⟩
  | .error fault => ⟨.error fault, first.records⟩

instance : Monad Logged where
  pure := Logged.pure
  bind := Logged.bind

/-- Writes one record. -/
def write (record : Log.Record) : Logged Unit :=
  ⟨.ok (), [record]⟩

/-- Ends with a fault. -/
def fail (fault : Fault) : Logged α :=
  ⟨.error fault, []⟩

/-- Takes over an outcome that wrote nothing. -/
def ofExcept (outcome : Except Fault α) : Logged α :=
  ⟨outcome, []⟩

end Logged

end NameRouting
