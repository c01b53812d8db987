import NameRouting.Log.Record
import NameRouting.Table

/-!
# The interpreter

What the program leaves to the interpreter that runs it and to the packages of others: to read a
document, which is all that it knows of the formats of documents, and to go on with work that is
too deep or too long for the interpreter. All this is given from outside, so that statements about
the program are statements about every reader and about all limits.
-/

namespace NameRouting

/-- Why a document has no value: it does not follow its format, or an exception stops its reader. -/
inductive ReadFault where
  | malformed (reason : String)
  | raised (cause : Raised)
deriving DecidableEq, Inhabited, Repr

/-- What the program takes from outside. -/
structure Interpreter where
  /-- Reads the bytes of a document in JSON, or else in YAML. A collection that contains itself has
  a foreign value in its own place. -/
  read : (json : Bool) → ByteArray → Except ReadFault Value
  /-- What stops the flattening of a mapping, such as nesting that is too deep or a whole number
  that is too long to have a text. -/
  flattening : List (Value × Value) → Option Raised
  /-- What stops the derivation of endpoints from an environment, and the records until then. -/
  derivation : Table Value → Option (List Log.Record × Raised)
  /-- What stops the printing of a line, such as a character that the output cannot encode. Nothing
  of the line is printed then. -/
  printing : String → Option Raised
  /-- The home directory of the account with a name, or of the one that runs the program. -/
  home? : Option String → Option String

end NameRouting
