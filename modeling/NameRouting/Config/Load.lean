import NameRouting.Config.Flatten
import NameRouting.Interpreter
import NameRouting.Property
import NameRouting.Text.Lowercase

/-!
# Loading a configuration

The environment is read from one file: the one that is asked for, or else the first that exists
among the one that a variable of the process names and the usual places. The document in it is in
JSON when the name of the file says so and in YAML otherwise, and must be a mapping.
-/

namespace NameRouting.Config

/-- The name under which this part of the program writes log records. -/
def logger : String := "naming.config"

/-- The paths that are tried, in order. -/
def candidates (process : Table String) (path : Option String) : List String :=
  match path.filter (· ≠ "") with
  | some path => [path]
  | none =>
    ((process.get? Property.configFile).filter (· ≠ "")).toList ++ Property.configPlaces

/-- Drops the slashes at the end of a path. -/
def dropSlashes (cs : List Char) : List Char :=
  (cs.reverse.dropWhile (· == '/')).reverse

/-- A path with a home directory in place of a tilde in front, and of the name of an account that
follows it. -/
def expandHome (interpreter : Interpreter) (process : Table String) (path : String) : String :=
  match path.toList with
  | '~' :: rest =>
    let (account, below) := rest.span (· != '/')
    let home? :=
      if account.isEmpty then (process.get? "HOME").or (interpreter.home? none)
      else interpreter.home? (some (String.ofList account))
    match home? with
    | none => path
    | some home =>
      let expanded := dropSlashes home.toList ++ below
      if expanded.isEmpty then "/" else String.ofList expanded
  | _ => path

/-- Whether a file holds JSON, which its name says in either case of letters. -/
def isJson (path : String) : Bool :=
  ".json".toList.reverse.isPrefixOf (Text.lowercase path.toList).reverse

/-- What a failure to read the document in a file comes to. -/
def ofReadFault (path : String) : ReadFault → Fault
  | .malformed reason => .config (.unreadable path reason)
  | .raised cause => .foreign cause

/-- The document in a file, if the file may be opened. -/
def readOpened (interpreter : Interpreter) (path : String) :
    Option ByteArray → Except Fault Value
  | none => .error (.config (.denied path))
  | some bytes => (interpreter.read (isJson path) bytes).mapError (ofReadFault path)

/-- The entries of the mapping that a file holds; a file that holds nothing is an empty mapping. -/
def readEntries (interpreter : Interpreter) (path : String) (content : Option ByteArray) :
    Except Fault (List (Value × Value)) :=
  match readOpened interpreter path content with
  | .error fault => .error fault
  | .ok .null => .ok []
  | .ok (.map entries) => .ok entries
  | .ok _ => .error (.config (.notAMapping path))

/-- The properties of the entries of a mapping. -/
def properties (interpreter : Interpreter) (entries : List (Value × Value)) :
    Except Fault (Table Value) :=
  match interpreter.flattening entries with
  | some cause => .error (.foreign cause)
  | none => .ok (flatten entries "")

/-- The warning that the file asked for is missing. -/
def missing (path : String) : Log.Record :=
  ⟨Log.warning, logger, "Config file not found: " ++ path, []⟩

/-- The trace of a file that was read. -/
def loaded (path : String) : Log.Record :=
  ⟨Log.debug, logger, "Loaded naming config from " ++ path, []⟩

/-- The environment of the first file that exists; a missing file is worth a warning only when it
was `asked` for. -/
def loadFirst (interpreter : Interpreter) (open? : String → Option (Option ByteArray))
    (process : Table String) (asked : Bool) : List String → Logged (Table Value)
  | [] => pure .empty
  | candidate :: rest => do
    let path := expandHome interpreter process candidate
    match open? path with
    | none =>
      if asked then
        Logged.write (missing path)
      loadFirst interpreter open? process asked rest
    | some content =>
      let entries ← Logged.ofExcept (readEntries interpreter path content)
      Logged.write (loaded path)
      Logged.ofExcept (properties interpreter entries)

/-- The environment that is configured. -/
def environment (interpreter : Interpreter) (open? : String → Option (Option ByteArray))
    (process : Table String) (path : Option String) : Logged (Table Value) :=
  loadFirst interpreter open? process (path.any (· ≠ "")) (candidates process path)

end NameRouting.Config
