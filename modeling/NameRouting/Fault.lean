import NameRouting.Name.Basic

/-!
# Faults

Everything that can go wrong, by cause. The wording of each fault is in one function, so no other
module composes messages. Failures of the directory itself are the naming faults; the rest are
faults of arguments, of addresses, of configuration files, and whatever a plugin raises.
-/

namespace NameRouting

/-- Why an address is not well formed. -/
inductive UriFault where
  | malformedEscape (index : Nat)
  | illegalCharacter (index : Nat)
  | secondFragment
  | expectedScheme
  | strayBracket
  | unpairedBracket
  | futureAddress
  | notAnAddress (host : String)
  | bracketedIpv4
  | compatibilityForm (authority : String)
  | portNotNumber (port : String)
  | portOutOfRange
  | malformedIpv6 (host : String)
  | illegalPort (port : String)
  | missingHost
  | tooManyDigits (count : Nat)
deriving DecidableEq, Inhabited, Repr

namespace UriFault

/-- What is said about numbers whose digits are too many to be read. -/
def digitLimit (count : Nat) : String :=
  "Exceeds the limit (4300 digits) for integer string conversion: value has " ++ toString count ++
    " digits; use sys.set_int_max_str_digits() to increase the limit"

/-- The wording of a fault in an address. -/
def message : UriFault → String
  | malformedEscape index => "Malformed escape pair at index " ++ toString index
  | illegalCharacter index => "Illegal character at index " ++ toString index
  | secondFragment => "Illegal character '#' in fragment"
  | expectedScheme => "Expected scheme name at index 0"
  | strayBracket => "Brackets are only allowed around an IPv6 host"
  | unpairedBracket => "Invalid IPv6 URL"
  | futureAddress => "IPvFuture address is invalid"
  | notAnAddress host => Text.quoted host ++ " does not appear to be an IPv4 or IPv6 address"
  | bracketedIpv4 => "An IPv4 address cannot be in brackets"
  | compatibilityForm authority =>
    "netloc '" ++ authority ++ "' contains invalid characters under NFKC normalization"
  | portNotNumber port => "Port could not be cast to integer value as " ++ Text.quoted port
  | portOutOfRange => "Port out of range 0-65535"
  | malformedIpv6 host => "Malformed IPv6 address: " ++ host
  | illegalPort port => "Illegal port: " ++ port
  | missingHost => "Expected hostname"
  | tooManyDigits count => digitLimit count

end UriFault

/-- Why a position in a name cannot be used. -/
inductive PositionFault where
  | outOfRange
  | removalOutOfRange
  | removalFromEmpty
  | unfitForReading
  | unfitForChange
  | notANumber (text : String)
  | notAFraction
  | infinite
  | notConvertible (kind : String)
deriving DecidableEq, Inhabited, Repr

namespace PositionFault

/-- The wording of a fault in a position. -/
def message : PositionFault → String
  | outOfRange => "list index out of range"
  | removalOutOfRange => "pop index out of range"
  | removalFromEmpty => "pop from empty list"
  | unfitForReading => "cannot fit 'int' into an index-sized integer"
  | unfitForChange => "Python int too large to convert to C ssize_t"
  | notANumber text => "invalid literal for int() with base 10: " ++ Text.quoted text
  | notAFraction => "cannot convert float NaN to integer"
  | infinite => "cannot convert float infinity to integer"
  | notConvertible kind =>
    "int() argument must be a string, a bytes-like object or a real number, not '" ++ kind ++ "'"

end PositionFault

/-- Why a configuration cannot be used. -/
inductive ConfigFault where
  | unreadable (path reason : String)
  | notAMapping (path : String)
  | invalidOverride (item : String)
  | noSuchFile (path : String)
  | isDirectory (path : String)
  | notADirectory (path : String)
  | denied (path : String)
deriving DecidableEq, Inhabited, Repr

namespace ConfigFault

/-- The wording of a fault in a configuration. -/
def message : ConfigFault → String
  | unreadable path reason => "Failed to parse config file " ++ path ++ ": " ++ reason
  | notAMapping path => "Config file " ++ path ++ " must contain a mapping"
  | invalidOverride item => "Invalid --set value (expected KEY=VALUE): " ++ item
  | noSuchFile path => "[Errno 2] No such file or directory: " ++ Text.quoted path
  | isDirectory path => "[Errno 21] Is a directory: " ++ Text.quoted path
  | notADirectory path => "[Errno 20] Not a directory: " ++ Text.quoted path
  | denied path => "[Errno 13] Permission denied: " ++ Text.quoted path

end ConfigFault

/-- An exception that the interpreter or a package raises on its own account, with the name of its
kind and its text: a failure of a value, a failure of the operating system, or any other. Handlers
tell these three apart. -/
inductive Raised where
  | value (kind message : String)
  | system (kind message : String)
  | other (kind message : String)
deriving DecidableEq, Inhabited, Repr

namespace Raised

/-- The name of the kind of an exception. -/
def kind : Raised → String
  | value kind _ | system kind _ | other kind _ => kind

/-- The text of an exception. -/
def message : Raised → String
  | value _ message | system _ message | other _ message => message

/-- Whether who reads a configuration is prepared for an exception. -/
def isExpected : Raised → Bool
  | value _ _ | system _ _ => true
  | other _ _ => false

end Raised

/-- Everything that can go wrong in the library or in a plugin that it calls. -/
inductive Fault where
  /-- A failure of the directory without a more exact cause. -/
  | naming (message : String)
  /-- A configured endpoint is not a well-formed address. -/
  | invalidEndpoint (raw : String) (reason : Option String)
  /-- Every way to serve a name scheme was exhausted. -/
  | noProvider (scheme : Option String)
  /-- A text could not be read as a name. -/
  | malformedName (name reason : String)
  /-- Nothing is bound under the requested name. -/
  | nameNotFound (name : GivenName)
  /-- The context does not offer the requested operation. -/
  | notSupported (message : String)
  /-- There is no name to read. -/
  | missingName
  /-- A parameter that needs a value has none. -/
  | missingArgument (parameter : String)
  | position (cause : PositionFault)
  | uri (cause : UriFault)
  | config (cause : ConfigFault)
  /-- The interpreter or a package stopped the program. -/
  | foreign (cause : Raised)
  /-- A listing is a number and cannot be walked through. -/
  | notIterable
  /-- A kind of context has no such operation at all. -/
  | noOperation (kind operation : String)
  /-- What an entry point names is no plugin of the expected kind. -/
  | wrongService (value expected : String)
  /-- What an entry point names cannot be constructed: it leaves operations undefined. -/
  | abstractService (name : String) (operations : List String)
  /-- A module name that starts with a period. -/
  | relativeModule (name : String)
  /-- A module is missing; the name of the missing one is known or not. -/
  | moduleNotFound (message : String) (module : Option String)
  /-- A plugin raised an error of its own. -/
  | raised (kind message : String)
  /-- A plugin asked for the whole program to stop. -/
  | interrupted (kind message : String)
deriving DecidableEq, Inhabited, Repr

namespace Fault

/-- The wording of a fault. -/
def message : Fault → String
  | naming message => message
  | invalidEndpoint raw reason =>
    let detail := reason.getD ""
    "Invalid provider URI: " ++ Text.quoted raw ++
      (if detail.isEmpty then "" else " (" ++ detail ++ ")")
  | noProvider scheme => "No provider found for URI scheme: " ++ scheme.getD "None"
  | malformedName name reason => "Malformed name " ++ Text.quoted name ++ ": " ++ reason
  | nameNotFound name => "Name not found: " ++ name.display
  | notSupported message => message
  | missingName => "name must not be None"
  | missingArgument parameter => "Parameter '" ++ parameter ++ "' may not be None"
  | position cause => cause.message
  | uri cause => cause.message
  | config cause => cause.message
  | foreign cause => cause.message
  | notIterable => "'int' object is not iterable"
  | noOperation kind operation =>
    "'" ++ kind ++ "' object has no attribute '" ++ operation ++ "'"
  | wrongService value expected => value ++ " does not provide a " ++ expected
  | abstractService name operations =>
    "Can't instantiate abstract class " ++ name ++ " with abstract methods " ++
      ", ".intercalate operations
  | relativeModule name =>
    "the 'package' argument is required to perform a relative import for " ++ Text.quoted name
  | moduleNotFound message _ => message
  | raised _ message => message
  | interrupted _ message => message

/-- The failures of the directory itself, as against faults of arguments and of plugins. -/
def isNaming : Fault → Bool
  | naming _ | invalidEndpoint _ _ | noProvider _ | malformedName _ _ | nameNotFound _
  | notSupported _ => true
  | _ => false

/-- The failures to read a configuration that the command line tells of. -/
def isReadFailure : Fault → Bool
  | config _ => true
  | foreign cause => cause.isExpected
  | _ => false

end Fault

end NameRouting
