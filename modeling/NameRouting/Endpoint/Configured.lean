import NameRouting.Endpoint.Basic
import NameRouting.Log.Record
import NameRouting.Property
import NameRouting.Template

/-!
# Configured endpoints

The endpoints that an environment configures, in order. They are listed by one property, separated
by commas; environments of earlier times instead name connections, each with a host, a port and
options of its own, and those are used when the list is missing or empty.
-/

namespace NameRouting.Endpoint

/-- The name under which this part of the program writes log records. -/
def logger : String := "naming.endpoints"

/-- The list without the empty texts at its end. -/
def dropTrailingEmpty : List (List Char) → List (List Char)
  | [] => []
  | piece :: rest =>
    match dropTrailingEmpty rest with
    | [] => if piece.isEmpty then [] else [piece]
    | others => piece :: others

/-- What templates in endpoint properties are expanded with: the properties given for that
purpose, or else the environment itself, and the variables of the process. -/
structure Expansion where
  properties : Option (Table Value)
  process : Table String

/-- Expands the templates in the text of a property. -/
def Expansion.expand (expansion : Expansion) (env : Table Value) (template : String) : String :=
  Template.expand ⟨expansion.properties.getD env, expansion.process⟩ template

/-- The endpoints written by the tokens of a list; the first faulty token is refused. -/
def parseTokens : List (List Char) → Except Fault (List Endpoint)
  | [] => .ok []
  | token :: rest =>
    let text := String.ofList (Text.trim token)
    match Endpoint.parse text with
    | .error cause => .error (.invalidEndpoint text (some cause.message))
    | .ok endpoint =>
      match parseTokens rest with
      | .error fault => .error fault
      | .ok others => .ok (endpoint :: others)

/-- The trace of a list that was read. -/
def listTrace (endpoints : List Endpoint) : Log.Record :=
  let shown := endpoints.map fun endpoint => String.ofList (Uri.masked endpoint.raw.toList)
  Log.trace logger "Resolved provider URIs" [
    ("event", .text "decision"), ("component", .text "endpoints"),
    ("action", .text "parse_provider_url"), ("target", .text (",".intercalate shown)),
    ("count", .int endpoints.length)]

/-- The endpoints of a list separated by commas. -/
def parseList (text : String) : Logged (List Endpoint) := do
  let endpoints ← Logged.ofExcept
    (parseTokens (dropTrailingEmpty (Text.pieces ',' text.toList)))
  Logged.write (listTrace endpoints)
  return endpoints

/-- The text of a property that has a value. -/
def textOf? (env : Table Value) (key : String) : Option String :=
  match env.get? key with
  | none | some .null => none
  | some value => some value.toText

/-- A connection as its properties describe it; the protocol is already chosen. -/
structure Connection where
  name : String
  host : Option String
  port : Option String
  protocol : String
deriving DecidableEq, Inhabited, Repr

/-- The text that switches encryption on, with blanks and case aside. -/
def isTrue (text : String) : Bool :=
  Text.lowercase (Text.trim text.toList) == ['t', 'r', 'u', 'e']

/-- The connection of a name: its protocol is the one it names, or else depends on whether
encryption is switched on for it, or, when that is left open, for all connections. -/
def Connection.ofName (env : Table Value) (name : String) : Connection :=
  let start := Property.connectionPrefix ++ name ++ "."
  let own := textOf? env (start ++ Property.optionPrefix ++ Property.encrypted)
  let encrypted := own.or (textOf? env (Property.allConnectionsPrefix ++ Property.encrypted))
  { name := name
    host := textOf? env (start ++ Property.host)
    port := textOf? env (start ++ Property.port)
    protocol := (textOf? env (start ++ Property.protocol)).getD
      (if encrypted.any isTrue then Property.secureProtocol else Property.plainProtocol) }

/-- A host as it is put into an address: one with a colon gets brackets unless it has some. -/
def bracketed (host : String) : String :=
  let cs := host.toList
  if cs.contains ':' && cs.head? != some '[' && cs.getLast? != some ']' then
    "[" ++ host ++ "]"
  else
    host

/-- The number that a port writes: digits with an optional sign and blanks around them. -/
def readPort (port : String) : Except UriFault Nat :=
  let inner := Text.trim port.toList
  let (negative, digits) :=
    match inner with
    | '-' :: rest => (true, rest)
    | '+' :: rest => (false, rest)
    | _ => (false, inner)
  match Text.natural? digits with
  | none => .error (.illegalPort port)
  | some n =>
    if digits.length > Text.digitLimit then .error (.tooManyDigits digits.length)
    else if negative && n ≠ 0 then .error (.illegalPort port)
    else .ok n

/-- The address of a protocol, a host and a port. -/
def address (protocol host port : String) : String :=
  protocol ++ "://" ++ host ++ ":" ++ port

/-- The endpoint of a protocol, an expanded host and a port. -/
def ofConnection (protocol host port : String) : Except Fault Endpoint :=
  let host := bracketed host
  let raw := address protocol host port
  if host.isEmpty then
    .error (.invalidEndpoint raw (some UriFault.missingHost.message))
  else
    match readPort port >>= fun n => Endpoint.parse (address protocol host (toString n)) with
    | .ok endpoint => .ok endpoint
    | .error cause => .error (.invalidEndpoint raw (some cause.message))

/-- The trace of a connection that is passed over. -/
def skipTrace (name : String) : Log.Record :=
  Log.trace logger "Skipping connection without host and port" [
    ("event", .text "decision"), ("component", .text "endpoints"),
    ("action", .text "connection_uri"), ("target", .text name), ("outcome", .text "skipped")]

/-- The endpoint of a connection; one without a host or a port is passed over. -/
def Connection.endpoint? (expansion : Expansion) (env : Table Value) (connection : Connection) :
    Logged (Option Endpoint) :=
  match connection.host, connection.port with
  | some host, some port => do
    let endpoint ← Logged.ofExcept
      (ofConnection connection.protocol (expansion.expand env host) port)
    return some endpoint
  | _, _ => do
    Logged.write (skipTrace connection.name)
    return none

/-- The endpoints of the named connections, in order. -/
def ofConnections (expansion : Expansion) (env : Table Value) :
    List String → Logged (List Endpoint)
  | [] => pure []
  | name :: rest => do
    let endpoint ← (Connection.ofName env name).endpoint? expansion env
    let others ← ofConnections expansion env rest
    return endpoint.toList ++ others

/-- The names of the connections, without blanks around them; empty names at the end do not
count. -/
def connectionNames (text : List Char) : List String :=
  (dropTrailingEmpty ((Text.pieces ',' text).map Text.trim)).map String.ofList

/-- The warning that connections should be replaced by a list of endpoints. -/
def deprecation : Log.Record :=
  ⟨Log.warning, logger,
    "The remote.connection.* properties are deprecated; configure " ++ Property.providerUrl ++
      " instead", []⟩

/-- The endpoints of the connections that an environment names; none when it names none. -/
def connectionEndpoints (expansion : Expansion) (env : Table Value) :
    Logged (Option (List Endpoint)) :=
  let names :=
    match env.get? Property.connections with
    | none => []
    | some value => if value.isBare then [] else Text.trim value.toText.toList
  if names.isEmpty then
    pure none
  else do
    Logged.write deprecation
    let endpoints ← ofConnections expansion env (connectionNames names)
    return some endpoints

/-- The endpoints that an environment configures. There are none when it says nothing about
endpoints; that differs from a list without endpoints, which results when connections are named
and none of them is usable. -/
def configured (expansion : Expansion) (env : Table Value) : Logged (Option (List Endpoint)) :=
  let list := ((textOf? env Property.providerUrl).map (expansion.expand env)).getD ""
  if list.isEmpty then
    connectionEndpoints expansion env
  else do
    let endpoints ← parseList list
    return some endpoints

end NameRouting.Endpoint
