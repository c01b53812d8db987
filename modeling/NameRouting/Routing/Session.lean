import NameRouting.Name.Compose
import NameRouting.Routing.Router

/-!
# Sessions

A session holds the contexts and the enumerations that its user was given, and the environments
that the contexts belong to. Contexts of one environment see each other's changes of it. A context
that is given out twice keeps its number; branching makes a routing context with an environment of
its own.
-/

namespace NameRouting

/-- A context in the hands of a user: one that routes, or any other. -/
inductive Held where
  | routing (router : Router) (environment : Nat)
  | context (context : Context)

namespace Held

/-- The number of the environment that a context belongs to. -/
def environment : Held → Nat
  | .routing _ id => id
  | .context inner => inner.environment

/-- The word for the kind of a context. -/
def kindName : Held → String
  | .routing _ _ => "RoutingContext"
  | .context inner => inner.kindName

/-- The router of a routing context; other contexts lack the operation that needs it. -/
def router (held : Held) (operation : String) : Except Fault Router :=
  match held with
  | .routing found _ => .ok found
  | .context inner => .error (.noOperation inner.kindName operation)

/-- Whether a context is a certain object that a plugin made. -/
def isObject (held : Held) (object : Nat) : Bool :=
  match held with
  | .routing _ _ => false
  | .context inner => inner.object == some object

end Held

/-- The contexts, the enumerations and the environments of a user, each known by its number, and
the composite names that the user keeps under keys. -/
structure Session where
  environments : List (Table Value)
  contexts : List Held
  enumerations : List (Enumeration Listed)
  names : Table CompositeName

/-- A name as a user hands it in: as it is, or as the composite name that is kept under a key. -/
inductive NameArgument where
  | given (name : GivenName)
  | kept (key : String)
deriving DecidableEq, Inhabited, Repr

/-- What a user is given. -/
inductive Given where
  | nothing
  | value (value : Value)
  | context (number : Nat)
  | enumeration (number : Nat)
  /-- A listing that is not an enumeration is given as it is. -/
  | listing (listing : Listing Listed)
deriving Inhabited

namespace Session

/-- The environment of a number. -/
def environment (session : Session) (id : Nat) : Environment :=
  ⟨id, session.environments[id]?.getD .empty⟩

/-- The session with one more environment. -/
def addEnvironment (session : Session) (properties : Table Value) : Session :=
  { session with environments := session.environments ++ [properties] }

/-- Hands out a context: a known object keeps its number. -/
def hold (session : Session) (held : Held) : Nat × Session :=
  let known :=
    match held with
    | .context ⟨_, _, some object⟩ => session.contexts.findIdx? (·.isObject object)
    | _ => none
  match known with
  | some number => (number, session)
  | none =>
    (session.contexts.length, { session with contexts := session.contexts ++ [held] })

/-- A session of one context that belongs to the first environment. -/
def start (properties : Table Value) (held : Held) (names : Table CompositeName) : Session :=
  ⟨[properties], [held], [], names⟩

/-- The name behind an argument. -/
def name (session : Session) : NameArgument → GivenName
  | .given name => name
  | .kept key => (session.names.get? key).elim .missing .composite

/-- Carries out an operation in a context. -/
def perform (session : Session) (held : Held) (operation : Operation) : Program Reply :=
  match held with
  | .routing router id => router.perform (session.environment id) operation
  | .context context => context.perform operation

/-- Hands out the reply that a context made. -/
def give (session : Session) (held : Held) : Reply → Given × Session
  | .nothing => (.nothing, session)
  | .value value => (.value value, session)
  | .context context =>
    let (number, session) := session.hold (.context context)
    (.context number, session)
  | .listing (.enumeration enumeration) =>
    (.enumeration session.enumerations.length,
      { session with enumerations := session.enumerations ++ [enumeration] })
  | .listing listing => (.listing listing, session)
  | .branch =>
    match held with
    | .routing router id =>
      let branch := Held.routing router session.environments.length
      let (number, session) :=
        (session.addEnvironment (session.environment id).properties).hold branch
      (.context number, session)
    | .context _ => (.nothing, session)

/-- The session with another content of one environment. -/
def setEnvironment (session : Session) (id : Nat) (properties : Table Value) : Session :=
  { session with environments := session.environments.set id properties }

/-- Sets a property of an environment; beside the session stands the value before. -/
def addProperty (session : Session) (id : Nat) (key : String) (value : Value) :
    Value × Session :=
  let properties := (session.environment id).properties
  ((properties.get? key).getD .null, session.setEnvironment id (properties.insert key value))

/-- Removes a property of an environment; beside the session stands the value before. -/
def removeProperty (session : Session) (id : Nat) (key : String) : Value × Session :=
  let properties := (session.environment id).properties
  ((properties.get? key).getD .null, session.setEnvironment id (properties.erase key))

/-- Puts the name of a context in front of a name. A composite name that is kept is extended in its
place when it is the one in front. Putting a kept name that is not empty in front of itself is not
described here: it would be read while it grows, and that has no end. -/
def compose (session : Session) (held : Held) (name outer : NameArgument) :
    Except Fault GivenName × Session :=
  let outcome := do
    let _ ← held.router "compose_name"
    (session.name name).compose (session.name outer)
  match outcome, outer with
  | .ok (.composite whole), .kept key =>
    (outcome, { session with names := session.names.insert key whole })
  | _, _ => (outcome, session)

end Session

end NameRouting
