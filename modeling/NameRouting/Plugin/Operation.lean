import NameRouting.Enumeration
import NameRouting.Table
import NameRouting.Value

/-!
# Operations on names

What a context can be asked to do with names, and what it can reply. A context belongs to the
environment that it was made for, and is either one that a plugin defines or one of the two that
the library itself offers: the empty context, and the plain one, which offers no operation.
-/

namespace NameRouting

/-- An operation that takes one name. -/
inductive Verb where
  | lookup
  | lookupLink
  | bind (object : Value)
  | rebind (object : Value)
  | unbind
  | list
  | listBindings
  | createSubcontext
  | destroySubcontext
deriving Inhabited

namespace Verb

/-- The word for an operation. -/
def word : Verb → String
  | lookup => "lookup"
  | lookupLink => "lookup_link"
  | bind _ => "bind"
  | rebind _ => "rebind"
  | unbind => "unbind"
  | list => "list"
  | listBindings => "list_bindings"
  | createSubcontext => "create_subcontext"
  | destroySubcontext => "destroy_subcontext"

/-- The object that an operation hands over with the name. -/
def object? : Verb → Option Value
  | bind object | rebind object => some object
  | _ => none

end Verb

/-- An operation with its names. -/
inductive Operation where
  | on (verb : Verb) (name : GivenName)
  | rename (old new : GivenName)
deriving Inhabited

namespace Operation

/-- The word for an operation. -/
def word : Operation → String
  | on verb _ => verb.word
  | rename _ _ => "rename"

end Operation

/-- What kind of context one is. -/
inductive ContextKind where
  /-- A plugin defines its operations; plugins name their kinds of contexts. -/
  | own (kindName : String)
  /-- It has no bindings and takes none. -/
  | empty
  /-- It offers no operation. -/
  | plain
deriving DecidableEq, Inhabited, Repr

/-- A context: its kind, the number of the environment that it belongs to, and which object it is
when a plugin made it. A context without a number is a new one that the library made. -/
structure Context where
  kind : ContextKind
  environment : Nat
  object : Option Nat
deriving DecidableEq, Inhabited, Repr

namespace Context

/-- The word for the kind of a context. -/
def kindName (context : Context) : String :=
  match context.kind with
  | .own name => name
  | .empty => "EmptyContext"
  | .plain => "Context"

end Context

/-- An item of a listing. -/
inductive Listed where
  /-- A name, and the kind of the object bound to it. -/
  | pair (name : String) (kind : Option String)
  /-- A name, and the object bound to it with its kind. -/
  | binding (name : String) (kind : Option String) (object : Value)
  /-- Any other item that a backend lists. -/
  | other (value : Value)
deriving Inhabited

namespace Listed

/-- The kind of an object as it is shown. -/
def kindText (kind : Option String) : String :=
  (kind.map Text.quoted).getD "None"

/-- An item as a text. -/
def toText : Listed → String
  | pair name kind =>
    "NameClassPair(name=" ++ Text.quoted name ++ ", class_name=" ++ kindText kind ++ ")"
  | binding name kind object =>
    "Binding(name=" ++ Text.quoted name ++ ", class_name=" ++ kindText kind ++ ", obj=" ++
      object.display ++ ")"
  | other value => value.toText

end Listed

/-- What a context replies to an operation. -/
inductive Reply where
  | nothing
  | value (value : Value)
  | context (context : Context)
  | listing (listing : Listing Listed)
  /-- A new routing context of the same making, with a copy of the environment. -/
  | branch
deriving Inhabited

namespace Reply

/-- What can be walked through in a reply. -/
def asListing : Reply → Listing Listed
  | .nothing => .nothing
  | .listing found => found
  | _ => .notIterable

end Reply

end NameRouting
