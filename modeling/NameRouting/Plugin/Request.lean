import NameRouting.Endpoint.Basic
import NameRouting.Plugin.Operation

/-!
# Requests to plugins

Everything that routing asks of the world around it: of provider plugins, of context plugins, of
the modules that offer URL contexts, of the installed entry points, and of the contexts that
plugins made. Plugins and what they make are known by numbers only. Each request has a type of
answers.
-/

namespace NameRouting

/-- A naming environment as it is handed to plugins: which one it is, and what it holds. -/
structure Environment where
  id : Nat
  properties : Table Value
deriving Inhabited

/-- A plugin that makes providers. -/
structure ProviderFactory where
  id : Nat
deriving DecidableEq, Inhabited, Repr

/-- A plugin that makes root contexts. -/
structure ContextFactory where
  id : Nat
deriving DecidableEq, Inhabited, Repr

/-- A function that makes URL contexts. -/
structure UrlFactory where
  id : Nat
deriving DecidableEq, Inhabited, Repr

/-- What a provider plugin made of a list of endpoints. -/
structure Provider where
  id : Nat
deriving DecidableEq, Inhabited, Repr

/-- An entry point: which one it is, its name, and the value that says where its plugin is
found. -/
structure EntryPoint where
  id : Nat
  name : String
  value : String
deriving DecidableEq, Inhabited, Repr

/-- What the object behind an entry point can be used as. -/
inductive ServiceKind where
  | provider (factory : ProviderFactory)
  | context (factory : ContextFactory)
  | other
deriving DecidableEq, Inhabited, Repr

/-- The object behind an entry point, with the full name of its kind. -/
structure Service where
  kindName : String
  kind : ServiceKind
deriving DecidableEq, Inhabited, Repr

/-- A request to the world around. -/
inductive Request where
  /-- Can the plugin connect to endpoints of a scheme? -/
  | accepts (factory : ProviderFactory) (scheme : Option String) (env : Environment)
  /-- Make a provider for all of the endpoints. -/
  | createProvider (factory : ProviderFactory) (endpoints : List Endpoint) (env : Environment)
  /-- Give up a provider. -/
  | closeProvider (provider : Provider)
  /-- Can the plugin make a root context for a provider and the scheme of a name? -/
  | serves (factory : ContextFactory) (provider : Option Provider) (scheme : Option String)
  /-- Make the root context for a provider and the scheme of a name. -/
  | createContext (factory : ContextFactory) (provider : Option Provider) (scheme : Option String)
      (env : Environment)
  /-- Make the URL context for a scheme. -/
  | urlContext (factory : UrlFactory) (scheme : String) (env : Environment)
  /-- Find the module of a name, and the function in it that makes URL contexts. -/
  | importModule (name : String)
  /-- Carry out an operation in a context that a plugin defines. -/
  | perform (context : Context) (operation : Operation)
  /-- List the entry points of a group. -/
  | entryPoints (group : String)
  /-- Load an entry point and make its object. -/
  | load (entry : EntryPoint)

namespace Request

/-- The type of the answers to a request. -/
abbrev Answer : Request → Type
  | accepts _ _ _ => Bool
  | createProvider _ _ _ => Provider
  | closeProvider _ => Unit
  | serves _ _ _ => Bool
  | createContext _ _ _ _ => Option Context
  | urlContext _ _ _ => Option Context
  | importModule _ => Option UrlFactory
  | perform _ _ => Reply
  | entryPoints _ => List EntryPoint
  | load _ => Service

end Request

end NameRouting
