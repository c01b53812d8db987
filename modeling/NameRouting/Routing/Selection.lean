import NameRouting.UrlContext.Registry

/-!
# Selection of the context that serves a name

The endpoints of an environment and the scheme of a name select a context. Without an endpoint that
has a scheme, the first context plugin that serves the scheme decides. Otherwise provider plugins
are tried in order: one that accepts the schemes of all endpoints makes a provider, which is closed
again when no context plugin has a context for it. After the plugins comes the URL context for the
scheme, and without endpoints and without a scheme an empty context.
-/

namespace NameRouting

/-- The plugins in the order of their rank, and the registered URL contexts. -/
structure Plugins where
  providers : List ProviderFactory
  contexts : List ContextFactory
  urlContexts : UrlContext.Registry
deriving Inhabited

/-- The context that serves a name; URL contexts want the whole name, as it was given. -/
structure Selection where
  context : Context
  whole : Bool
deriving DecidableEq, Inhabited, Repr

namespace Selection

/-- The name under which this part of the program writes log records. -/
def logger : String := "naming.dispatcher"

/-- The context of the first plugin that serves a provider and a scheme. -/
def findContext (provider : Option Provider) (scheme : Option String) (env : Environment) :
    List ContextFactory → Program (Option Context)
  | [] => pure none
  | factory :: rest => do
    if ← Program.request (.serves factory provider scheme) then
      Program.request (.createContext factory provider scheme env)
    else
      findContext provider scheme env rest

/-- Whether a provider plugin accepts the scheme of every endpoint; the first refusal decides. -/
def acceptsAll (factory : ProviderFactory) (env : Environment) : List Endpoint → Program Bool
  | [] => pure true
  | endpoint :: rest => do
    if ← Program.request (.accepts factory endpoint.scheme env) then
      acceptsAll factory env rest
    else
      return false

/-- The context of the first provider plugin that accepts all endpoints and whose provider some
context plugin has a context for. -/
def throughProviders (plugins : Plugins) (endpoints : List Endpoint) (scheme : Option String)
    (env : Environment) : List ProviderFactory → Program (Option Context)
  | [] => pure none
  | factory :: rest => do
    if ← acceptsAll factory env endpoints then
      let provider ← Program.request (.createProvider factory endpoints env)
      match ← findContext (some provider) scheme env plugins.contexts with
      | some context => return some context
      | none =>
        Program.request (.closeProvider provider)
        throughProviders plugins endpoints scheme env rest
    else
      throughProviders plugins endpoints scheme env rest

/-- The URL context for a scheme; there is none without a scheme. -/
def urlContext (plugins : Plugins) (scheme : Option String) (env : Environment) :
    Program (Option Context) :=
  match scheme with
  | none => pure none
  | some scheme => plugins.urlContexts.resolve scheme env

/-- The trace of a selection, with the way that led to it. -/
def selectedTrace (context : Context) (way : String) (scheme : Option String) : Log.Record :=
  Log.trace logger "Resolved naming context" [
    ("event", .text "decision"), ("component", .text "dispatcher"), ("action", .text "resolve"),
    ("outcome", .text way), ("target", Log.optionalText scheme),
    ("context", .text context.kindName)]

/-- Ends with a selection. -/
def selected (context : Context) (whole : Bool) (way : String) (scheme : Option String) :
    Program Selection := do
  Program.log (selectedTrace context way scheme)
  return ⟨context, whole⟩

/-- The empty context of an environment. -/
def emptyContext (env : Environment) : Context :=
  ⟨.empty, env.id, none⟩

/-- Whether no endpoint has a scheme. -/
def noneHasScheme (endpoints : Option (List Endpoint)) : Bool :=
  (endpoints.getD []).all (!·.hasScheme)

/-- The context that the plugins have for the scheme of a name. Provider plugins are only asked
when some endpoint has a scheme. -/
def throughPlugins (plugins : Plugins) (endpoints : Option (List Endpoint))
    (scheme : Option String) (env : Environment) : Program (Option Context) :=
  if noneHasScheme endpoints then
    findContext none scheme env plugins.contexts
  else
    throughProviders plugins (endpoints.getD []) scheme env plugins.providers

/-- Selects the context for the scheme of a name. -/
def resolve (plugins : Plugins) (endpoints : Option (List Endpoint)) (scheme : Option String)
    (env : Environment) : Program Selection := do
  let direct := noneHasScheme endpoints
  match ← throughPlugins plugins endpoints scheme env with
  | some context => selected context false (if direct then "context_factory" else "provider") scheme
  | none =>
    match ← urlContext plugins scheme env with
    | some context => selected context true "url_context" scheme
    | none =>
      if direct && scheme.isNone then
        selected (emptyContext env) false "empty_context" scheme
      else
        Program.fail (.noProvider scheme)

end Selection

end NameRouting
