import NameRouting.Program
import NameRouting.UrlContext.Place

/-!
# URL contexts

A URL context serves one scheme and reads whole names, as they were given. It is made by a function
that was registered for the scheme, or else by the function of a module below one of the package
prefixes, in their order. A module that is missing is passed over, and so is one without such a
function and one whose function makes nothing; every other fault ends the search.
-/

namespace NameRouting.UrlContext

/-- The name under which this part of the program writes log records. -/
def logger : String := "naming.url_context"

/-- The functions registered by scheme. -/
structure Registry where
  factories : Table UrlFactory
deriving Inhabited

namespace Registry

/-- The registry without functions. -/
def empty : Registry :=
  ⟨.empty⟩

/-- Registers a function for a scheme, in place of the one before. -/
def register (registry : Registry) (scheme : String) (factory : UrlFactory) : Registry :=
  ⟨registry.factories.insert scheme factory⟩

/-- Forgets the function of a scheme. -/
def unregister (registry : Registry) (scheme : String) : Registry :=
  ⟨registry.factories.erase scheme⟩

/-- The function that is registered for a scheme. -/
def factory? (registry : Registry) (scheme : String) : Option UrlFactory :=
  registry.factories.get? scheme

end Registry

/-- What an attempt to import the candidate module means for the search: a missing module is no
function, as long as the missing one is the candidate or a package that holds it. -/
def importOutcome (name : String) :
    Except Fault (Option UrlFactory) → Except Fault (Option UrlFactory)
  | .ok factory => .ok factory
  | .error (.moduleNotFound message missing) =>
    if missing.any (isOnTheWay · name) then .ok none
    else .error (.moduleNotFound message missing)
  | .error fault => .error fault

/-- The function that the module below a package prefix offers for a scheme. -/
def candidate (start scheme : String) : Program (Option UrlFactory) :=
  let name := moduleName start scheme
  if name.toList.head? = some '.' then
    .fail (.relativeModule name)
  else
    .ask (.importModule name) fun outcome => .done (importOutcome name outcome)

/-- The URL context that a function makes, if there is a function and it makes one. -/
def made (factory : Option UrlFactory) (scheme : String) (env : Environment) :
    Program (Option Context) :=
  match factory with
  | none => pure none
  | some factory => Program.request (.urlContext factory scheme env)

/-- The trace of a context that was found below a package prefix. -/
def foundTrace (start scheme : String) : Log.Record :=
  Log.trace logger "URL context found by package prefix" [
    ("event", .text "decision"), ("component", .text "url_context"),
    ("action", .text "resolve"), ("target", .text scheme), ("outcome", .text start)]

/-- The first context that is found below package prefixes. -/
def search (scheme : String) (env : Environment) : List String → Program (Option Context)
  | [] => pure none
  | start :: rest => do
    let factory ← candidate start scheme
    match ← made factory scheme env with
    | none => search scheme env rest
    | some context =>
      Program.log (foundTrace start scheme)
      return some context

/-- The URL context for a scheme. -/
def Registry.resolve (registry : Registry) (scheme : String) (env : Environment) :
    Program (Option Context) := do
  match ← made (registry.factory? scheme) scheme env with
  | some context => return some context
  | none => search scheme env (packagePrefixes env.properties)

end NameRouting.UrlContext
