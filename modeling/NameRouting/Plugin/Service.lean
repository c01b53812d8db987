import NameRouting.Program
import NameRouting.Property
import NameRouting.Routing.Selection

/-!
# Plugins from entry points

The plugins of a group are loaded in the order of their names, and of their values where names
agree, so that their rank does not depend on how they were installed. An entry point that fails is
told in a warning and passed over; only a request to stop the whole program ends the loading.
-/

namespace NameRouting.Service

/-- The name under which this part of the program writes log records. -/
def logger : String := "naming.loader"

/-- The kind of plugin that is expected in a group. -/
inductive Expected where
  | provider
  | context
deriving DecidableEq, Inhabited, Repr

/-- The word for an expected kind of plugin. -/
def Expected.word : Expected → String
  | provider => "NamingProviderFactory"
  | context => "NamingContextFactory"

/-- Whether a service can be used as the expected kind of plugin. -/
def fits : Expected → ServiceKind → Bool
  | .provider, .provider _ => true
  | .context, .context _ => true
  | _, _ => false

/-- The order of entry points: by name, then by value. -/
def precedes (a b : EntryPoint) : Bool :=
  a.name < b.name || (a.name == b.name && a.value ≤ b.value)

/-- What loading an entry point gives: its service, if that is of the expected kind. -/
def checked (expected : Expected) (entry : EntryPoint) :
    Except Fault Service → Except Fault Service
  | .error fault => .error fault
  | .ok service =>
    if fits expected service.kind then .ok service
    else .error (.wrongService entry.value expected.word)

/-- The warning that an entry point was passed over. -/
def skippedWarning (group : String) (entry : EntryPoint) (fault : Fault) : Log.Record :=
  ⟨Log.warning, logger,
    "Failed to load naming plugin " ++ entry.name ++ " (" ++ entry.value ++ "): " ++ fault.message,
    [("event", .text "plugin_load"), ("component", .text "loader"),
      ("action", .text "load_services"), ("target", .text entry.value),
      ("outcome", .text "skipped"), ("group", .text group)]⟩

/-- The trace of a group that was loaded. -/
def loadedTrace (group : String) (count : Nat) : Log.Record :=
  Log.trace logger "Loaded naming plugins" [
    ("event", .text "plugin_load"), ("component", .text "loader"),
    ("action", .text "load_services"), ("group", .text group), ("count", .int count)]

/-- The services behind entry points, in their order, without those that fail. -/
def loadAll (group : String) (expected : Expected) : List EntryPoint → Program (List Service)
  | [] => pure []
  | entry :: rest =>
    .ask (.load entry) fun outcome =>
      match checked expected entry outcome with
      | .ok service => do
        let others ← loadAll group expected rest
        return service :: others
      | .error (.interrupted kind message) => Program.fail (.interrupted kind message)
      | .error fault => do
        Program.log (skippedWarning group entry fault)
        loadAll group expected rest

/-- The services of a group. -/
def load (group : String) (expected : Expected) : Program (List Service) := do
  let entries ← Program.request (.entryPoints group)
  let services ← loadAll group expected (entries.mergeSort precedes)
  Program.log (loadedTrace group services.length)
  return services

/-- The provider plugins among services. -/
def providers (services : List Service) : List ProviderFactory :=
  services.filterMap fun service => match service.kind with
    | .provider factory => some factory
    | _ => none

/-- The context plugins among services. -/
def contexts (services : List Service) : List ContextFactory :=
  services.filterMap fun service => match service.kind with
    | .context factory => some factory
    | _ => none

/-- The plugins of both groups, with the registered URL contexts. -/
def discover (urlContexts : UrlContext.Registry) : Program Plugins := do
  let found ← load Property.providerGroup .provider
  let served ← load Property.contextGroup .context
  return ⟨providers found, contexts served, urlContexts⟩

end NameRouting.Service
