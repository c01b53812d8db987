import NameRouting.Plugin.Service
import NameRouting.Scripted.Listing

/-!
# Scripted plugins

Plugins whose behaviour is written down beforehand: what they support, what they make, and where
they fail. They note every request on a trace, so that a reader can see what they were asked for
and in which order.
-/

namespace NameRouting.Scripted

/-- A scripted context: its kind, what its listings are made of, and the operations that fail, by
their words. -/
structure ContextScript where
  kind : ContextKind
  label : Option String
  shared : Bool
  fault : Option Fault
  listing : Option ListingKind
  items : List (String × Option String × Value)
  failures : List (String × Fault)
deriving Inhabited

/-- The name schemes that a plugin supports. -/
inductive Schemes where
  | all
  | some (schemes : List (Option String))
deriving Inhabited

namespace Schemes

/-- Whether a scheme is supported. -/
def contain : Schemes → Option String → Bool
  | all, _ => true
  | some schemes, scheme => schemes.contains scheme

end Schemes

/-- A scripted provider plugin; it may fail when it is asked, or when it makes a provider. -/
structure ProviderScript where
  label : Option String
  schemes : Schemes
  acceptFault : Option Fault
  createFault : Option Fault
deriving Inhabited

/-- The providers that a context plugin works with. -/
inductive ProviderNeed where
  | any
  | none
  | some
  | labelled (label : String)
deriving Inhabited

/-- Whether a provider, known by its label, or its absence meets a need. -/
def ProviderNeed.isMet : ProviderNeed → Option (Option String) → Bool
  | any, _ => true
  | none, provider => provider.isNone
  | some, provider => provider.isSome
  | labelled label, provider => provider.any (· = Option.some label)

/-- A scripted context plugin. -/
structure FactoryScript where
  label : Option String
  schemes : Schemes
  need : ProviderNeed
  context : Option ContextScript
  serveFault : Option Fault
  createFault : Option Fault
deriving Inhabited

/-- A scripted module: it fails when it is imported, or it offers a function that makes URL
contexts, or it offers none. -/
inductive ModuleScript where
  | failing (fault : Fault)
  | offering (factory : UrlFactory)
  | silent
deriving Inhabited

/-- What a scripted entry point makes. -/
inductive ServiceScript where
  | provider (script : ProviderScript)
  | context (script : FactoryScript)
  | other
deriving Inhabited

/-- A scripted entry point; loading it may fail. -/
structure EntryScript where
  entry : EntryPoint
  fault : Option Fault
  service : ServiceScript
deriving Inhabited

/-- Everything that scripted plugins are made of and have made so far. Plugins, providers and
contexts are known by their places in these lists. -/
structure Stage where
  providerFactories : List ProviderScript
  contextFactories : List FactoryScript
  urlFactories : List (Option ContextScript)
  modules : List (String × ModuleScript)
  entryPoints : List (String × List EntryScript)
  providers : List (Option String)
  contexts : List (String × ContextScript)
  shared : List (Nat × Context)
  imported : List String
  trace : List (List Value)
deriving Inhabited

namespace Stage

/-- The stage without plugins. -/
def empty : Stage :=
  ⟨[], [], [], [], [], [], [], [], [], []⟩

/-- Notes a request. -/
def note (stage : Stage) (signal : List Value) : Stage :=
  { stage with trace := stage.trace ++ [signal] }

/-- The stage with one more function that makes URL contexts. -/
def addUrlFactory (stage : Stage) (script : Option ContextScript) : UrlFactory × Stage :=
  (⟨stage.urlFactories.length⟩, { stage with urlFactories := stage.urlFactories ++ [script] })

/-- All plugins of the stage in order, with registered URL contexts. -/
def plugins (stage : Stage) (urlContexts : UrlContext.Registry) : Plugins :=
  ⟨(List.range stage.providerFactories.length).map fun i => ⟨i⟩,
    (List.range stage.contextFactories.length).map fun i => ⟨i⟩, urlContexts⟩

/-- The label of a provider plugin. -/
def providerLabel? (stage : Stage) (factory : ProviderFactory) : Option String :=
  (stage.providerFactories[factory.id]?).bind (·.label)

/-- The label of a context plugin. -/
def factoryLabel? (stage : Stage) (factory : ContextFactory) : Option String :=
  (stage.contextFactories[factory.id]?).bind (·.label)

/-- The label of the plugin behind a service. -/
def serviceLabel? (stage : Stage) (service : Service) : Option String :=
  match service.kind with
  | .provider factory => stage.providerLabel? factory
  | .context factory => stage.factoryLabel? factory
  | .other => none

/-- The label of a context; only contexts with operations of their own have one. -/
def contextLabel? (stage : Stage) (context : Context) : Option String :=
  match context.kind with
  | .own _ => (context.object.bind (stage.contexts[·]?)).map (·.1)
  | _ => none

end Stage

/-- A fault, if there is one, and else an answer. -/
def answerUnless {α : Type} (fault : Option Fault) (answer : α) : Except Fault α :=
  match fault with
  | some fault => .error fault
  | none => .ok answer

/-- Makes a context, with a label for scripts that have none of their own. -/
def makeContext (script : ContextScript) (label : Option String) (environment : Nat)
    (stage : Stage) : Context × Stage :=
  let object := stage.contexts.length
  let label := ((script.label).or label).getD "ctx"
  (⟨script.kind, environment, some object⟩,
    { stage with contexts := stage.contexts ++ [(label, script)] })

/-- Makes the context of a script, if it makes one. -/
def playScript (script : Option ContextScript) (label : Option String) (environment : Nat)
    (stage : Stage) : Except Fault (Option Context) × Stage :=
  match script with
  | none => (.ok none, stage)
  | some script =>
    match script.fault with
    | some fault => (.error fault, stage)
    | none =>
      let (context, stage) := makeContext script label environment stage
      (.ok (some context), stage)

/-- What a URL context function makes: a shared context is made once. -/
def playUrlFactory (factory : UrlFactory) (scheme : String) (environment : Nat) (stage : Stage) :
    Except Fault (Option Context) × Stage :=
  let script := (stage.urlFactories[factory.id]?).getD none
  let stage := stage.note
    [.text "url_factory", Log.optionalText (script.bind (·.label)), .text scheme]
  match stage.shared.lookup factory.id with
  | some context => (.ok (some context), stage)
  | none =>
    match playScript script none environment stage with
    | (.ok (some context), stage) =>
      if script.any (·.shared) then
        (.ok (some context), { stage with shared := (factory.id, context) :: stage.shared })
      else
        (.ok (some context), stage)
    | other => other

/-- The names that lead to a dotted name, beginning with the shortest. -/
def ancestry (name : String) : List String :=
  let parts := Text.piecesOf '.' name
  (List.range parts.length).map fun i => ".".intercalate (parts.take (i + 1))

/-- Imports the modules of names one after the other, each of them once; the last one is wanted. -/
def importAll : List String → Stage → Except Fault (Option UrlFactory) × Stage
  | [], stage => (.ok none, stage)
  | name :: rest, stage =>
    let goOn (factory : Option UrlFactory) (stage : Stage) :=
      if rest.isEmpty then (.ok factory, stage)
      else importAll rest { stage with imported := name :: stage.imported }
    match stage.modules.lookup name with
    | none =>
      if stage.modules.any fun (other, _) => (name ++ ".").toList.isPrefixOf other.toList then
        goOn none stage
      else
        (.error (.moduleNotFound ("No module named " ++ Text.quoted name) (some name)), stage)
    | some script =>
      let stage' :=
        if stage.imported.contains name then stage else stage.note [.text "import", .text name]
      let loaded (stage : Stage) := { stage with imported := name :: stage.imported }
      match script with
      | .failing fault => (.error fault, stage')
      | .offering factory => goOn (some factory) (loaded stage')
      | .silent => goOn none (loaded stage')

/-- A given name as a value. -/
def nameValue : GivenName → Value
  | .missing => .null
  | .text written => .text written
  | .composite name => .name name

/-- The names and objects that an operation hands over. -/
def arguments : Operation → List Value
  | .on verb name => nameValue name :: verb.object?.toList
  | .rename old new => [nameValue old, nameValue new]

/-- The listing of a scripted context over its items. -/
def scriptedListing (script : ContextScript) (items : List Listed) : Listing Listed :=
  match script.listing with
  | some kind => kind.over items
  | none =>
    let text := String.join (items.map Listed.toText)
    .source (plainSource (text.toList.map fun c => .other (.text (String.singleton c))))

/-- What a scripted context replies. -/
def scriptedReply (label : String) (script : ContextScript) (environment : Nat)
    (operation : Operation) (stage : Stage) : Reply × Stage :=
  match operation with
  | .on .lookup name | .on .lookupLink name =>
    (.value (.list [.text label, nameValue name]), stage)
  | .on .list _ =>
    (.listing (scriptedListing script (script.items.map fun (name, kind, _) => .pair name kind)),
      stage)
  | .on .listBindings _ =>
    (.listing (scriptedListing script
      (script.items.map fun (name, kind, object) => .binding name kind object)), stage)
  | .on .createSubcontext _ =>
    let (context, stage) :=
      makeContext { script with label := some (label ++ "-sub") } none environment stage
    (.context context, stage)
  | _ => (.nothing, stage)

/-- Carries out an operation in a scripted context. -/
def playOperation (context : Context) (operation : Operation) (stage : Stage) :
    Except Fault Reply × Stage :=
  match context.object.bind (stage.contexts[·]?) with
  | none => (.ok .nothing, stage)
  | some (label, script) =>
    let stage := stage.note (.text label :: .text operation.word :: arguments operation)
    match script.failures.lookup operation.word with
    | some fault => (.error fault, stage)
    | none =>
      let (reply, stage) := scriptedReply label script context.environment operation stage
      (.ok reply, stage)

/-- The label of a provider as a value. -/
def providerValue (provider : Option (Option String)) : Value :=
  Log.optionalText (provider.getD none)

/-- The full name of the kind of object that an entry point names. -/
def kindNameOf (entry : EntryPoint) : String :=
  match Text.cutAt ':' entry.value.toList with
  | (module, found) => String.ofList module ++ "." ++ String.ofList (found.getD [])

/-- Loads an entry point. -/
def playEntry (entry : EntryPoint) (stage : Stage) : Except Fault Service × Stage :=
  let stage := stage.note [.text "load", .text entry.name]
  match (stage.entryPoints.flatMap (·.2)).find? (·.entry.id = entry.id) with
  | none => (.error (.moduleNotFound ("No module named " ++ Text.quoted entry.value) none), stage)
  | some script =>
    match script.fault with
    | some fault => (.error fault, stage)
    | none =>
      let kindName := kindNameOf entry
      match script.service with
      | .other => (.ok ⟨kindName, .other⟩, stage)
      | .provider provider =>
        (.ok ⟨kindName, .provider ⟨stage.providerFactories.length⟩⟩,
          { stage with providerFactories := stage.providerFactories ++ [provider] })
      | .context factory =>
        (.ok ⟨kindName, .context ⟨stage.contextFactories.length⟩⟩,
          { stage with contextFactories := stage.contextFactories ++ [factory] })

/-- The label of a provider that was made. -/
def labelOf (stage : Stage) (provider : Option Provider) : Option (Option String) :=
  provider.map fun provider => (stage.providers[provider.id]?).getD none

/-- The answers of scripted plugins. -/
def play : (request : Request) → Stage → Except Fault request.Answer × Stage
  | .accepts factory scheme _, stage =>
    let script := stage.providerFactories[factory.id]?.getD default
    (answerUnless script.acceptFault (script.schemes.contain scheme),
      stage.note [.text "provider_supports", Log.optionalText script.label,
        Log.optionalText scheme])
  | .createProvider factory endpoints _, stage =>
    let script := stage.providerFactories[factory.id]?.getD default
    let raws := endpoints.map fun endpoint => Value.text endpoint.raw
    let stage := stage.note
      [.text "create_provider", Log.optionalText script.label, .list raws]
    (answerUnless script.createFault ⟨stage.providers.length⟩,
      { stage with providers := stage.providers ++ [script.label] })
  | .closeProvider provider, stage =>
    (.ok (), stage.note [.text "close_provider", providerValue (labelOf stage (some provider))])
  | .serves factory provider scheme, stage =>
    let script := stage.contextFactories[factory.id]?.getD default
    let label := labelOf stage provider
    (answerUnless script.serveFault (script.need.isMet label && script.schemes.contain scheme),
      stage.note [.text "context_supports", Log.optionalText script.label, providerValue label,
        Log.optionalText scheme])
  | .createContext factory provider scheme env, stage =>
    let script := stage.contextFactories[factory.id]?.getD default
    let stage := stage.note [.text "create_context", Log.optionalText script.label,
      providerValue (labelOf stage provider), Log.optionalText scheme]
    match script.createFault with
    | some fault => (.error fault, stage)
    | none => playScript script.context script.label env.id stage
  | .urlContext factory scheme env, stage => playUrlFactory factory scheme env.id stage
  | .importModule name, stage => importAll (ancestry name) stage
  | .perform context operation, stage => playOperation context operation stage
  | .entryPoints group, stage =>
    (.ok ((stage.entryPoints.lookup group).getD [] |>.map (·.entry)),
      stage.note [.text "entry_points", .text group])
  | .load entry, stage => playEntry entry stage

/-- A host of scripted plugins. -/
def host : Host Stage :=
  ⟨play⟩

end NameRouting.Scripted
