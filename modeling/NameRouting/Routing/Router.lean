import NameRouting.Endpoint.Configured
import NameRouting.Name.Parse
import NameRouting.Name.Scheme
import NameRouting.Routing.Local
import NameRouting.Routing.Selection

/-!
# Routing of operations

A routing context serves every name through the context that is selected for its scheme. A name is
read before endpoints are derived, and endpoints before any plugin is asked, so a request that the
router itself refuses reaches no plugin. The selected context gets the residual name, or the
whole one if it wants that. Looking up a name without scheme and residual branches: the reply is
a new routing context of the same making with a copy of the environment.
-/

namespace NameRouting

/-- What a routing context is made of, apart from its environment: the plugins, and what templates
in endpoint properties are expanded with. -/
structure Router where
  plugins : Plugins
  expansion : Endpoint.Expansion

namespace Router

/-- The name under which this part of the program writes log records. -/
def logger : String := "naming.context"

/-- The trace of a selection. How long it took is measured where it matters; the record only says
that it was. -/
def routedTrace (scheme : Option String) (whole : Bool) : Log.Record :=
  Log.trace logger "Routed naming operation" [
    ("event", .text "routing"), ("component", .text "context"),
    ("action", .text "provider_context"), ("target", Log.optionalText scheme),
    ("legacy_name_form", .bool whole), ("duration_ms", .bool true)]

/-- Selects the context for a scheme among what the environment configures. -/
def select (router : Router) (env : Environment) (scheme : Option String) : Program Selection := do
  let endpoints ← Program.ofLogged (Endpoint.configured router.expansion env.properties)
  let selection ← Selection.resolve router.plugins endpoints scheme env
  Program.log (routedTrace scheme selection.whole)
  return selection

/-- The name that a caller means for a parameter; it must be given. -/
def readName (parameter : String) : GivenName → Except Fault CompositeName
  | .missing => .error (.missingArgument parameter)
  | name => name.resolve

/-- The form of a name that a selected context wants. -/
def targetName (selection : Selection) (name : GivenName) (split : SplitName) : GivenName :=
  if selection.whole then name else .composite split.residual

/-- The reply of a routing context, from the reply of the selected context: listings become
enumerations, and changes reply nothing. -/
def routedReply (verb : Verb) (reply : Reply) : Except Fault Reply :=
  match verb with
  | .list | .listBindings =>
    (Enumeration.ofListing reply.asListing).map fun enumeration =>
      .listing (.enumeration enumeration)
  | .lookup | .lookupLink | .createSubcontext => .ok reply
  | _ => .ok .nothing

/-- Whether an operation with a split name branches. -/
def branches (verb : Verb) (split : SplitName) : Bool :=
  match verb with
  | .lookup => split.isEmpty
  | _ => false

/-- Both names of a renaming, in the form that a caller means; neither is read before both are
there. -/
def readNames (old new : GivenName) : Except Fault (CompositeName × CompositeName) :=
  if old = .missing then .error (.missingArgument "old_name")
  else if new = .missing then .error (.missingArgument "new_name")
  else do
    let old ← old.resolve
    let new ← new.resolve
    return (old, new)

/-- Carries out an operation through the context that serves its name. -/
def perform (router : Router) (env : Environment) : Operation → Program Reply
  | .on verb name => do
    let split := (← Program.ofExcept (readName "name" name)).split
    if branches verb split then
      return .branch
    let selection ← router.select env split.scheme
    let reply ← selection.context.perform (.on verb (targetName selection name split))
    Program.ofExcept (routedReply verb reply)
  | .rename old new => do
    let (oldName, newName) ← Program.ofExcept (readNames old new)
    let selection ← router.select env oldName.split.scheme
    let _ ← selection.context.perform
      (.rename (targetName selection old oldName.split) (targetName selection new newName.split))
    return .nothing

end Router

end NameRouting
