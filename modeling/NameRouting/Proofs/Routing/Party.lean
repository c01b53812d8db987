import NameRouting.Proofs.Program.Yields
import NameRouting.Routing.Router

/-!
# Whom a selection asks

Each part of a selection makes requests of few parties only: the questions to a
provider plugin, the search among context plugins, and the search for a URL
context do not reach into each other.  No part of a selection asks a context to
carry out an operation.  An operation as a whole asks for no entry points: the
plugins of a router are those that it was made with.
-/

namespace NameRouting

/-- Whom a request is made of. -/
inductive Party where
  | providerPlugin
  | provider
  | contextPlugin
  | urlPlugin
  | context
  | installation
deriving DecidableEq, Repr

/-- The party that a request is made of. -/
def Request.party : Request → Party
  | .accepts _ _ _ | .createProvider _ _ _ => .providerPlugin
  | .closeProvider _ => .provider
  | .serves _ _ _ | .createContext _ _ _ _ => .contextPlugin
  | .urlContext _ _ _ | .importModule _ => .urlPlugin
  | .perform _ _ => .context
  | .entryPoints _ | .load _ => .installation

open Program (onlyAsks_request)

/-! ## The search for a URL context -/

namespace UrlContext

theorem made_onlyAsks (factory : Option UrlFactory) (scheme : String)
    (env : Environment) : (made factory scheme env).OnlyAsks (·.party = .urlPlugin) := by
  cases factory with
  | none => trivial
  | some factory => exact onlyAsks_request rfl

theorem candidate_onlyAsks (start scheme : String) :
    (candidate start scheme).OnlyAsks (·.party = .urlPlugin) := by
  rw [candidate]
  split
  · trivial
  · exact ⟨rfl, fun _ => trivial⟩

theorem search_onlyAsks (scheme : String) (env : Environment)
    (starts : List String) : (search scheme env starts).OnlyAsks (·.party = .urlPlugin) := by
  induction starts with
  | nil => trivial
  | cons start rest ih =>
      apply (candidate_onlyAsks start scheme).bind
      intro factory
      apply (made_onlyAsks factory scheme env).bind
      rintro (_ | context)
      · exact ih
      · trivial

theorem resolve_onlyAsks (registry : Registry) (scheme : String)
    (env : Environment) :
    (registry.resolve scheme env).OnlyAsks (·.party = .urlPlugin) := by
  apply (made_onlyAsks _ scheme env).bind
  rintro (_ | context)
  · exact search_onlyAsks scheme env _
  · trivial

end UrlContext

/-! ## Selection -/

namespace Selection

theorem urlContext_onlyAsks (plugins : Plugins) (scheme : Option String)
    (env : Environment) :
    (urlContext plugins scheme env).OnlyAsks (·.party = .urlPlugin) := by
  cases scheme with
  | none => trivial
  | some scheme => exact UrlContext.resolve_onlyAsks plugins.urlContexts scheme env

theorem acceptsAll_onlyAsks (factory : ProviderFactory) (env : Environment)
    (endpoints : List Endpoint) :
    (acceptsAll factory env endpoints).OnlyAsks
      (∃ scheme, · = .accepts factory scheme env) := by
  induction endpoints with
  | nil => trivial
  | cons endpoint rest ih =>
      apply (onlyAsks_request ⟨endpoint.scheme, rfl⟩).bind
      rintro (_ | _)
      · trivial
      · exact ih

theorem findContext_onlyAsks (provider : Option Provider)
    (scheme : Option String) (env : Environment) (factories : List ContextFactory) :
    (findContext provider scheme env factories).OnlyAsks
      (·.party = .contextPlugin) := by
  induction factories with
  | nil => trivial
  | cons factory rest ih =>
      rw [findContext]
      refine Program.OnlyAsks.bind (onlyAsks_request (by rfl)) ?_
      rintro (_ | _)
      · exact ih
      · exact onlyAsks_request rfl

theorem throughProviders_onlyAsks (plugins : Plugins) (endpoints : List Endpoint)
    (scheme : Option String) (env : Environment) (factories : List ProviderFactory) :
    (throughProviders plugins endpoints scheme env factories).OnlyAsks
      (·.party ∈ [.providerPlugin, .provider, .contextPlugin]) := by
  induction factories with
  | nil => trivial
  | cons factory rest ih =>
      refine ((acceptsAll_onlyAsks factory env endpoints).mono ?_).bind ?_
      · rintro _ ⟨scheme, rfl⟩
        simp [Request.party]
      rintro (_ | _)
      · exact ih
      refine (onlyAsks_request (by simp [Request.party])).bind fun provider => ?_
      refine ((findContext_onlyAsks _ _ _ _).mono fun request hparty => ?_).bind ?_
      · simp [hparty]
      rintro (_ | context)
      · exact (onlyAsks_request (by simp [Request.party])).bind fun _ => ih
      · trivial

/-- A selection asks whomever its plugins ask, and beyond them only for URL
contexts. -/
theorem resolve_onlyAsks {P : Request → Prop} {plugins : Plugins}
    {endpoints : Option (List Endpoint)} {scheme : Option String} {env : Environment}
    (hplugins : (throughPlugins plugins endpoints scheme env).OnlyAsks P)
    (hurl : ∀ request : Request, request.party = .urlPlugin → P request) :
    (resolve plugins endpoints scheme env).OnlyAsks P := by
  refine hplugins.bind ?_
  rintro (_ | context)
  · refine ((urlContext_onlyAsks plugins scheme env).mono hurl).bind ?_
    rintro (_ | context)
    · dsimp only
      split <;> trivial
    · trivial
  · trivial

/-- Without an endpoint that has a scheme, a selection asks no provider plugin. -/
theorem resolve_onlyAsks_of_noneHasScheme {plugins : Plugins}
    {endpoints : Option (List Endpoint)} {scheme : Option String} {env : Environment}
    (hnone : noneHasScheme endpoints = true) :
    (resolve plugins endpoints scheme env).OnlyAsks (·.party ≠ .providerPlugin) := by
  apply resolve_onlyAsks
  · rw [throughPlugins, if_pos hnone]
    refine (findContext_onlyAsks _ _ _ _).mono fun request hparty => ?_
    rw [hparty]
    decide
  · intro request hparty
    rw [hparty]
    decide

/-- A selection asks plugins, and the providers that they make, and nobody else. -/
theorem resolve_onlyAsks_plugins (plugins : Plugins)
    (endpoints : Option (List Endpoint)) (scheme : Option String) (env : Environment) :
    (resolve plugins endpoints scheme env).OnlyAsks
      (·.party ∈ [.providerPlugin, .provider, .contextPlugin, .urlPlugin]) := by
  apply resolve_onlyAsks
  · rw [throughPlugins]
    split
    · refine (findContext_onlyAsks _ _ _ _).mono fun request hparty => ?_
      rw [hparty]
      decide
    · refine (throughProviders_onlyAsks _ _ _ _ _).mono fun request hparty => ?_
      exact (show List.Sublist _ _ from by decide).subset hparty
  · intro request hparty
    rw [hparty]
    decide

/-- A selection never asks a context to carry out an operation. -/
theorem resolve_onlyAsks_of_party_ne_context (plugins : Plugins)
    (endpoints : Option (List Endpoint)) (scheme : Option String) (env : Environment) :
    (resolve plugins endpoints scheme env).OnlyAsks (·.party ≠ .context) := by
  refine (resolve_onlyAsks_plugins _ _ _ _).mono fun request hparty hcontext => ?_
  rw [hcontext] at hparty
  exact absurd hparty (by decide)

end Selection

/-! ## Operations -/

namespace Program

theorem ofLogged_onlyAsks {α : Type} (logged : Logged α) (P : Request → Prop) :
    (ofLogged logged).OnlyAsks P := by
  obtain ⟨outcome, records⟩ := logged
  induction records with
  | nil => trivial
  | cons record rest ih => exact ih

end Program

theorem Context.perform_onlyAsks (context : Context) (operation : Operation) :
    (context.perform operation).OnlyAsks (·.party ≠ .installation) := by
  rw [perform]
  cases context.kind with
  | own kindName => exact onlyAsks_request fun hparty => nomatch hparty
  | empty => trivial
  | plain => trivial

namespace Router

variable (router : Router) (env : Environment)

theorem select_onlyAsks (scheme : Option String) :
    (router.select env scheme).OnlyAsks (·.party ≠ .installation) := by
  refine (Program.ofLogged_onlyAsks _ _).bind fun endpoints => ?_
  refine ((Selection.resolve_onlyAsks_plugins _ _ _ _).mono ?_).bind fun _ => trivial
  intro request hparty hinstallation
  rw [hinstallation] at hparty
  exact absurd hparty (by decide)

/-- No operation makes a router look for plugins again. -/
theorem perform_onlyAsks (operation : Operation) :
    (router.perform env operation).OnlyAsks (·.party ≠ .installation) := by
  cases operation with
  | on verb name =>
      refine Program.OnlyAsks.bind (by trivial) fun parsed => ?_
      dsimp only
      split
      · trivial
      · refine (select_onlyAsks router env _).bind fun selection => ?_
        exact (selection.context.perform_onlyAsks _).bind fun _ => trivial
  | rename old new =>
      refine Program.OnlyAsks.bind (by trivial) fun parsed => ?_
      refine (select_onlyAsks router env _).bind fun selection => ?_
      exact (selection.context.perform_onlyAsks _).bind fun _ => trivial

end Router

end NameRouting
