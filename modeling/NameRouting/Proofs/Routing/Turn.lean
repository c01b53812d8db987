import NameRouting.Proofs.Program.Yields
import NameRouting.Routing.Selection

/-!
# The turns of plugins in a selection

Context plugins are asked one after the other until one of them serves, and
provider plugins have their turns one after the other until one of them leads to
a context.  For each of these searches one statement here says everything that
it can yield.  What a selection does with its plugins is derived from these
statements and not from the searches themselves.
-/

namespace NameRouting.Selection

/-! ## Questions -/

/-- A provider plugin accepts the scheme of an endpoint. -/
def acceptance (factory : ProviderFactory) (env : Environment)
    (endpoint : Endpoint) : Event :=
  .asked (.accepts factory endpoint.scheme env) (.ok true)

/-- A context plugin does not serve a provider and a scheme. -/
def refusal (provider : Option Provider) (scheme : Option String)
    (factory : ContextFactory) : Event :=
  .asked (.serves factory provider scheme) (.ok false)

/-- A provider plugin is asked about the endpoints in order, up to the first
answer that is not positive. -/
theorem yields_acceptsAll {factory : ProviderFactory} {env : Environment}
    {endpoints : List Endpoint} {events : List Event} {outcome : Except Fault Bool}
    (h : (acceptsAll factory env endpoints).Yields events outcome) :
    (events = endpoints.map (acceptance factory env) ∧ outcome = .ok true) ∨
      ∃ before endpoint after, endpoints = before ++ endpoint :: after ∧
        outcome ≠ .ok true ∧
        events = before.map (acceptance factory env) ++
          [.asked (.accepts factory endpoint.scheme env) outcome] := by
  induction endpoints generalizing events with
  | nil =>
      obtain ⟨rfl, rfl⟩ := Program.yields_pure_iff.mp h
      exact .inl ⟨rfl, rfl⟩
  | cons endpoint rest ih =>
      rw [acceptsAll, Program.yields_request_bind_iff] at h
      rcases h with ⟨fault, rfl, rfl⟩ | ⟨accepted, later, rfl, h⟩
      · exact .inr ⟨[], endpoint, rest, rfl, by simp, rfl⟩
      · cases accepted with
        | false =>
            obtain ⟨rfl, rfl⟩ := Program.yields_pure_iff.mp h
            exact .inr ⟨[], endpoint, rest, rfl, by simp, rfl⟩
        | true =>
            rcases ih h with ⟨rfl, rfl⟩ | ⟨before, other, after, rfl, hne, rfl⟩
            · exact .inl ⟨rfl, rfl⟩
            · exact .inr ⟨endpoint :: before, other, after, rfl, hne, rfl⟩

/-- Context plugins are asked in order; the first that serves makes the context,
and its answer is the result. -/
theorem yields_findContext {provider : Option Provider} {scheme : Option String}
    {env : Environment} {factories : List ContextFactory} {events : List Event}
    {outcome : Except Fault (Option Context)}
    (h : (findContext provider scheme env factories).Yields events outcome) :
    (events = factories.map (refusal provider scheme) ∧ outcome = .ok none) ∨
      ∃ before factory after, factories = before ++ factory :: after ∧
        ((∃ fault, outcome = .error fault ∧
            events = before.map (refusal provider scheme) ++
              [.asked (.serves factory provider scheme) (.error fault)]) ∨
          events = before.map (refusal provider scheme) ++
            [.asked (.serves factory provider scheme) (.ok true),
              .asked (.createContext factory provider scheme env) outcome]) := by
  induction factories generalizing events with
  | nil =>
      obtain ⟨rfl, rfl⟩ := Program.yields_pure_iff.mp h
      exact .inl ⟨rfl, rfl⟩
  | cons factory rest ih =>
      rw [findContext, Program.yields_request_bind_iff] at h
      rcases h with ⟨fault, rfl, rfl⟩ | ⟨served, later, rfl, h⟩
      · exact .inr ⟨[], factory, rest, rfl, .inl ⟨fault, rfl, rfl⟩⟩
      · cases served with
        | true =>
            obtain rfl := Program.yields_request_iff.mp h
            exact .inr ⟨[], factory, rest, rfl, .inr rfl⟩
        | false =>
            rcases ih h with ⟨rfl, rfl⟩ |
              ⟨before, other, after, rfl, ⟨fault, rfl, rfl⟩ | rfl⟩
            · exact .inl ⟨rfl, rfl⟩
            · exact .inr ⟨factory :: before, other, after, rfl,
                .inl ⟨fault, rfl, rfl⟩⟩
            · exact .inr ⟨factory :: before, other, after, rfl, .inr rfl⟩

/-- The context that a search makes is its outcome. -/
theorem createContext_of_mem_findContext {provider used : Option Provider}
    {scheme scheme' : Option String} {env env' : Environment} {factory : ContextFactory}
    {factories : List ContextFactory} {events : List Event}
    {outcome answer : Except Fault (Option Context)}
    (h : (findContext provider scheme env factories).Yields events outcome)
    (hmem : .asked (.createContext factory used scheme' env') answer ∈ events) :
    used = provider ∧ scheme' = scheme ∧ env' = env ∧ answer = outcome := by
  rcases yields_findContext h with
    ⟨rfl, rfl⟩ | ⟨before, first, after, rfl, ⟨fault, rfl, rfl⟩ | rfl⟩
  · simp [refusal] at hmem
  · simp [refusal] at hmem
  · have hlast : (factory = first ∧ used = provider ∧ scheme' = scheme ∧ env' = env) ∧
        answer = outcome := by simpa [refusal] using hmem
    obtain ⟨⟨-, hasked⟩, hanswer⟩ := hlast
    exact ⟨hasked.1, hasked.2.1, hasked.2.2, hanswer⟩

/-! ## Turns of provider plugins -/

/-- What can be yielded from the turn of a provider plugin on, when `Later` tells
what the turns after it can yield. -/
inductive Turn (plugins : Plugins) (endpoints : List Endpoint)
    (scheme : Option String) (env : Environment) (factory : ProviderFactory)
    (Later : List Event → Except Fault (Option Context) → Prop) :
    List Event → Except Fault (Option Context) → Prop
  /-- The plugin fails to answer a question. -/
  | unanswered {asking : List Event} {fault : Fault}
      (hasking : (acceptsAll factory env endpoints).Yields asking (.error fault)) :
      Turn plugins endpoints scheme env factory Later asking (.error fault)
  /-- The plugin refuses an endpoint. -/
  | refused {asking later : List Event} {outcome : Except Fault (Option Context)}
      (hasking : (acceptsAll factory env endpoints).Yields asking (.ok false))
      (hlater : Later later outcome) :
      Turn plugins endpoints scheme env factory Later (asking ++ later) outcome
  /-- The plugin accepts all endpoints and fails to make a provider. -/
  | unmade {asking : List Event} {fault : Fault}
      (hasking : (acceptsAll factory env endpoints).Yields asking (.ok true)) :
      Turn plugins endpoints scheme env factory Later
        (asking ++ [.asked (.createProvider factory endpoints env) (.error fault)])
        (.error fault)
  /-- The search for a context for the provider ends the turns, with a context
  or with a fault. -/
  | decided {asking searching : List Event} {provider : Provider}
      {outcome : Except Fault (Option Context)}
      (hasking : (acceptsAll factory env endpoints).Yields asking (.ok true))
      (hsearching : (findContext (some provider) scheme env plugins.contexts).Yields
        searching outcome)
      (hdecided : outcome ≠ .ok none) :
      Turn plugins endpoints scheme env factory Later
        (asking ++ .asked (.createProvider factory endpoints env) (.ok provider) ::
          searching) outcome
  /-- There is no context for the provider, and it fails to close. -/
  | unclosed {asking searching : List Event} {provider : Provider} {fault : Fault}
      (hasking : (acceptsAll factory env endpoints).Yields asking (.ok true))
      (hsearching : (findContext (some provider) scheme env plugins.contexts).Yields
        searching (.ok none)) :
      Turn plugins endpoints scheme env factory Later
        (asking ++ .asked (.createProvider factory endpoints env) (.ok provider) ::
          (searching ++ [.asked (.closeProvider provider) (.error fault)]))
        (.error fault)
  /-- There is no context for the provider, and it is closed. -/
  | closed {asking searching later : List Event} {provider : Provider}
      {outcome : Except Fault (Option Context)}
      (hasking : (acceptsAll factory env endpoints).Yields asking (.ok true))
      (hsearching : (findContext (some provider) scheme env plugins.contexts).Yields
        searching (.ok none))
      (hlater : Later later outcome) :
      Turn plugins endpoints scheme env factory Later
        (asking ++ .asked (.createProvider factory endpoints env) (.ok provider) ::
          (searching ++ .asked (.closeProvider provider) (.ok ()) :: later))
        outcome

theorem turn_of_yields {plugins : Plugins} {endpoints : List Endpoint}
    {scheme : Option String} {env : Environment} {factory : ProviderFactory}
    {rest : List ProviderFactory} {events : List Event}
    {outcome : Except Fault (Option Context)}
    (h : (throughProviders plugins endpoints scheme env (factory :: rest)).Yields
      events outcome) :
    Turn plugins endpoints scheme env factory
      (throughProviders plugins endpoints scheme env rest).Yields
      events outcome := by
  rw [throughProviders, Program.yields_bind_iff] at h
  rcases h with ⟨fault, hasking, rfl⟩ | ⟨accepted, asking, later, rfl, hasking, h⟩
  · exact .unanswered hasking
  cases accepted with
  | false => exact .refused hasking h
  | true =>
      rcases Program.yields_request_bind_iff.mp h with
        ⟨fault, rfl, rfl⟩ | ⟨provider, later, rfl, hmade⟩
      · exact .unmade hasking
      rcases Program.yields_bind_iff.mp hmade with
        ⟨fault, hsearching, rfl⟩ | ⟨found, searching, later, rfl, hsearching, hfound⟩
      · exact .decided hasking hsearching (by simp)
      cases found with
      | some context =>
          obtain ⟨rfl, rfl⟩ := Program.yields_pure_iff.mp hfound
          rw [List.append_nil]
          exact .decided hasking hsearching (by simp)
      | none =>
          rcases Program.yields_request_bind_iff.mp hfound with
            ⟨fault, rfl, rfl⟩ | ⟨_, later, rfl, hlater⟩
          · exact .unclosed hasking hsearching
          · exact .closed hasking hsearching hlater

/-! ## After the plugins -/

theorem yields_selected_iff {context : Context} {whole : Bool} {way : String}
    {scheme : Option String} {events : List Event}
    {outcome : Except Fault Selection} :
    (selected context whole way scheme).Yields events outcome ↔
      events = [.told (.record (selectedTrace context way scheme))] ∧
        outcome = .ok ⟨context, whole⟩ := by
  simp only [selected, Program.yields_bind_iff, Program.yields_log_iff,
    Program.yields_pure_iff]
  constructor
  · rintro (⟨_, ⟨-, h⟩, -⟩ | ⟨_, _, _, rfl, ⟨rfl, -⟩, rfl, rfl⟩)
    · cases h
    · exact ⟨rfl, rfl⟩
  · rintro ⟨rfl, rfl⟩
    exact .inr ⟨(), _, [], rfl, ⟨rfl, trivial⟩, rfl, rfl⟩

/-- What a selection comes to when the plugins have no context, by what the
search for a URL context came to. -/
def withoutPlugins (endpoints : Option (List Endpoint)) (scheme : Option String)
    (env : Environment) : Except Fault (Option Context) → Except Fault Selection
  | .error fault => .error fault
  | .ok (some context) => .ok ⟨context, true⟩
  | .ok none =>
      if noneHasScheme endpoints && scheme.isNone then
        .ok ⟨emptyContext env, false⟩
      else
        .error (.noProvider scheme)

/-- A selection ends with what the plugins come to; only when they have no
context does it search for a URL context, and then that decides. -/
theorem yields_resolve {plugins : Plugins} {endpoints : Option (List Endpoint)}
    {scheme : Option String} {env : Environment} {events : List Event}
    {outcome : Except Fault Selection}
    (h : (resolve plugins endpoints scheme env).Yields events outcome) :
    (∃ fault, outcome = .error fault ∧
        (throughPlugins plugins endpoints scheme env).Yields events (.error fault)) ∨
      (∃ context before message, outcome = .ok ⟨context, false⟩ ∧
        events = before ++ [.told message] ∧
        (throughPlugins plugins endpoints scheme env).Yields before
          (.ok (some context))) ∨
      ∃ (found : Except Fault (Option Context)) (before searching : List Event)
        (messages : List Message),
        outcome = withoutPlugins endpoints scheme env found ∧
        events = before ++ (searching ++ messages.map .told) ∧
        (throughPlugins plugins endpoints scheme env).Yields before (.ok none) ∧
        (urlContext plugins scheme env).Yields searching found := by
  rw [resolve, Program.yields_bind_iff] at h
  rcases h with ⟨fault, hplugins, rfl⟩ | ⟨found, before, after, rfl, hplugins, h⟩
  · exact .inl ⟨fault, rfl, hplugins⟩
  cases found with
  | some context =>
      obtain ⟨rfl, rfl⟩ := yields_selected_iff.mp h
      exact .inr (.inl ⟨context, before, _, rfl, rfl, hplugins⟩)
  | none =>
      refine .inr (.inr ?_)
      rcases Program.yields_bind_iff.mp h with
        ⟨fault, hurl, rfl⟩ | ⟨url, searching, after, rfl, hurl, hend⟩
      · exact ⟨.error fault, before, after, [], rfl, by simp, hplugins, hurl⟩
      cases url with
      | some context =>
          obtain ⟨rfl, rfl⟩ := yields_selected_iff.mp hend
          exact ⟨.ok (some context), before, searching, [_], rfl, rfl, hplugins, hurl⟩
      | none =>
          dsimp only at hend
          split at hend
          next hempty =>
            obtain ⟨rfl, rfl⟩ := yields_selected_iff.mp hend
            exact ⟨.ok none, before, searching, [_], by simp [withoutPlugins, hempty],
              rfl, hplugins, hurl⟩
          next hempty =>
            obtain ⟨rfl, rfl⟩ := Program.yields_fail_iff.mp hend
            exact ⟨.ok none, before, searching, [], by simp [withoutPlugins, hempty],
              by simp, hplugins, hurl⟩

end NameRouting.Selection
