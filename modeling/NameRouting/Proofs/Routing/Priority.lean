import NameRouting.Proofs.Routing.Party
import NameRouting.Proofs.Routing.Turn
import NameRouting.Scripted.Stage

/-!
# The order of preference in a selection

When plugins answer questions always alike and never fail, a selection is told by
an order of preference.  What plugins make may still differ from one time to the
next, so their behaviour is described with the number of providers that were made
before.  The context of a selection is then the first one in this order: that of
the plugins, that of the registered URL contexts, and an empty one.
-/

namespace NameRouting

/-! ## Behaviour of plugins -/

/-- How plugins behave that answer questions always alike and never fail.  What
they make may depend on how many providers were made before. -/
structure Behaviour where
  accepts : ProviderFactory → Option String → Environment → Bool
  serves : ContextFactory → Option Provider → Option String → Bool
  provider : Nat → ProviderFactory → List Endpoint → Environment → Provider
  context : Nat → ContextFactory → Option Provider → Option String → Environment →
    Option Context

namespace Event

/-- A provider plugin is asked to make a provider. -/
def isMaking : Event → Bool
  | .asked (.createProvider _ _ _) _ => true
  | _ => false

/-- A plugin answers a question by a fixed rule, or does what it is asked to do
without failing. -/
def isSteady (accepts : ProviderFactory → Option String → Environment → Bool)
    (serves : ContextFactory → Option Provider → Option String → Bool) : Event → Bool
  | .asked (.accepts factory scheme env) answer =>
      answer.toOption == some (accepts factory scheme env)
  | .asked (.serves factory provider scheme) answer =>
      answer.toOption == some (serves factory provider scheme)
  | .asked (.createProvider _ _ _) answer => answer.isOk
  | .asked (.createContext _ _ _ _) answer => answer.isOk
  | .asked (.closeProvider _) answer => answer.isOk
  | _ => true

end Event

/-- How often a provider plugin is asked to make a provider. -/
def makings (events : List Event) : Nat :=
  events.countP (·.isMaking)

theorem makings_append (before after : List Event) :
    makings (before ++ after) = makings before + makings after :=
  List.countP_append

namespace Behaviour

/-- An event shows the behaviour, after a number of providers were made. -/
def Fits (b : Behaviour) (made : Nat) : Event → Prop
  | .asked (.accepts factory scheme env) answer =>
      answer = .ok (b.accepts factory scheme env)
  | .asked (.serves factory provider scheme) answer =>
      answer = .ok (b.serves factory provider scheme)
  | .asked (.createProvider factory endpoints env) answer =>
      answer = .ok (b.provider made factory endpoints env)
  | .asked (.createContext factory provider scheme env) answer =>
      answer = .ok (b.context made factory provider scheme env)
  | .asked (.closeProvider _) answer => answer = .ok ()
  | _ => True

/-- All events show the behaviour, when a number of providers were made before
them. -/
def Explains (b : Behaviour) : Nat → List Event → Prop
  | _, [] => True
  | made, event :: rest => b.Fits made event ∧ b.Explains (made + makings [event]) rest

variable {b : Behaviour} {made : Nat}

theorem explains_append {before after : List Event} :
    b.Explains made (before ++ after) ↔
      b.Explains made before ∧ b.Explains (made + makings before) after := by
  induction before generalizing made with
  | nil => simp [Explains, makings]
  | cons event rest ih =>
      have hcount : makings (event :: rest) = makings [event] + makings rest :=
        makings_append [event] rest
      rw [List.cons_append, Explains, Explains, ih, hcount, Nat.add_assoc, and_assoc]

theorem exists_fits_of_mem {events : List Event} (h : b.Explains made events)
    {event : Event} (hmem : event ∈ events) : ∃ made, b.Fits made event := by
  induction events generalizing made with
  | nil => simp at hmem
  | cons first rest ih =>
      rcases List.mem_cons.mp hmem with rfl | hmem
      · exact ⟨made, h.1⟩
      · exact ih h.2 hmem

/-! ## Preference -/

/-- Whether a provider plugin accepts the scheme of every endpoint. -/
def acceptsEach (b : Behaviour) (endpoints : List Endpoint) (env : Environment)
    (factory : ProviderFactory) : Bool :=
  endpoints.all fun endpoint => b.accepts factory endpoint.scheme env

/-- The result of the first context plugin that serves a provider and a scheme. -/
def candidate (b : Behaviour) (contexts : List ContextFactory) (made : Nat)
    (provider : Option Provider) (scheme : Option String) (env : Environment) :
    Option Context :=
  (contexts.find? (b.serves · provider scheme)).bind
    (b.context made · provider scheme env)

/-- The candidate for the provider of a plugin, when the plugin is the next one to
make a provider. -/
def offer (b : Behaviour) (contexts : List ContextFactory) (endpoints : List Endpoint)
    (scheme : Option String) (env : Environment) (factory : ProviderFactory)
    (made : Nat) : Option Context :=
  b.candidate contexts (made + 1) (some (b.provider made factory endpoints env))
    scheme env

/-- The context that the plugins have for a scheme.  Among provider plugins it is
that of the first one which accepts all endpoints and for whose provider there is a
candidate. -/
def preferred (b : Behaviour) (plugins : Plugins) (endpoints : Option (List Endpoint))
    (scheme : Option String) (env : Environment) : Option Context :=
  if Selection.noneHasScheme endpoints then
    b.candidate plugins.contexts 0 none scheme env
  else
    let accepting := plugins.providers.filter (b.acceptsEach (endpoints.getD []) env)
    accepting.zipIdx.findSome? fun (factory, made) =>
      b.offer plugins.contexts (endpoints.getD []) scheme env factory made

end Behaviour

namespace Selection

section Steady

variable {b : Behaviour} {made : Nat} {scheme : Option String} {env : Environment}
  {events : List Event}

theorem makings_eq_zero_of_onlyAsks {α : Type} {program : Program α}
    {outcome : Except Fault α} {P : Request → Prop} (honly : program.OnlyAsks P)
    (hP : ∀ factory endpoints env, ¬ P (.createProvider factory endpoints env))
    (h : program.Yields events outcome) : makings events = 0 := by
  have hmakes : ∀ event ∈ events, ¬ event.isMaking = true := by
    refine honly.forall_mem h (fun request answer hrequest => ?_) (by simp [Event.isMaking])
    cases request with
    | createProvider factory endpoints env =>
        exact absurd hrequest (hP factory endpoints env)
    | _ => simp [Event.isMaking]
  exact List.countP_eq_zero.mpr hmakes

theorem makings_acceptsAll {factory : ProviderFactory} {endpoints : List Endpoint}
    {outcome : Except Fault Bool}
    (h : (acceptsAll factory env endpoints).Yields events outcome) :
    makings events = 0 :=
  makings_eq_zero_of_onlyAsks (acceptsAll_onlyAsks factory env endpoints)
    (by rintro _ _ _ ⟨scheme, heq⟩; exact nomatch heq) h

theorem makings_findContext {provider : Option Provider}
    {factories : List ContextFactory} {outcome : Except Fault (Option Context)}
    (h : (findContext provider scheme env factories).Yields events outcome) :
    makings events = 0 :=
  makings_eq_zero_of_onlyAsks (findContext_onlyAsks provider scheme env factories)
    (by simp [Request.party]) h

/-- A provider plugin that behaves steadily accepts all endpoints or not. -/
theorem acceptsAll_of_explains {factory : ProviderFactory} {endpoints : List Endpoint}
    {outcome : Except Fault Bool}
    (h : (acceptsAll factory env endpoints).Yields events outcome)
    (hb : b.Explains made events) :
    outcome = .ok (b.acceptsEach endpoints env factory) := by
  rcases yields_acceptsAll h with
    ⟨rfl, rfl⟩ | ⟨before, endpoint, after, rfl, hne, rfl⟩
  · have heach : b.acceptsEach endpoints env factory = true := by
      rw [Behaviour.acceptsEach, List.all_eq_true]
      intro endpoint hmem
      obtain ⟨_, hfits⟩ := Behaviour.exists_fits_of_mem hb
        (List.mem_map_of_mem hmem)
      exact (Except.ok.inj hfits).symm
    rw [heach]
  · obtain ⟨_, hfits⟩ := Behaviour.exists_fits_of_mem hb
      (List.mem_append_right _ (List.mem_singleton_self _))
    change outcome = .ok (b.accepts factory endpoint.scheme env) at hfits
    subst hfits
    have hrefused : b.accepts factory endpoint.scheme env = false := by
      simpa using hne
    simp [Behaviour.acceptsEach, hrefused]

/-- Context plugins that behave steadily come to the candidate. -/
theorem findContext_of_explains {provider : Option Provider}
    {factories : List ContextFactory} {outcome : Except Fault (Option Context)}
    (h : (findContext provider scheme env factories).Yields events outcome)
    (hb : b.Explains made events) :
    outcome = .ok (b.candidate factories made provider scheme env) := by
  have hrefuses {factories : List ContextFactory}
      (hb : b.Explains made (factories.map (refusal provider scheme))) :
      factories.find? (b.serves · provider scheme) = none := by
    rw [List.find?_eq_none]
    intro factory hmem
    obtain ⟨_, hfits⟩ := Behaviour.exists_fits_of_mem hb (List.mem_map_of_mem hmem)
    simp [← Except.ok.inj hfits]
  rcases yields_findContext h with
    ⟨rfl, rfl⟩ | ⟨before, factory, after, rfl, ⟨fault, rfl, rfl⟩ | rfl⟩
  · rw [Behaviour.candidate, hrefuses hb]
    rfl
  · have hfits := (Behaviour.explains_append.mp hb).2.1
    exact nomatch hfits
  · obtain ⟨hbefore, hserves, hgives, -⟩ := Behaviour.explains_append.mp hb
    have hnothing : makings (before.map (refusal provider scheme)) = 0 := by
      simp [makings, refusal, Event.isMaking]
    have hfirst : (before ++ factory :: after).find? (b.serves · provider scheme) =
        some factory := by
      rw [List.find?_append, hrefuses hbefore, Option.none_or]
      exact List.find?_cons_of_pos (Except.ok.inj hserves).symm
    rw [Behaviour.candidate, hfirst]
    rw [hnothing] at hgives
    exact hgives

/-- What steady behaviour says about a turn in which a provider is made. -/
theorem made_of_explains {factory : ProviderFactory} {endpoints : List Endpoint}
    {provider : Provider} {asking rest : List Event}
    (hasking : (acceptsAll factory env endpoints).Yields asking (.ok true))
    (hb : b.Explains made
      (asking ++ .asked (.createProvider factory endpoints env) (.ok provider) :: rest)) :
    b.acceptsEach endpoints env factory = true ∧
      provider = b.provider made factory endpoints env ∧ b.Explains (made + 1) rest := by
  obtain ⟨hasked, hmade, hrest⟩ := Behaviour.explains_append.mp hb
  have haccepts := acceptsAll_of_explains hasking hasked
  rw [makings_acceptsAll hasking] at hmade hrest
  exact ⟨(Except.ok.inj haccepts).symm, Except.ok.inj hmade, hrest⟩

/-- The turns of provider plugins that behave steadily come to the first candidate
among those that accept all endpoints. -/
theorem throughProviders_of_explains {plugins : Plugins} {endpoints : List Endpoint}
    {factories : List ProviderFactory} {outcome : Except Fault (Option Context)}
    (h : (throughProviders plugins endpoints scheme env factories).Yields
      events outcome)
    (hb : b.Explains made events) :
    outcome = .ok (((factories.filter (b.acceptsEach endpoints env)).zipIdx
      made).findSome? fun (factory, made) =>
        b.offer plugins.contexts endpoints scheme env factory made) := by
  induction factories generalizing made events with
  | nil => exact (Program.yields_pure_iff.mp h).2
  | cons factory rest ih =>
      cases turn_of_yields h with
      | unanswered hasking => exact nomatch acceptsAll_of_explains hasking hb
      | refused hasking hlater =>
          obtain ⟨hasked, hlast⟩ := Behaviour.explains_append.mp hb
          have haccepts := Except.ok.inj (acceptsAll_of_explains hasking hasked)
          rw [makings_acceptsAll hasking] at hlast
          rw [List.filter_cons_of_neg (by simp [← haccepts])]
          exact ih hlater hlast
      | unmade hasking =>
          have hmade := (Behaviour.explains_append.mp hb).2.1
          exact nomatch hmade
      | decided hasking hsearching hdecided =>
          obtain ⟨haccepts, rfl, hsearched⟩ := made_of_explains hasking hb
          obtain rfl := findContext_of_explains hsearching hsearched
          rw [List.filter_cons_of_pos haccepts, List.zipIdx_cons, List.findSome?_cons]
          dsimp only
          cases hoffer : b.offer plugins.contexts endpoints scheme env factory made with
          | none => exact absurd (congrArg Except.ok hoffer) hdecided
          | some context => exact congrArg Except.ok hoffer
      | unclosed hasking hsearching =>
          obtain ⟨-, -, hrest⟩ := made_of_explains hasking hb
          exact nomatch (Behaviour.explains_append.mp hrest).2.1
      | closed hasking hsearching hlater =>
          obtain ⟨haccepts, rfl, hrest⟩ := made_of_explains hasking hb
          obtain ⟨hsearched, -, hlast⟩ := Behaviour.explains_append.mp hrest
          have hoffer : b.offer plugins.contexts endpoints scheme env factory made = none :=
            (Except.ok.inj (findContext_of_explains hsearching hsearched)).symm
          rw [makings_findContext hsearching] at hlast
          rw [List.filter_cons_of_pos haccepts, List.zipIdx_cons, List.findSome?_cons]
          dsimp only
          rw [hoffer]
          exact ih hlater hlast

theorem throughPlugins_of_explains {plugins : Plugins}
    {endpoints : Option (List Endpoint)} {outcome : Except Fault (Option Context)}
    (h : (throughPlugins plugins endpoints scheme env).Yields events outcome)
    (hb : b.Explains 0 events) :
    outcome = .ok (b.preferred plugins endpoints scheme env) := by
  rw [throughPlugins] at h
  rw [Behaviour.preferred]
  split at h
  next hnone =>
    rw [if_pos hnone]
    exact findContext_of_explains h hb
  next hsome =>
    rw [if_neg hsome]
    exact throughProviders_of_explains h hb

end Steady

/-! ## Runs in which no plugin fails -/

section Existence

variable {accepts : ProviderFactory → Option String → Environment → Bool}
  {serves : ContextFactory → Option Provider → Option String → Bool}
  {scheme : Option String} {env : Environment} {events : List Event}

/-- The behaviour that makes what is listed. -/
def listedBehaviour (accepts : ProviderFactory → Option String → Environment → Bool)
    (serves : ContextFactory → Option Provider → Option String → Bool)
    (providers : Nat → Provider) (contexts : Nat → Option Context) : Behaviour where
  accepts := accepts
  serves := serves
  provider := fun made _ _ _ => providers made
  context := fun made _ _ _ _ => contexts made

theorem ok_of_toOption_beq {answer : Except Fault Bool} {expected : Bool}
    (h : (answer.toOption == some expected) = true) : answer = .ok expected := by
  cases answer with
  | error fault => simp [Except.toOption] at h
  | ok given => simpa [Except.toOption] using h

/-- Steady events in which no provider is made show every behaviour that answers
alike and makes the same contexts. -/
theorem explains_of_isSteady {b : Behaviour} {made : Nat} (hnone : makings events = 0)
    (hsteady : events.all (·.isSteady b.accepts b.serves))
    (hgives : ∀ factory provider scheme env answer,
      .asked (.createContext factory provider scheme env) answer ∈ events →
        answer = .ok (b.context made factory provider scheme env)) :
    b.Explains made events := by
  induction events with
  | nil => trivial
  | cons event rest ih =>
      have hcount : makings [event] + makings rest = 0 :=
        (makings_append [event] rest).symm.trans hnone
      obtain ⟨hfirst, hrest⟩ := Nat.add_eq_zero_iff.mp hcount
      rw [List.all_cons, Bool.and_eq_true] at hsteady
      obtain ⟨hevent, hevents⟩ := hsteady
      refine ⟨?_, ?_⟩
      · rcases event with ⟨request, answer⟩ | message
        · cases request with
          | accepts factory scheme env => exact ok_of_toOption_beq hevent
          | serves factory provider scheme => exact ok_of_toOption_beq hevent
          | createProvider factory endpoints env => exact nomatch hfirst
          | createContext factory provider scheme env =>
              exact hgives factory provider scheme env answer List.mem_cons_self
          | closeProvider provider =>
              cases answer with
              | error fault => exact nomatch hevent
              | ok answer => rfl
          | _ => trivial
        · trivial
      · rw [hfirst]
        exact ih hrest hevents fun factory provider scheme env answer hmem =>
          hgives factory provider scheme env answer (List.mem_cons_of_mem _ hmem)

theorem explains_acceptsAll {factory : ProviderFactory} {endpoints : List Endpoint}
    {outcome : Except Fault Bool} {b : Behaviour} {made : Nat}
    (h : (acceptsAll factory env endpoints).Yields events outcome)
    (hsteady : events.all (·.isSteady b.accepts b.serves)) : b.Explains made events := by
  refine explains_of_isSteady (makings_acceptsAll h) hsteady ?_
  intro _ _ _ _ _ hmem
  obtain ⟨_, heq⟩ := (acceptsAll_onlyAsks factory env endpoints).of_mem h hmem
  exact nomatch heq

theorem explains_findContext {provider : Option Provider}
    {factories : List ContextFactory} {found : Option Context} {b : Behaviour}
    {made : Nat}
    (h : (findContext provider scheme env factories).Yields events (.ok found))
    (hsteady : events.all (·.isSteady b.accepts b.serves))
    (hfound : ∀ factory, b.context made factory provider scheme env = found) :
    b.Explains made events := by
  refine explains_of_isSteady (makings_findContext h) hsteady ?_
  intro factory _ _ _ answer hmem
  obtain ⟨rfl, rfl, rfl, rfl⟩ := createContext_of_mem_findContext h hmem
  rw [hfound]

/-- A steady search does not fail. -/
theorem exists_found_of_isSteady {provider : Option Provider}
    {factories : List ContextFactory} {outcome : Except Fault (Option Context)}
    (h : (findContext provider scheme env factories).Yields events outcome)
    (hsteady : events.all (·.isSteady accepts serves)) : ∃ found, outcome = .ok found := by
  rcases yields_findContext h with
    ⟨rfl, rfl⟩ | ⟨before, factory, after, rfl, ⟨fault, rfl, rfl⟩ | rfl⟩
  · exact ⟨none, rfl⟩
  · simp [Event.isSteady, Except.toOption] at hsteady
  · cases outcome with
    | error fault => simp [Event.isSteady, Except.isOk, Except.toBool] at hsteady
    | ok found => exact ⟨found, rfl⟩

theorem explains_made {factory : ProviderFactory} {endpoints : List Endpoint}
    {provider : Provider} {asking rest : List Event} {b : Behaviour} {made : Nat}
    (hasking : (acceptsAll factory env endpoints).Yields asking (.ok true))
    (hsteady : asking.all (·.isSteady b.accepts b.serves))
    (hmade : b.provider made factory endpoints env = provider)
    (hrest : b.Explains (made + 1) rest) :
    b.Explains made
      (asking ++ .asked (.createProvider factory endpoints env) (.ok provider) :: rest) := by
  rw [Behaviour.explains_append, makings_acceptsAll hasking]
  exact ⟨explains_acceptsAll hasking hsteady, congrArg Except.ok hmade.symm, hrest⟩

/-- What was made in steady turns can be listed, by the number of providers that
were made before. -/
theorem exists_lists_of_throughProviders {plugins : Plugins}
    {endpoints : List Endpoint} {factories : List ProviderFactory}
    {outcome : Except Fault (Option Context)} (made : Nat)
    (h : (throughProviders plugins endpoints scheme env factories).Yields
      events outcome)
    (hsteady : events.all (·.isSteady accepts serves)) :
    ∃ (providers : Nat → Provider) (contexts : Nat → Option Context),
      ∀ (providers' : Nat → Provider) (contexts' : Nat → Option Context),
        (∀ k, made ≤ k → providers' k = providers k) →
        (∀ k, made < k → contexts' k = contexts k) →
        (listedBehaviour accepts serves providers' contexts').Explains made events := by
  induction factories generalizing made events with
  | nil =>
      obtain ⟨rfl, -⟩ := Program.yields_pure_iff.mp h
      exact ⟨fun _ => ⟨0⟩, fun _ => none, fun _ _ _ _ => trivial⟩
  | cons factory rest ih =>
      cases turn_of_yields h with
      | unanswered hasking =>
          exact ⟨fun _ => ⟨0⟩, fun _ => none, fun _ _ _ _ =>
            explains_acceptsAll hasking hsteady⟩
      | refused hasking hlater =>
          rw [List.all_append, Bool.and_eq_true] at hsteady
          obtain ⟨providers, contexts, hlisted⟩ := ih made hlater hsteady.2
          refine ⟨providers, contexts, fun providers' contexts' hproviders hcontexts => ?_⟩
          rw [Behaviour.explains_append, makings_acceptsAll hasking]
          exact ⟨explains_acceptsAll hasking hsteady.1,
            hlisted providers' contexts' hproviders hcontexts⟩
      | unmade hasking =>
          simp [Event.isSteady, Except.isOk, Except.toBool] at hsteady
      | @decided asking searching provider _ hasking hsearching hdecided =>
          rw [List.all_append, List.all_cons, Bool.and_eq_true, Bool.and_eq_true] at hsteady
          obtain ⟨hasked, -, hsearched⟩ := hsteady
          obtain ⟨found, rfl⟩ := exists_found_of_isSteady hsearching hsearched
          refine ⟨fun _ => provider, fun _ => found,
            fun providers' contexts' hproviders hcontexts => ?_⟩
          have hfound : contexts' (made + 1) = found := hcontexts _ (by omega)
          exact explains_made hasking hasked (hproviders made (by omega))
            (explains_findContext hsearching hsearched fun _ => hfound)
      | unclosed hasking hsearching =>
          simp [Event.isSteady, Except.isOk, Except.toBool] at hsteady
      | @closed asking searching later provider _ hasking hsearching hlater =>
          rw [List.all_append, List.all_cons, List.all_append, List.all_cons] at hsteady
          simp only [Bool.and_eq_true] at hsteady
          obtain ⟨hasked, -, hsearched, -, hlast⟩ := hsteady
          obtain ⟨providers, contexts, hlisted⟩ := ih (made + 1) hlater hlast
          refine ⟨fun k => if k = made then provider else providers k,
            fun k => if k = made + 1 then none else contexts k,
            fun providers' contexts' hproviders hcontexts => ?_⟩
          have hmade : providers' made = provider := by simp [hproviders made (by omega)]
          have hfound : contexts' (made + 1) = none := by
            simp [hcontexts (made + 1) (by omega)]
          refine explains_made hasking hasked hmade ?_
          rw [Behaviour.explains_append, makings_findContext hsearching]
          refine ⟨explains_findContext hsearching hsearched fun _ => hfound, rfl, ?_⟩
          apply hlisted
          · intro k hk
            exact (hproviders k (by omega)).trans (if_neg (by omega))
          · intro k hk
            exact (hcontexts k (by omega)).trans (if_neg (by omega))

/-- When no plugin fails and the questions are answered by fixed rules, there is a
behaviour that explains what the plugins did. -/
theorem exists_explains_of_throughPlugins {plugins : Plugins}
    {endpoints : Option (List Endpoint)} {outcome : Except Fault (Option Context)}
    (h : (throughPlugins plugins endpoints scheme env).Yields events outcome)
    (hsteady : events.all (·.isSteady accepts serves)) :
    ∃ b : Behaviour, b.accepts = accepts ∧ b.serves = serves ∧ b.Explains 0 events := by
  rw [throughPlugins] at h
  split at h
  · obtain ⟨found, rfl⟩ := exists_found_of_isSteady h hsteady
    exact ⟨listedBehaviour accepts serves (fun _ => ⟨0⟩) fun _ => found, rfl, rfl,
      explains_findContext h hsteady fun _ => rfl⟩
  · obtain ⟨providers, contexts, hlisted⟩ := exists_lists_of_throughProviders 0 h hsteady
    exact ⟨listedBehaviour accepts serves providers contexts, rfl, rfl,
      hlisted providers contexts (fun _ _ => rfl) fun _ _ => rfl⟩

end Existence

/-! ## Whole selections -/

/-- A selection begins with the plugins, and its outcome is told by what they come
to and by what the search for a URL context comes to after them. -/
theorem outcome_run_resolve {σ : Type} (host : Host σ) (plugins : Plugins)
    (endpoints : Option (List Endpoint)) (scheme : Option String) (env : Environment)
    (state : σ) :
    let asked := (throughPlugins plugins endpoints scheme env).run host state
    let run := (resolve plugins endpoints scheme env).run host state
    asked.events <+: run.events ∧
      run.outcome = match asked.outcome with
        | .error fault => .error fault
        | .ok (some context) => .ok ⟨context, false⟩
        | .ok none => withoutPlugins endpoints scheme env
            ((urlContext plugins scheme env).run host asked.state).outcome := by
  intro asked run
  have hrun : run = asked.andThen _ := Program.run_bind host _ _ state
  rw [hrun, Run.andThen]
  cases houtcome : asked.outcome with
  | error fault => exact ⟨List.prefix_rfl, rfl⟩
  | ok found =>
      refine ⟨List.prefix_append _ _, ?_⟩
      cases found with
      | some context => rfl
      | none =>
          change (((urlContext plugins scheme env).bind _).run host asked.state).outcome = _
          rw [Program.run_bind, Run.andThen]
          cases hurl : ((urlContext plugins scheme env).run host asked.state).outcome with
          | error fault => rfl
          | ok url =>
              cases url with
              | some context => rfl
              | none =>
                  dsimp only [withoutPlugins]
                  split <;> rfl

/-- When the plugins have no context, what comes after them is the search for a URL
context and nothing else that is asked. -/
theorem events_run_resolve {σ : Type} (host : Host σ) {plugins : Plugins}
    {endpoints : Option (List Endpoint)} {scheme : Option String} {env : Environment}
    {state : σ}
    (hnone : ((throughPlugins plugins endpoints scheme env).run host state).outcome = .ok none) :
    let asked := (throughPlugins plugins endpoints scheme env).run host state
    let url := (urlContext plugins scheme env).run host asked.state
    ∃ messages : List Message,
      ((resolve plugins endpoints scheme env).run host state).events =
        asked.events ++ (url.events ++ messages.map .told) := by
  intro asked url
  have hrun : (resolve plugins endpoints scheme env).run host state = asked.andThen _ :=
    Program.run_bind host _ _ state
  rw [hrun, Run.andThen, hnone]
  change ∃ messages : List Message,
    _ ++ (((urlContext plugins scheme env).bind _).run host asked.state).events = _
  rw [Program.run_bind, Run.andThen]
  rcases url.outcome with fault | _ | context
  · exact ⟨[], by rw [List.map_nil, List.append_nil]⟩
  · dsimp only
    split
    · exact ⟨[_], rfl⟩
    · exact ⟨[], rfl⟩
  · exact ⟨[_], rfl⟩

/-- When the plugins have no context for a name without a scheme, nothing more is asked,
and the empty context of the environment serves it unless an endpoint has a scheme. -/
theorem run_resolve_without_scheme {σ : Type} (host : Host σ) (plugins : Plugins)
    (endpoints : Option (List Endpoint)) (env : Environment) (state : σ)
    (hnone : ((throughPlugins plugins endpoints none env).run host state).outcome = .ok none) :
    let asked := (throughPlugins plugins endpoints none env).run host state
    let run := (resolve plugins endpoints none env).run host state
    (run.outcome = if noneHasScheme endpoints then .ok ⟨⟨.empty, env.id, none⟩, false⟩
      else .error (.noProvider none)) ∧
      ∃ messages : List Message, run.events = asked.events ++ messages.map .told := by
  intro asked run
  have houtcome := (outcome_run_resolve host plugins endpoints none env state).2
  rw [hnone] at houtcome
  refine ⟨?_, events_run_resolve host hnone⟩
  rw [houtcome]
  change withoutPlugins endpoints none env (.ok none) = _
  rw [withoutPlugins, Option.isNone_none, Bool.and_true]
  rfl

example :
    ((resolve (Scripted.Stage.empty.plugins .empty) none none ⟨7, .empty⟩).run
      Scripted.host .empty).outcome = .ok ⟨⟨.empty, 7, none⟩, false⟩ :=
  rfl

/-- When the plugins have no context for a name with a scheme, the registry of URL contexts
is asked for one, and that gets the whole name.  Nothing is asked after the registry. -/
theorem run_resolve_with_scheme {σ : Type} (host : Host σ) (plugins : Plugins)
    (endpoints : Option (List Endpoint)) (scheme : String) (env : Environment) (state : σ)
    (hnone :
      ((throughPlugins plugins endpoints (some scheme) env).run host state).outcome = .ok none) :
    let asked := (throughPlugins plugins endpoints (some scheme) env).run host state
    let found := (plugins.urlContexts.resolve scheme env).run host asked.state
    let run := (resolve plugins endpoints (some scheme) env).run host state
    (run.outcome = match found.outcome with
      | .ok (some context) => .ok ⟨context, true⟩
      | .ok none => .error (.noProvider (some scheme))
      | .error fault => .error fault) ∧
      ∃ messages : List Message,
        run.events = asked.events ++ (found.events ++ messages.map .told) := by
  intro asked found run
  have houtcome := (outcome_run_resolve host plugins endpoints (some scheme) env state).2
  rw [hnone] at houtcome
  refine ⟨?_, events_run_resolve host hnone⟩
  rw [houtcome]
  change withoutPlugins endpoints (some scheme) env found.outcome = _
  rcases found.outcome with fault | _ | context
  · rfl
  · rw [withoutPlugins, Option.isNone_some, Bool.and_false, if_neg Bool.false_ne_true]
  · rfl

example :
    let script : Scripted.ContextScript := ⟨.own "ScriptedContext", none, false, none, none, [], []⟩
    let (factory, stage) := Scripted.Stage.empty.addUrlFactory (some script)
    ((resolve (stage.plugins (UrlContext.Registry.empty.register "a" factory)) none (some "a")
      ⟨7, .empty⟩).run Scripted.host stage).outcome =
        .ok ⟨⟨.own "ScriptedContext", 7, some 0⟩, true⟩ :=
  rfl

/-- When no plugin fails and the questions to plugins are answered by fixed rules,
a selection follows the order of preference: the context that the plugins have,
then the URL context for the scheme, then an empty context, and else there is none.
Provider plugins are left alone when no endpoint has a scheme. -/
theorem resolve_eq_preference {σ : Type} (host : Host σ) (plugins : Plugins)
    (endpoints : Option (List Endpoint)) (scheme : Option String) (env : Environment)
    (state : σ) (accepts : ProviderFactory → Option String → Environment → Bool)
    (serves : ContextFactory → Option Provider → Option String → Bool)
    (hsteady : ((throughPlugins plugins endpoints scheme env).run host state).events.all
      (·.isSteady accepts serves)) :
    let asked := (throughPlugins plugins endpoints scheme env).run host state
    let run := (resolve plugins endpoints scheme env).run host state
    asked.events <+: run.events ∧
      (∃ b : Behaviour, b.accepts = accepts ∧ b.serves = serves ∧
        b.Explains 0 asked.events) ∧
      (∀ b : Behaviour, b.Explains 0 asked.events →
        run.outcome = match b.preferred plugins endpoints scheme env with
          | some context => .ok ⟨context, false⟩
          | none => withoutPlugins endpoints scheme env
              ((urlContext plugins scheme env).run host asked.state).outcome) ∧
      (noneHasScheme endpoints = true → ∀ request answer,
        .asked request answer ∈ run.events → request.party ≠ .providerPlugin) := by
  intro asked run
  have hyields := Program.yields_run host (throughPlugins plugins endpoints scheme env) state
  obtain ⟨hbegins, hrun⟩ := outcome_run_resolve host plugins endpoints scheme env state
  refine ⟨hbegins, exists_explains_of_throughPlugins hyields hsteady, ?_, ?_⟩
  · intro b hb
    have houtcome := throughPlugins_of_explains hyields hb
    rw [hrun, houtcome]
    cases b.preferred plugins endpoints scheme env <;> rfl
  · intro hnone request answer hmem
    exact (resolve_onlyAsks_of_noneHasScheme hnone).of_mem
      (Program.yields_run host _ state) hmem

/-- Two provider plugins that accept every endpoint, and a context plugin that
serves only providers of the second one. -/
def rankedPlugins : Scripted.Stage :=
  { Scripted.Stage.empty with
    providerFactories := [⟨some "first", .all, none, none⟩, ⟨some "second", .all, none, none⟩]
    contextFactories := [⟨some "cf", .all, .labelled "second",
      some ⟨.own "ScriptedContext", none, false, none, none, [], []⟩, none, none⟩] }

theorem rankedPlugins_explained :
    ∃ b : Behaviour,
      b.Explains 0 ((throughPlugins (rankedPlugins.plugins .empty)
        (some [⟨"x://h", some "x", some "h", none, ""⟩]) none ⟨0, .empty⟩).run
          Scripted.host rankedPlugins).events ∧
      b.preferred (rankedPlugins.plugins .empty)
        (some [⟨"x://h", some "x", some "h", none, ""⟩]) none ⟨0, .empty⟩ =
          some ⟨.own "ScriptedContext", 0, some 0⟩ := by
  obtain ⟨-, ⟨b, -, -, hb⟩, hpreference, -⟩ := resolve_eq_preference Scripted.host
    (rankedPlugins.plugins .empty) (some [⟨"x://h", some "x", some "h", none, ""⟩]) none
    ⟨0, .empty⟩ rankedPlugins (fun _ _ _ => true)
    (fun _ provider _ => provider == some ⟨1⟩) (by decide)
  refine ⟨b, hb, ?_⟩
  have hrun := hpreference b hb
  cases hpreferred : b.preferred (rankedPlugins.plugins .empty)
      (some [⟨"x://h", some "x", some "h", none, ""⟩]) none ⟨0, .empty⟩ with
  | none =>
      rw [hpreferred] at hrun
      exact nomatch hrun
  | some context =>
      rw [hpreferred] at hrun
      have hselection := Except.ok.inj hrun
      exact congrArg some (congrArg Selection.context hselection).symm

end Selection

end NameRouting
