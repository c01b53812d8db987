import NameRouting.Proofs.Routing.Priority

/-!
# The consent of plugins

A plugin is asked to make something only directly after it agreed to do so.  This is
a law about each event of a selection and what happened before it, so it is stated
for every event with its past, and proved turn by turn: a turn that leads nowhere
leaves neither a context nor an open provider behind, and the next one may begin.
-/

namespace NameRouting

/-! ## Laws about what happened before -/

/-- Each event obeys a law, which may look at everything that happened before. -/
def Obeys (law : List Event → Event → Prop) (past events : List Event) : Prop :=
  ∀ before event after, events = before ++ event :: after → law (past ++ before) event

section Laws

variable {law : List Event → Event → Prop} {past : List Event}

theorem obeys_nil : Obeys law past [] := by
  intro before event after heq
  simp at heq

theorem obeys_cons_iff {event : Event} {events : List Event} :
    Obeys law past (event :: events) ↔
      law past event ∧ Obeys law (past ++ [event]) events := by
  constructor
  · intro h
    have hfirst := h [] event events rfl
    rw [List.append_nil] at hfirst
    refine ⟨hfirst, ?_⟩
    rintro before later after rfl
    have hlater := h (event :: before) later after rfl
    rwa [← List.singleton_append, ← List.append_assoc] at hlater
  · rintro ⟨hfirst, hrest⟩ before later after heq
    cases before with
    | nil =>
        obtain ⟨rfl, rfl⟩ := List.cons.inj heq
        rwa [List.append_nil]
    | cons head before =>
        obtain ⟨rfl, rfl⟩ := List.cons.inj heq
        have hlater := hrest before later after rfl
        rwa [List.append_assoc, List.singleton_append] at hlater

theorem obeys_append_iff {first second : List Event} :
    Obeys law past (first ++ second) ↔
      Obeys law past first ∧ Obeys law (past ++ first) second := by
  induction first generalizing past with
  | nil => simp [obeys_nil]
  | cons event first ih =>
      rw [List.cons_append, obeys_cons_iff, obeys_cons_iff, ih, and_assoc,
        List.append_assoc, List.singleton_append]

end Laws

namespace Event

/-- A plugin is asked to make a provider or a context. -/
def isCommission : Event → Bool
  | .asked (.createProvider _ _ _) _ => true
  | .asked (.createContext _ _ _ _) _ => true
  | _ => false

/-- A provider plugin is asked whether it accepts a scheme. -/
def isQuestion : Event → Bool
  | .asked (.accepts _ _ _) _ => true
  | _ => false

end Event

namespace Selection

/-- No plugin made a context. -/
def Contextless (events : List Event) : Prop :=
  ∀ factory provider scheme env context,
    .asked (.createContext factory provider scheme env) (.ok (some context)) ∉ events

/-- Every provider that was made was closed after that. -/
def AllClosed (events : List Event) : Prop :=
  ∀ before factory endpoints env provider after,
    events = before ++ .asked (.createProvider factory endpoints env) (.ok provider) :: after →
      .asked (.closeProvider provider) (.ok ()) ∈ after

/-- What must have happened before an event.  Nobody is asked for anything after a
context was made.  A provider plugin makes a provider for the endpoints directly after
it accepted the scheme of each of them in order, and when no other provider is open.
A context plugin makes a context for a provider and a scheme directly after it agreed
to serve them. -/
def Consented (endpoints : Option (List Endpoint)) (scheme : Option String)
    (env : Environment) (past : List Event) : Event → Prop
  | .told _ => True
  | .asked request _ =>
      Contextless past ∧
        match request with
        | .createProvider factory given used =>
            endpoints = some given ∧ used = env ∧
              given.map (acceptance factory env) <:+ past ∧ AllClosed past
        | .createContext factory provider wanted used =>
            wanted = scheme ∧ used = env ∧
              [.asked (.serves factory provider scheme) (.ok true)] <:+ past
        | _ => True

/-- The questions to a provider plugin in one turn: they are about the endpoints in
order, and the first answer that is not positive is the last one. -/
def AsksInOrder (endpoints : List Endpoint) (env : Environment)
    (factory : ProviderFactory) (questions : List Event) : Prop :=
  questions = endpoints.map (acceptance factory env) ∨
    ∃ before endpoint after answer, endpoints = before ++ endpoint :: after ∧
      answer ≠ .ok true ∧
      questions = before.map (acceptance factory env) ++
        [.asked (.accepts factory endpoint.scheme env) answer]

/-- The plugins have their turns in order, and the turns may end after any of them. -/
inductive AskedInTurns (endpoints : List Endpoint) (env : Environment) :
    List ProviderFactory → List Event → Prop
  | nil (factories : List ProviderFactory) : AskedInTurns endpoints env factories []
  | turn {factory : ProviderFactory} {factories : List ProviderFactory}
      {questions rest : List Event} (hturn : AsksInOrder endpoints env factory questions)
      (hrest : AskedInTurns endpoints env factories rest) :
      AskedInTurns endpoints env (factory :: factories) (questions ++ rest)

/-! ## What is left behind -/

section Past

variable {first second events : List Event}

theorem Contextless.append (hfirst : Contextless first) (hsecond : Contextless second) :
    Contextless (first ++ second) := by
  intro factory provider scheme env context hmem
  rcases List.mem_append.mp hmem with hmem | hmem
  · exact hfirst factory provider scheme env context hmem
  · exact hsecond factory provider scheme env context hmem

theorem AllClosed.append (hfirst : AllClosed first) (hsecond : AllClosed second) :
    AllClosed (first ++ second) := by
  intro before factory endpoints env provider after heq
  rcases List.append_eq_append_iff.mp heq with ⟨middle, rfl, hafter⟩ | ⟨middle, hbefore, hafter⟩
  · exact hsecond middle factory endpoints env provider after hafter
  · cases middle with
    | nil => exact hsecond [] factory endpoints env provider after hafter.symm
    | cons event middle =>
        obtain ⟨rfl, rfl⟩ := List.cons.inj hafter
        exact List.mem_append_left _
          (hfirst before factory endpoints env provider middle hbefore)

theorem contextless_of_isCommission (hnone : ∀ event ∈ events, event.isCommission = false) :
    Contextless events := by
  intro factory provider scheme env context hmem
  exact nomatch hnone _ hmem

theorem allClosed_of_isCommission (hnone : ∀ event ∈ events, event.isCommission = false) :
    AllClosed events := by
  rintro before factory endpoints env provider after rfl
  exact nomatch hnone _ (List.mem_append_right before List.mem_cons_self)

end Past

/-! ## The parts of a selection -/

section Parts

variable {plugins : Plugins} {given : Option (List Endpoint)} {endpoints : List Endpoint}
  {scheme : Option String} {env : Environment} {past events : List Event}

/-- Where nobody is asked to make anything, only a context made before would matter. -/
theorem obeys_of_isCommission (hpast : Contextless past)
    (hnone : ∀ event ∈ events, event.isCommission = false) :
    Obeys (Consented given scheme env) past events := by
  rintro before event after rfl
  have hbefore : Contextless (past ++ before) :=
    hpast.append (contextless_of_isCommission fun event hmem =>
      hnone event (List.mem_append_left _ hmem))
  have hevent := hnone event (List.mem_append_right before List.mem_cons_self)
  cases event with
  | told message => trivial
  | asked request answer =>
      refine ⟨hbefore, ?_⟩
      cases request with
      | createProvider => exact nomatch hevent
      | createContext => exact nomatch hevent
      | _ => trivial

theorem isCommission_of_acceptsAll {factory : ProviderFactory}
    {outcome : Except Fault Bool}
    (h : (acceptsAll factory env endpoints).Yields events outcome) :
    ∀ event ∈ events, event.isCommission = false := by
  refine (acceptsAll_onlyAsks factory env endpoints).forall_mem h ?_ fun _ => rfl
  rintro _ answer ⟨scheme, rfl⟩
  rfl

theorem isCommission_of_urlContext {outcome : Except Fault (Option Context)}
    (h : (urlContext plugins scheme env).Yields events outcome) :
    ∀ event ∈ events, event.isCommission = false := by
  refine (urlContext_onlyAsks plugins scheme env).forall_mem h ?_ fun _ => rfl
  intro request answer hparty
  cases request with
  | createProvider => exact nomatch hparty
  | createContext => exact nomatch hparty
  | _ => rfl

theorem obeys_findContext {provider : Option Provider} {factories : List ContextFactory}
    {outcome : Except Fault (Option Context)}
    (h : (findContext provider scheme env factories).Yields events outcome)
    (hpast : Contextless past) : Obeys (Consented given scheme env) past events := by
  have hrefusals (factories : List ContextFactory) :
      ∀ event ∈ factories.map (refusal provider scheme), event.isCommission = false := by
    rw [List.forall_mem_map]
    exact fun _ _ => rfl
  rcases yields_findContext h with
    ⟨rfl, rfl⟩ | ⟨before, factory, after, rfl, ⟨fault, rfl, rfl⟩ | rfl⟩
  · exact obeys_of_isCommission hpast (hrefusals factories)
  · refine obeys_of_isCommission hpast ?_
    rw [List.forall_mem_append, List.forall_mem_singleton]
    exact ⟨hrefusals before, rfl⟩
  · have hbefore := hpast.append (contextless_of_isCommission (hrefusals before))
    have hserved : Contextless (past ++ before.map (refusal provider scheme) ++
        [.asked (.serves factory provider scheme) (.ok true)]) :=
      hbefore.append (contextless_of_isCommission (List.forall_mem_singleton.mpr rfl))
    rw [obeys_append_iff, obeys_cons_iff, obeys_cons_iff]
    exact ⟨obeys_of_isCommission hpast (hrefusals before), ⟨hbefore, trivial⟩,
      ⟨hserved, rfl, rfl, List.suffix_append _ _⟩, obeys_nil⟩

/-- A search without result leaves no context behind. -/
theorem contextless_of_findContext {provider : Option Provider}
    {factories : List ContextFactory}
    (h : (findContext provider scheme env factories).Yields events (.ok none)) :
    Contextless events := by
  intro factory used wanted env' context hmem
  exact nomatch (createContext_of_mem_findContext h hmem).2.2.2

/-- A provider that is closed after the search for its context leaves nothing open. -/
theorem allClosed_turn (factory : ProviderFactory) (endpoints : List Endpoint)
    {provider : Provider} {searching : List Event} {outcome : Except Fault (Option Context)}
    (h : (findContext (some provider) scheme env plugins.contexts).Yields searching outcome) :
    AllClosed (.asked (.createProvider factory endpoints env) (.ok provider) ::
      (searching ++ [.asked (.closeProvider provider) (.ok ())])) := by
  intro before other others used made after heq
  cases before with
  | nil =>
      obtain ⟨hmade, rfl⟩ := List.cons.inj heq
      cases hmade
      exact List.mem_append_right _ List.mem_cons_self
  | cons head before =>
      -- The search asks context plugins only, so no other provider is made.
      have hmem : Event.asked (.createProvider other others used) (.ok made) ∈
          searching ++ [.asked (.closeProvider provider) (.ok ())] := by
        rw [(List.cons.inj heq).2]
        exact List.mem_append_right _ List.mem_cons_self
      rcases List.mem_append.mp hmem with hmem | hmem
      · exact nomatch (findContext_onlyAsks _ _ _ _).of_mem h hmem
      · exact nomatch List.mem_singleton.mp hmem

/-- A provider plugin that accepted all endpoints is asked to make a provider. -/
theorem obeys_commission {factory : ProviderFactory} {asking rest : List Event}
    {answer : Except Fault Provider}
    (hasking : (acceptsAll factory env endpoints).Yields asking (.ok true))
    (hcontext : Contextless past) (hclosed : AllClosed past)
    (hrest : Contextless (past ++ asking ++
        [.asked (.createProvider factory endpoints env) answer]) →
      Obeys (Consented (some endpoints) scheme env) (past ++ asking ++
        [.asked (.createProvider factory endpoints env) answer]) rest) :
    Obeys (Consented (some endpoints) scheme env) past
      (asking ++ .asked (.createProvider factory endpoints env) answer :: rest) := by
  have hquiet := isCommission_of_acceptsAll hasking
  have hasked : Contextless (past ++ asking) :=
    hcontext.append (contextless_of_isCommission hquiet)
  have haccepted : endpoints.map (acceptance factory env) <:+ past ++ asking := by
    rcases yields_acceptsAll hasking with ⟨rfl, -⟩ | ⟨_, _, _, -, hne, -⟩
    · exact List.suffix_append _ _
    · exact absurd rfl hne
  have hmade : Contextless [.asked (.createProvider factory endpoints env) answer] := by
    intro _ _ _ _ _ hmem
    exact nomatch List.mem_singleton.mp hmem
  rw [obeys_append_iff, obeys_cons_iff]
  exact ⟨obeys_of_isCommission hcontext hquiet,
    ⟨hasked, rfl, rfl, haccepted, hclosed.append (allClosed_of_isCommission hquiet)⟩,
    hrest (hasked.append hmade)⟩

theorem obeys_throughProviders {factories : List ProviderFactory}
    {outcome : Except Fault (Option Context)}
    (h : (throughProviders plugins endpoints scheme env factories).Yields events outcome)
    (hcontext : Contextless past) (hclosed : AllClosed past) :
    Obeys (Consented (some endpoints) scheme env) past events := by
  induction factories generalizing past events with
  | nil =>
      obtain ⟨rfl, -⟩ := Program.yields_pure_iff.mp h
      exact obeys_nil
  | cons factory rest ih =>
      cases turn_of_yields h with
      | unanswered hasking =>
          exact obeys_of_isCommission hcontext (isCommission_of_acceptsAll hasking)
      | refused hasking hlater =>
          have hquiet := isCommission_of_acceptsAll hasking
          rw [obeys_append_iff]
          exact ⟨obeys_of_isCommission hcontext hquiet,
            ih hlater (hcontext.append (contextless_of_isCommission hquiet))
              (hclosed.append (allClosed_of_isCommission hquiet))⟩
      | unmade hasking => exact obeys_commission hasking hcontext hclosed fun _ => obeys_nil
      | decided hasking hsearching hdecided =>
          exact obeys_commission hasking hcontext hclosed (obeys_findContext hsearching)
      | unclosed hasking hsearching =>
          refine obeys_commission hasking hcontext hclosed fun hmade => ?_
          have hsearched := hmade.append (contextless_of_findContext hsearching)
          rw [obeys_append_iff, obeys_cons_iff]
          exact ⟨obeys_findContext hsearching hmade, ⟨hsearched, trivial⟩, obeys_nil⟩
      | @closed asking searching later provider _ hasking hsearching hlater =>
          refine obeys_commission hasking hcontext hclosed fun hmade => ?_
          have hsearched := hmade.append (contextless_of_findContext hsearching)
          have hclosing : Contextless [.asked (.closeProvider provider) (.ok ())] :=
            contextless_of_isCommission (List.forall_mem_singleton.mpr rfl)
          have hturn := (hclosed.append
            (allClosed_of_isCommission (isCommission_of_acceptsAll hasking))).append
              (allClosed_turn factory endpoints hsearching)
          rw [obeys_append_iff, obeys_cons_iff]
          refine ⟨obeys_findContext hsearching hmade, ⟨hsearched, trivial⟩,
            ih hlater (hsearched.append hclosing) ?_⟩
          simpa using hturn

/-- A plugin that makes a context decides what the plugins come to. -/
theorem eq_of_createContext_mem_throughProviders {factories : List ProviderFactory}
    {outcome : Except Fault (Option Context)} {factory : ContextFactory}
    {provider : Option Provider} {wanted : Option String} {used : Environment}
    {context : Context}
    (h : (throughProviders plugins endpoints scheme env factories).Yields events outcome)
    (hmem : .asked (.createContext factory provider wanted used) (.ok (some context)) ∈ events) :
    outcome = .ok (some context) := by
  induction factories generalizing events with
  | nil =>
      obtain ⟨rfl, -⟩ := Program.yields_pure_iff.mp h
      exact nomatch hmem
  | cons first rest ih =>
      have hasking {asking : List Event} {accepted : Except Fault Bool}
          (hasking : (acceptsAll first env endpoints).Yields asking accepted) :
          .asked (.createContext factory provider wanted used) (.ok (some context)) ∉ asking :=
        contextless_of_isCommission (isCommission_of_acceptsAll hasking) _ _ _ _ _
      cases turn_of_yields h with
      | unanswered hquestions => exact absurd hmem (hasking hquestions)
      | refused hquestions hlater =>
          exact ih hlater ((List.mem_append.mp hmem).resolve_left (hasking hquestions))
      | unmade hquestions => simp [hasking hquestions] at hmem
      | decided hquestions hsearching =>
          have hsearched := (List.mem_append.mp hmem).resolve_left (hasking hquestions)
          rcases List.mem_cons.mp hsearched with hmade | hsearched
          · exact nomatch hmade
          · exact (createContext_of_mem_findContext hsearching hsearched).2.2.2.symm
      | unclosed hquestions hsearching =>
          have hnone := contextless_of_findContext hsearching factory provider wanted used context
          simp [hasking hquestions, hnone] at hmem
      | closed hquestions hsearching hlater =>
          have hnone := contextless_of_findContext hsearching factory provider wanted used context
          refine ih hlater ?_
          simpa [hasking hquestions, hnone] using hmem

theorem filter_isQuestion_of_acceptsAll {factory : ProviderFactory}
    {outcome : Except Fault Bool}
    (h : (acceptsAll factory env endpoints).Yields events outcome) :
    events.filter (·.isQuestion) = events ∧ AsksInOrder endpoints env factory events := by
  have haccepted (endpoints : List Endpoint) :
      ∀ event ∈ endpoints.map (acceptance factory env), event.isQuestion = true := by
    rw [List.forall_mem_map]
    exact fun _ _ => rfl
  rw [List.filter_eq_self]
  rcases yields_acceptsAll h with ⟨rfl, -⟩ | ⟨before, endpoint, after, heq, hne, rfl⟩
  · exact ⟨haccepted endpoints, .inl rfl⟩
  · rw [List.forall_mem_append, List.forall_mem_singleton]
    exact ⟨⟨haccepted before, rfl⟩, .inr ⟨before, endpoint, after, outcome, heq, hne, rfl⟩⟩

theorem filter_isQuestion_eq_nil {α : Type} {program : Program α} {P : Request → Prop}
    {outcome : Except Fault α} (honly : program.OnlyAsks P)
    (hP : ∀ request, P request → request.party ≠ .providerPlugin)
    (h : program.Yields events outcome) : events.filter (·.isQuestion) = [] := by
  rw [List.filter_eq_nil_iff]
  refine honly.forall_mem h (fun request answer hrequest => ?_) fun _ => Bool.false_ne_true
  cases request with
  | accepts => exact absurd rfl (hP _ hrequest)
  | _ => exact Bool.false_ne_true

theorem filter_isQuestion_of_findContext {provider : Option Provider}
    {factories : List ContextFactory} {outcome : Except Fault (Option Context)}
    (h : (findContext provider scheme env factories).Yields events outcome) :
    events.filter (·.isQuestion) = [] := by
  refine filter_isQuestion_eq_nil (findContext_onlyAsks _ _ _ _) (fun request hparty => ?_) h
  rw [hparty]
  decide

theorem askedInTurns_throughProviders {factories : List ProviderFactory}
    {outcome : Except Fault (Option Context)}
    (h : (throughProviders plugins endpoints scheme env factories).Yields events outcome) :
    AskedInTurns endpoints env factories (events.filter (·.isQuestion)) := by
  induction factories generalizing events with
  | nil =>
      obtain ⟨rfl, -⟩ := Program.yields_pure_iff.mp h
      exact .nil []
  | cons factory rest ih =>
      have hturn {asking later : List Event} {accepted : Except Fault Bool}
          (hasking : (acceptsAll factory env endpoints).Yields asking accepted)
          (hlater : AskedInTurns endpoints env rest (later.filter (·.isQuestion))) :
          AskedInTurns endpoints env (factory :: rest)
            ((asking ++ later).filter (·.isQuestion)) := by
        obtain ⟨hall, horder⟩ := filter_isQuestion_of_acceptsAll hasking
        rw [List.filter_append, hall]
        exact .turn horder hlater
      cases turn_of_yields h with
      | unanswered hasking =>
          rw [← List.append_nil events]
          exact hturn hasking (.nil rest)
      | refused hasking hlater => exact hturn hasking (ih hlater)
      | unmade hasking => exact hturn hasking (.nil rest)
      | decided hasking hsearching =>
          refine hturn hasking ?_
          rw [List.filter_cons_of_neg Bool.false_ne_true,
            filter_isQuestion_of_findContext hsearching]
          exact .nil rest
      | unclosed hasking hsearching =>
          refine hturn hasking ?_
          rw [List.filter_cons_of_neg Bool.false_ne_true, List.filter_append,
            filter_isQuestion_of_findContext hsearching]
          exact .nil rest
      | closed hasking hsearching hlater =>
          refine hturn hasking ?_
          rw [List.filter_cons_of_neg Bool.false_ne_true, List.filter_append,
            filter_isQuestion_of_findContext hsearching, List.nil_append,
            List.filter_cons_of_neg Bool.false_ne_true]
          exact ih hlater

/-! ## Whole selections -/

theorem obeys_throughPlugins {outcome : Except Fault (Option Context)}
    (h : (throughPlugins plugins given scheme env).Yields events outcome) :
    Obeys (Consented given scheme env) [] events := by
  have hcontext : Contextless [] := fun _ _ _ _ _ hmem => nomatch hmem
  have hclosed : AllClosed [] := allClosed_of_isCommission fun _ hmem => nomatch hmem
  rw [throughPlugins] at h
  split at h
  · exact obeys_findContext h hcontext
  next hsome =>
    cases given with
    | none => exact absurd rfl hsome
    | some endpoints => exact obeys_throughProviders h hcontext hclosed

theorem askedInTurns_throughPlugins {outcome : Except Fault (Option Context)}
    (h : (throughPlugins plugins given scheme env).Yields events outcome) :
    AskedInTurns (given.getD []) env plugins.providers (events.filter (·.isQuestion)) := by
  rw [throughPlugins] at h
  split at h
  · rw [filter_isQuestion_of_findContext h]
    exact .nil plugins.providers
  · exact askedInTurns_throughProviders h

theorem eq_of_createContext_mem_throughPlugins {outcome : Except Fault (Option Context)}
    {factory : ContextFactory} {provider : Option Provider} {wanted : Option String}
    {used : Environment} {context : Context}
    (h : (throughPlugins plugins given scheme env).Yields events outcome)
    (hmem : .asked (.createContext factory provider wanted used) (.ok (some context)) ∈ events) :
    outcome = .ok (some context) := by
  rw [throughPlugins] at h
  split at h
  · exact (createContext_of_mem_findContext h hmem).2.2.2.symm
  · exact eq_of_createContext_mem_throughProviders h hmem

theorem contextless_of_throughPlugins
    (h : (throughPlugins plugins given scheme env).Yields events (.ok none)) :
    Contextless events := by
  intro factory provider wanted used context hmem
  exact nomatch eq_of_createContext_mem_throughPlugins h hmem

end Parts

/-- Plugins are asked to make only what they just agreed to make, whatever they answer
and however they fail.  A provider plugin is no longer questioned in its turn after
its first refusal.  A provider is made when every other one was closed.  A context
that a plugin makes is the one that is selected, and nobody is asked for anything
after it. -/
theorem resolve_consented {σ : Type} (host : Host σ) (plugins : Plugins)
    (endpoints : Option (List Endpoint)) (scheme : Option String) (env : Environment)
    (state : σ) :
    let run := (resolve plugins endpoints scheme env).run host state
    Obeys (Consented endpoints scheme env) [] run.events ∧
      AskedInTurns (endpoints.getD []) env plugins.providers
        (run.events.filter (·.isQuestion)) ∧
      ∀ factory provider wanted used context,
        .asked (.createContext factory provider wanted used) (.ok (some context)) ∈
            run.events →
          run.outcome = .ok ⟨context, false⟩ := by
  intro run
  rcases yields_resolve (Program.yields_run host _ state) with
    ⟨fault, houtcome, hplugins⟩ |
    ⟨context, before, message, houtcome, hevents, hplugins⟩ |
    ⟨found, before, searching, messages, houtcome, hevents, hplugins, hurl⟩
  · refine ⟨obeys_throughPlugins hplugins, askedInTurns_throughPlugins hplugins, ?_⟩
    intro _ _ _ _ context hmem
    exact nomatch eq_of_createContext_mem_throughPlugins hplugins hmem
  · change run.outcome = _ at houtcome
    change run.events = _ at hevents
    rw [houtcome, hevents, obeys_append_iff, obeys_cons_iff, List.filter_append,
      List.filter_cons_of_neg Bool.false_ne_true, List.filter_nil, List.append_nil]
    refine ⟨⟨obeys_throughPlugins hplugins, trivial, obeys_nil⟩,
      askedInTurns_throughPlugins hplugins, ?_⟩
    intro _ _ _ _ made hmem
    rcases List.mem_append.mp hmem with hmem | hmem
    · cases eq_of_createContext_mem_throughPlugins hplugins hmem
      rfl
    · exact nomatch List.mem_singleton.mp hmem
  · change run.outcome = _ at houtcome
    change run.events = _ at hevents
    have hnone := contextless_of_throughPlugins hplugins
    have hquiet : ∀ event ∈ searching ++ messages.map .told, event.isCommission = false := by
      rw [List.forall_mem_append, List.forall_mem_map]
      exact ⟨isCommission_of_urlContext hurl, fun _ _ => rfl⟩
    have hsearching : searching.filter (·.isQuestion) = [] := by
      refine filter_isQuestion_eq_nil (urlContext_onlyAsks plugins scheme env)
        (fun request hparty => ?_) hurl
      rw [hparty]
      decide
    have hmessages : (messages.map Event.told).filter (·.isQuestion) = [] := by
      rw [List.filter_eq_nil_iff, List.forall_mem_map]
      exact fun _ _ => Bool.false_ne_true
    rw [hevents, obeys_append_iff, List.filter_append, List.filter_append, hsearching,
      hmessages, List.append_nil, List.append_nil]
    refine ⟨⟨obeys_throughPlugins hplugins, obeys_of_isCommission hnone hquiet⟩,
      askedInTurns_throughPlugins hplugins, ?_⟩
    intro factory provider wanted used context hmem
    rcases List.mem_append.mp hmem with hmem | hmem
    · exact absurd hmem (hnone factory provider wanted used context)
    · exact nomatch hquiet _ hmem

/-- The first provider is closed before the second one is made, for which there is a
context. -/
theorem rankedPlugins_consented :
    let run := (resolve (rankedPlugins.plugins .empty)
      (some [⟨"x://h", some "x", some "h", none, ""⟩]) none ⟨0, .empty⟩).run
        Scripted.host rankedPlugins
    AllClosed (run.events.take 5) ∧
      run.outcome = .ok ⟨⟨.own "ScriptedContext", 0, some 0⟩, false⟩ := by
  intro run
  obtain ⟨hobeys, -, hselects⟩ := resolve_consented Scripted.host
    (rankedPlugins.plugins .empty) (some [⟨"x://h", some "x", some "h", none, ""⟩]) none
    ⟨0, .empty⟩ rankedPlugins
  have hmade : run.events[7]? = some (.asked
      (.createContext ⟨0⟩ (some ⟨1⟩) none ⟨0, .empty⟩)
      (.ok (some ⟨.own "ScriptedContext", 0, some 0⟩))) := rfl
  exact ⟨(hobeys (run.events.take 5) _ (run.events.drop 6) rfl).2.2.2.2,
    hselects _ _ _ _ _ (List.mem_of_getElem? hmade)⟩

end Selection

end NameRouting
