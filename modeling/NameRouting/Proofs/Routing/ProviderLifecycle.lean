import NameRouting.Proofs.Routing.Party
import NameRouting.Proofs.Routing.Turn
import NameRouting.Scripted.Stage

/-!
# What becomes of the providers of a selection

A selection may make one provider for each provider plugin.  Each of them is
closed again before the next plugin has its turn, unless its turn is the last
one.  The provider of the last turn is handed over with the context that was made
for it; but when a context plugin fails in that turn, nobody closes the provider.
The main statement says that this is the only way in which a provider is left
open.
-/

namespace NameRouting

namespace Event

/-- A plugin makes a provider. -/
def makes (provider : Provider) : Event → Bool
  | .asked (.createProvider _ _ _) (.ok made) => made == provider
  | _ => false

/-- A provider is asked to close. -/
def closes (provider : Provider) : Event → Bool
  | .asked (.closeProvider closed) _ => closed == provider
  | _ => false

/-- A context plugin makes a context for a provider. -/
def gives (provider : Provider) (context : Context) : Event → Bool
  | .asked (.createContext _ used _ _) (.ok made) =>
      used == some provider && made == some context
  | _ => false

/-- A context plugin fails when it is asked about a provider or asked to make a
context for it. -/
def failsFor (provider : Provider) : Event → Bool
  | .asked (.serves _ used _) (.error _) => used == some provider
  | .asked (.createContext _ used _ _) (.error _) => used == some provider
  | _ => false

end Event

/-- How often a provider is made. -/
def creations (provider : Provider) (events : List Event) : Nat :=
  events.countP (·.makes provider)

/-- How often a provider is asked to close. -/
def closings (provider : Provider) (events : List Event) : Nat :=
  events.countP (·.closes provider)

theorem creations_cons (provider : Provider) (event : Event) (events : List Event) :
    creations provider (event :: events) =
      creations provider events + if event.makes provider then 1 else 0 :=
  List.countP_cons

theorem creations_append (provider : Provider) (before after : List Event) :
    creations provider (before ++ after) =
      creations provider before + creations provider after :=
  List.countP_append

theorem closings_cons (provider : Provider) (event : Event) (events : List Event) :
    closings provider (event :: events) =
      closings provider events + if event.closes provider then 1 else 0 :=
  List.countP_cons

theorem closings_append (provider : Provider) (before after : List Event) :
    closings provider (before ++ after) =
      closings provider before + closings provider after :=
  List.countP_append

namespace Run

variable {σ : Type}

/-- The selected context is one that was made for the provider. -/
def HandsOver (run : Run σ Selection) (provider : Provider) : Prop :=
  ∃ selection, run.outcome = .ok selection ∧
    run.events.any (·.gives provider selection.context)

/-- A provider is closed once for each time that it was made, apart from the one
time for which it is handed over.  So one that was made once is either handed over
and never closed, or closed exactly once. -/
def Settles (run : Run σ Selection) (provider : Provider) : Prop :=
  (run.HandsOver provider ∧
      closings provider run.events + 1 = creations provider run.events) ∨
    (¬ run.HandsOver provider ∧
      closings provider run.events = creations provider run.events)

end Run

namespace Selection

/-! ## The balance of a search -/

/-- The balance of a search for a context: at most one provider is left open, and
only when the search ends with a context for it or with the failure of a context
plugin that was asked about it. -/
structure Balance (events : List Event) (outcome : Except Fault (Option Context))
    (left : Option Provider) : Prop where
  creations_eq : ∀ provider, creations provider events =
    closings provider events + if left = some provider then 1 else 0
  failsFor_iff : ∀ provider, events.any (·.failsFor provider) ↔
    left = some provider ∧ ∃ fault, outcome = .error fault
  gives_iff : ∀ provider context, events.any (·.gives provider context) ↔
    left = some provider ∧ outcome = .ok (some context)
  left_eq_none : outcome = .ok none → left = none

/-- What is even by itself can be put in front. -/
theorem Balance.append {before events : List Event}
    {outcome : Except Fault (Option Context)} {left : Option Provider}
    (hbefore : Balance before (.ok none) none)
    (hevents : Balance events outcome left) :
    Balance (before ++ events) outcome left where
  creations_eq := by
    intro provider
    have hfirst := hbefore.creations_eq provider
    have hrest := hevents.creations_eq provider
    simp only [reduceCtorEq, if_false] at hfirst
    rw [creations_append, closings_append]
    omega
  failsFor_iff := by
    intro provider
    have hfirst := hbefore.failsFor_iff provider
    simp only [reduceCtorEq, false_and, iff_false] at hfirst
    rw [List.any_append, Bool.or_eq_true, hevents.failsFor_iff]
    exact or_iff_right hfirst
  gives_iff := by
    intro provider context
    have hfirst := hbefore.gives_iff provider context
    simp only [reduceCtorEq, false_and, iff_false] at hfirst
    rw [List.any_append, Bool.or_eq_true, hevents.gives_iff]
    exact or_iff_right hfirst
  left_eq_none := hevents.left_eq_none

/-- An event that has nothing to do with any provider. -/
structure Quiet (event : Event) : Prop where
  makes : ∀ provider, event.makes provider = false
  closes : ∀ provider, event.closes provider = false
  failsFor : ∀ provider, event.failsFor provider = false
  gives : ∀ provider context, event.gives provider context = false

/-- What has nothing to do with providers can be added at the end. -/
theorem Balance.append_quiet {events after : List Event}
    {outcome : Except Fault (Option Context)} {left : Option Provider}
    (h : Balance events outcome left) (hquiet : ∀ event ∈ after, Quiet event) :
    Balance (events ++ after) outcome left where
  creations_eq := by
    intro provider
    have hmakes : creations provider after = 0 :=
      List.countP_eq_zero.mpr fun event hevent => by
        simp [(hquiet event hevent).makes]
    have hcloses : closings provider after = 0 :=
      List.countP_eq_zero.mpr fun event hevent => by
        simp [(hquiet event hevent).closes]
    rw [creations_append, closings_append, hmakes, hcloses]
    exact h.creations_eq provider
  failsFor_iff := by
    intro provider
    have hafter : after.any (·.failsFor provider) = false :=
      List.any_eq_false.mpr fun event hevent => by
        simp [(hquiet event hevent).failsFor]
    rw [List.any_append, hafter, Bool.or_false]
    exact h.failsFor_iff provider
  gives_iff := by
    intro provider context
    have hafter : after.any (·.gives provider context) = false :=
      List.any_eq_false.mpr fun event hevent => by
        simp [(hquiet event hevent).gives]
    rw [List.any_append, hafter, Bool.or_false]
    exact h.gives_iff provider context
  left_eq_none := h.left_eq_none

theorem balance_nil (outcome : Except Fault (Option Context)) :
    Balance [] outcome none where
  creations_eq := fun _ => rfl
  failsFor_iff := by simp
  gives_iff := by simp
  left_eq_none := fun _ => rfl

theorem quiet_told (message : Message) : Quiet (.told message) :=
  ⟨fun _ => rfl, fun _ => rfl, fun _ => rfl, fun _ _ => rfl⟩

theorem quiet_accepts (factory : ProviderFactory) (scheme : Option String)
    (env : Environment) (answer : Except Fault Bool) :
    Quiet (.asked (.accepts factory scheme env) answer) :=
  ⟨fun _ => rfl, fun _ => rfl, fun _ => rfl, fun _ _ => rfl⟩

theorem quiet_of_urlPlugin {request : Request} (hparty : request.party = .urlPlugin)
    (answer : Except Fault request.Answer) : Quiet (.asked request answer) := by
  cases request with
  | urlContext => exact ⟨fun _ => rfl, fun _ => rfl, fun _ => rfl, fun _ _ => rfl⟩
  | importModule => exact ⟨fun _ => rfl, fun _ => rfl, fun _ => rfl, fun _ _ => rfl⟩
  | _ => exact Party.noConfusion hparty

theorem balance_of_quiet {events : List Event}
    (outcome : Except Fault (Option Context))
    (hquiet : ∀ event ∈ events, Quiet event) : Balance events outcome none :=
  (balance_nil outcome).append_quiet hquiet

theorem quiet_urlContext {plugins : Plugins} {scheme : Option String}
    {env : Environment} {events : List Event} {outcome : Except Fault (Option Context)}
    (h : (urlContext plugins scheme env).Yields events outcome) :
    ∀ event ∈ events, Quiet event :=
  (urlContext_onlyAsks plugins scheme env).forall_mem h
    (fun _ answer hparty => quiet_of_urlPlugin hparty answer) quiet_told

theorem balance_of_acceptsAll {factory : ProviderFactory} {env : Environment}
    {endpoints : List Endpoint} {events : List Event} {accepted : Except Fault Bool}
    (outcome : Except Fault (Option Context))
    (h : (acceptsAll factory env endpoints).Yields events accepted) :
    Balance events outcome none := by
  refine balance_of_quiet outcome ?_
  refine (acceptsAll_onlyAsks factory env endpoints).forall_mem h ?_ quiet_told
  rintro _ answer ⟨scheme, rfl⟩
  exact quiet_accepts factory scheme env answer

/-! ## Searches among context plugins -/

section Search

variable {provider : Option Provider} {scheme : Option String} {env : Environment}
  {factories : List ContextFactory} {events : List Event}
  {outcome : Except Fault (Option Context)}

theorem any_refusal (factories : List ContextFactory) (provider : Option Provider)
    (scheme : Option String) (test : Event → Bool)
    (htest : ∀ factory, test (refusal provider scheme factory) = false) :
    (factories.map (refusal provider scheme)).any test = false := by
  simp [List.any_eq_false, htest]

/-- The search makes no provider and closes none. -/
theorem counts_findContext
    (h : (findContext provider scheme env factories).Yields events outcome)
    (used : Provider) : creations used events = 0 ∧ closings used events = 0 := by
  have honly := findContext_onlyAsks provider scheme env factories
  have hmakes : ∀ event ∈ events, ¬ event.makes used = true := by
    refine honly.forall_mem h (fun request answer hparty => ?_) (by simp [Event.makes])
    cases request <;> simp_all [Request.party, Event.makes]
  have hcloses : ∀ event ∈ events, ¬ event.closes used = true := by
    refine honly.forall_mem h (fun request answer hparty => ?_) (by simp [Event.closes])
    cases request <;> simp_all [Request.party, Event.closes]
  exact ⟨List.countP_eq_zero.mpr hmakes, List.countP_eq_zero.mpr hcloses⟩

theorem failsFor_findContext_iff
    (h : (findContext provider scheme env factories).Yields events outcome)
    (used : Provider) :
    events.any (·.failsFor used) ↔
      provider = some used ∧ ∃ fault, outcome = .error fault := by
  have hrefusals (factories : List ContextFactory) :=
    any_refusal factories provider scheme (·.failsFor used) fun _ => rfl
  rcases yields_findContext h with
    ⟨rfl, rfl⟩ | ⟨before, factory, after, rfl, ⟨fault, rfl, rfl⟩ | rfl⟩
  · rw [hrefusals]
    simp
  · rw [List.any_append, hrefusals]
    simp [Event.failsFor]
  · rw [List.any_append, hrefusals]
    cases outcome <;> simp [Event.failsFor]

theorem gives_findContext_iff
    (h : (findContext provider scheme env factories).Yields events outcome)
    (used : Provider) (context : Context) :
    events.any (·.gives used context) ↔
      provider = some used ∧ outcome = .ok (some context) := by
  have hrefusals (factories : List ContextFactory) :=
    any_refusal factories provider scheme (·.gives used context) fun _ => rfl
  rcases yields_findContext h with
    ⟨rfl, rfl⟩ | ⟨before, factory, after, rfl, ⟨fault, rfl, rfl⟩ | rfl⟩
  · rw [hrefusals]
    simp
  · rw [List.any_append, hrefusals]
    simp [Event.gives]
  · rw [List.any_append, hrefusals]
    cases outcome <;> simp [Event.gives]

/-- Without a provider, the search is even. -/
theorem balance_of_findContext_none
    (h : (findContext none scheme env factories).Yields events outcome) :
    Balance events outcome none where
  creations_eq := by
    intro used
    simp [counts_findContext h used]
  failsFor_iff := failsFor_findContext_iff h
  gives_iff := gives_findContext_iff h
  left_eq_none := fun _ => rfl

variable {factory : ProviderFactory} {endpoints : List Endpoint} {made : Provider}

/-- A provider whose search ends the turns is left open. -/
theorem balance_of_decided
    (h : (findContext (some made) scheme env factories).Yields events outcome)
    (hdecided : outcome ≠ .ok none) :
    Balance (.asked (.createProvider factory endpoints env) (.ok made) :: events)
      outcome (some made) where
  creations_eq := by
    intro used
    obtain ⟨hmakes, hcloses⟩ := counts_findContext h used
    rw [creations_cons, closings_cons, hmakes, hcloses]
    simp [Event.makes, Event.closes]
  failsFor_iff := by
    intro used
    rw [← failsFor_findContext_iff h used]
    rfl
  gives_iff := by
    intro used context
    rw [← gives_findContext_iff h used context]
    rfl
  left_eq_none := fun hnone => absurd hnone hdecided

/-- A provider without a context is closed at once. -/
theorem balance_of_closed
    (h : (findContext (some made) scheme env factories).Yields events (.ok none)) :
    Balance
      (.asked (.createProvider factory endpoints env) (.ok made) ::
        (events ++ [.asked (.closeProvider made) (.ok ())]))
      (.ok none) none where
  creations_eq := by
    intro used
    obtain ⟨hmakes, hcloses⟩ := counts_findContext h used
    rw [creations_cons, closings_cons, creations_append, closings_append, hmakes,
      hcloses, creations_cons, closings_cons]
    simp [Event.makes, Event.closes, creations, closings]
  failsFor_iff := by
    intro used
    have hfails := failsFor_findContext_iff h used
    rw [List.any_cons, List.any_append, Bool.or_eq_true, Bool.or_eq_true, hfails]
    simp [Event.failsFor]
  gives_iff := by
    intro used context
    have hgives := gives_findContext_iff h used context
    rw [List.any_cons, List.any_append, Bool.or_eq_true, Bool.or_eq_true, hgives]
    simp [Event.gives]
  left_eq_none := fun _ => rfl

end Search

/-! ## Whole selections -/

/-- Every provider that is asked to close does so. -/
def ClosesWell (events : List Event) : Prop :=
  ∀ provider fault, .asked (.closeProvider provider) (.error fault) ∉ events

theorem ClosesWell.of_suffix {before events : List Event}
    (h : ClosesWell (before ++ events)) : ClosesWell events :=
  fun provider fault hmem => h provider fault (List.mem_append_right before hmem)

theorem ClosesWell.of_prefix {events after : List Event}
    (h : ClosesWell (events ++ after)) : ClosesWell events :=
  fun provider fault hmem => h provider fault (List.mem_append_left after hmem)

/-- The turns of provider plugins are balanced. -/
theorem exists_balance_of_throughProviders {plugins : Plugins}
    {endpoints : List Endpoint} {scheme : Option String} {env : Environment}
    {factories : List ProviderFactory} {events : List Event}
    {outcome : Except Fault (Option Context)}
    (h : (throughProviders plugins endpoints scheme env factories).Yields
      events outcome)
    (hclose : ClosesWell events) : ∃ left, Balance events outcome left := by
  induction factories generalizing events with
  | nil =>
      obtain ⟨rfl, rfl⟩ := Program.yields_pure_iff.mp h
      exact ⟨none, balance_nil _⟩
  | cons factory rest ih =>
      cases turn_of_yields h with
      | unanswered hasking => exact ⟨none, balance_of_acceptsAll _ hasking⟩
      | refused hasking hlater =>
          obtain ⟨left, hleft⟩ := ih hlater hclose.of_suffix
          exact ⟨left, (balance_of_acceptsAll _ hasking).append hleft⟩
      | @unmade asking fault hasking =>
          have hfailed : Balance
              [.asked (.createProvider factory endpoints env) (.error fault)]
              (.error fault) none :=
            balance_of_quiet _ fun _ hevent => by
              obtain rfl := List.mem_singleton.mp hevent
              exact ⟨fun _ => rfl, fun _ => rfl, fun _ => rfl, fun _ _ => rfl⟩
          exact ⟨none, (balance_of_acceptsAll _ hasking).append hfailed⟩
      | decided hasking hsearching hdecided =>
          exact ⟨_, (balance_of_acceptsAll _ hasking).append
            (balance_of_decided hsearching hdecided)⟩
      | @unclosed asking searching provider fault hasking hsearching =>
          exact absurd (by simp) (hclose provider fault)
      | @closed asking searching later provider _ hasking hsearching hlater =>
          have hturn : asking ++
                .asked (.createProvider factory endpoints env) (.ok provider) ::
                  (searching ++ .asked (.closeProvider provider) (.ok ()) :: later) =
              asking ++ (.asked (.createProvider factory endpoints env) (.ok provider) ::
                (searching ++ [.asked (.closeProvider provider) (.ok ())])) ++
                  later := by simp
          rw [hturn] at hclose ⊢
          obtain ⟨left, hleft⟩ := ih hlater hclose.of_suffix
          exact ⟨left, ((balance_of_acceptsAll _ hasking).append
            (balance_of_closed hsearching)).append hleft⟩

theorem exists_balance_of_throughPlugins {plugins : Plugins}
    {endpoints : Option (List Endpoint)} {scheme : Option String} {env : Environment}
    {events : List Event} {outcome : Except Fault (Option Context)}
    (h : (throughPlugins plugins endpoints scheme env).Yields events outcome)
    (hclose : ClosesWell events) : ∃ left, Balance events outcome left := by
  rw [throughPlugins] at h
  split at h
  · exact ⟨none, balance_of_findContext_none h⟩
  · exact exists_balance_of_throughProviders h hclose

/-- Unless no provider is left open, a selection ends with what the plugins came
to. -/
def EndsWith (left : Option Provider) (found : Except Fault (Option Context))
    (outcome : Except Fault Selection) : Prop :=
  left = none ∨ (∃ fault, found = .error fault ∧ outcome = .error fault) ∨
    ∃ context, found = .ok (some context) ∧ outcome = .ok ⟨context, false⟩

theorem exists_balance_of_resolve {plugins : Plugins}
    {endpoints : Option (List Endpoint)} {scheme : Option String} {env : Environment}
    {events : List Event} {outcome : Except Fault Selection}
    (h : (resolve plugins endpoints scheme env).Yields events outcome)
    (hclose : ClosesWell events) :
    ∃ found left, Balance events found left ∧ EndsWith left found outcome := by
  rcases yields_resolve h with ⟨fault, rfl, hplugins⟩ |
    ⟨context, before, message, rfl, rfl, hplugins⟩ |
    ⟨found, before, searching, messages, rfl, rfl, hplugins, hurl⟩
  · obtain ⟨left, hleft⟩ := exists_balance_of_throughPlugins hplugins hclose
    exact ⟨_, left, hleft, .inr (.inl ⟨fault, rfl, rfl⟩)⟩
  · obtain ⟨left, hleft⟩ := exists_balance_of_throughPlugins hplugins hclose.of_prefix
    refine ⟨_, left, hleft.append_quiet ?_, .inr (.inr ⟨context, rfl, rfl⟩)⟩
    intro event hevent
    obtain rfl := List.mem_singleton.mp hevent
    exact quiet_told message
  · obtain ⟨left, hleft⟩ := exists_balance_of_throughPlugins hplugins hclose.of_prefix
    refine ⟨_, left, hleft.append_quiet ?_, .inl (hleft.left_eq_none rfl)⟩
    intro event hevent
    rcases List.mem_append.mp hevent with hevent | hevent
    · exact quiet_urlContext hurl event hevent
    · obtain ⟨message, -, rfl⟩ := List.mem_map.mp hevent
      exact quiet_told message

section Balanced

variable {σ : Type} {run : Run σ Selection} {left : Option Provider}
  {found : Except Fault (Option Context)} {provider : Provider}

theorem handsOver_iff (hbalance : Balance run.events found left)
    (hend : EndsWith left found run.outcome) :
    run.HandsOver provider ↔
      left = some provider ∧ ∃ context, found = .ok (some context) := by
  constructor
  · rintro ⟨selection, -, hgives⟩
    obtain ⟨hleft, hfound⟩ := (hbalance.gives_iff _ _).mp hgives
    exact ⟨hleft, selection.context, hfound⟩
  · rintro ⟨rfl, context, rfl⟩
    rcases hend with hnone | ⟨fault, hfault, -⟩ | ⟨other, hother, houtcome⟩
    · exact nomatch hnone
    · exact nomatch hfault
    · exact ⟨_, houtcome, (hbalance.gives_iff _ _).mpr ⟨rfl, hother⟩⟩

theorem settles_of_balance (hbalance : Balance run.events found left)
    (hend : EndsWith left found run.outcome)
    (hfails : run.events.any (·.failsFor provider) = false) :
    run.Settles provider := by
  have hcounts := hbalance.creations_eq provider
  have hfault := fun hleft => Bool.eq_false_iff.mp hfails
    ((hbalance.failsFor_iff provider).mpr hleft)
  by_cases hleft : left = some provider
  · rw [if_pos hleft] at hcounts
    refine .inl ⟨(handsOver_iff hbalance hend).mpr ⟨hleft, ?_⟩, hcounts.symm⟩
    cases found with
    | error fault => exact absurd ⟨hleft, fault, rfl⟩ hfault
    | ok result =>
        cases result with
        | none => exact nomatch hleft.symm.trans (hbalance.left_eq_none rfl)
        | some context => exact ⟨context, rfl⟩
  · rw [if_neg hleft] at hcounts
    exact .inr ⟨fun hover => hleft ((handsOver_iff hbalance hend).mp hover).1,
      hcounts.symm⟩

/-- After the failure of a context plugin, its provider is left open. -/
theorem leaves_of_balance (provider : Provider)
    (hbalance : Balance run.events found left)
    (hend : EndsWith left found run.outcome)
    (hfails : run.events.any (·.failsFor provider) = true) :
    (∃ fault, run.outcome = .error fault) ∧
      closings provider run.events + 1 = creations provider run.events := by
  have hcounts := hbalance.creations_eq provider
  obtain ⟨rfl, fault, rfl⟩ := (hbalance.failsFor_iff provider).mp hfails
  rw [if_pos rfl] at hcounts
  rcases hend with hnone | ⟨_, -, houtcome⟩ | ⟨context, hok, -⟩
  · exact nomatch hnone
  · exact ⟨⟨_, houtcome⟩, hcounts.symm⟩
  · exact nomatch hok

end Balanced

/-- A selection closes every provider that it does not hand over, unless a context
plugin fails when it is asked about the provider or asked to make a context for
it.  In that case the selection fails, and the provider stays open. -/
theorem settles_iff_not_failsFor {σ : Type} (host : Host σ) (plugins : Plugins)
    (endpoints : Option (List Endpoint)) (scheme : Option String)
    (env : Environment) (state : σ) (provider : Provider)
    (hclose : ClosesWell ((resolve plugins endpoints scheme env).run host state).events) :
    let run := (resolve plugins endpoints scheme env).run host state
    (run.Settles provider ↔ run.events.any (·.failsFor provider) = false) ∧
      (run.events.any (·.failsFor provider) = true →
        (∃ fault, run.outcome = .error fault) ∧
          closings provider run.events + 1 = creations provider run.events) := by
  intro run
  obtain ⟨found, left, hbalance, hend⟩ :=
    exists_balance_of_resolve (Program.yields_run host _ state) hclose
  have hleaves := leaves_of_balance provider hbalance hend
  refine ⟨⟨fun hsettles => Bool.eq_false_iff.mpr fun hfails => ?_,
    settles_of_balance hbalance hend⟩, hleaves⟩
  obtain ⟨⟨fault, hfault⟩, hcounts⟩ := hleaves hfails
  rcases hsettles with ⟨⟨selection, hok, -⟩, -⟩ | ⟨-, heven⟩
  · exact nomatch hfault.symm.trans hok
  · exact absurd (hcounts.trans heven.symm) (Nat.succ_ne_self _)

theorem closesWell_run {σ α : Type} {host : Host σ} (program : Program α) (state : σ)
    (hhost : ∀ provider state, (host.answer (.closeProvider provider) state).1 = .ok ()) :
    ClosesWell (program.run host state).events := by
  intro provider fault hmem
  obtain ⟨state', hanswer⟩ := Program.answer_of_mem_run hmem
  exact nomatch hanswer.trans (hhost provider state')

/-- A provider plugin that accepts every endpoint, and a context plugin that may
fail when it is asked. -/
def twoPlugins (fault : Option Fault) : Scripted.Stage :=
  { Scripted.Stage.empty with
    providerFactories := [⟨some "pf", .all, none, none⟩]
    contextFactories := [⟨some "cf", .all, .any,
      some ⟨.own "ScriptedContext", none, false, none, none, [], []⟩, fault, none⟩] }

/-- The selection for the scheme `ejb` and one endpoint among two plugins. -/
def amongTwoPlugins (fault : Option Fault) : Run Scripted.Stage Selection :=
  (resolve ((twoPlugins fault).plugins .empty)
    (some [⟨"x://h", some "x", some "h", none, ""⟩]) (some "ejb") ⟨0, .empty⟩).run
      Scripted.host (twoPlugins fault)

theorem amongTwoPlugins_settles : (amongTwoPlugins none).Settles ⟨0⟩ :=
  (settles_iff_not_failsFor Scripted.host _ _ _ _ _ ⟨0⟩
    (closesWell_run _ _ fun _ _ => rfl)).1.mpr (by decide)

theorem amongTwoPlugins_leaves :
    ClosesWell (amongTwoPlugins (some (.raised "RuntimeError" "boom"))).events ∧
      creations ⟨0⟩ (amongTwoPlugins (some (.raised "RuntimeError" "boom"))).events = 1 ∧
      ¬ (amongTwoPlugins (some (.raised "RuntimeError" "boom"))).Settles ⟨0⟩ := by
  refine ⟨closesWell_run _ _ fun _ _ => rfl, by decide, ?_⟩
  rintro (⟨⟨selection, hok, -⟩, -⟩ | ⟨-, heven⟩)
  · exact nomatch hok
  · exact absurd heven (by decide)

end Selection

end NameRouting
