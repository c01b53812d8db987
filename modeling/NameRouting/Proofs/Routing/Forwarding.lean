import NameRouting.Proofs.Enumeration.Delivery
import NameRouting.Proofs.Name.Split
import NameRouting.Proofs.Routing.Party
import NameRouting.Routing.Session
import NameRouting.Scripted.Stage

/-!
# Forwarding of operations

A routing context does the same for every operation: it selects one context, for
the scheme of the name and the endpoints of its environment, and hands the
operation on to that context, once.  What it hands on is the operation as it was
given or the operation on residual names, as the selection says.  Only the lookup
of a name that means the routing context itself is served without a selection.
-/

namespace NameRouting

/-! ## What is handed on -/

namespace Operation

/-- The scheme that decides about an operation, and the operation on the residual
names. -/
def split : Operation → Except Fault (Option String × Operation)
  | .on verb name => do
      let split := (← name.resolve).split
      return (split.scheme, .on verb (.composite split.residual))
  | .rename old new => do
      let split := (← old.resolve).split
      let target := (← new.resolve).split
      return (split.scheme,
        .rename (.composite split.residual) (.composite target.residual))

/-- A lookup of the empty name or of the name that is a lone colon. -/
def seeksItself : Operation → Bool
  | .on .lookup name =>
      match name.resolve with
      | .ok name => name.components == [] || name.components == [":"]
      | .error _ => false
  | _ => false

theorem resolve_of_split_on {verb : Verb} {name : GivenName} {scheme : Option String}
    {residual : Operation} (h : (Operation.on verb name).split = .ok (scheme, residual)) :
    ∃ parsed, name.resolve = .ok parsed ∧ scheme = parsed.split.scheme ∧
      residual = .on verb (.composite parsed.split.residual) := by
  cases hname : name.resolve with
  | error fault =>
      rw [Operation.split, hname] at h
      cases h
  | ok parsed =>
      rw [Operation.split, hname] at h
      obtain ⟨hscheme, hresidual⟩ := Prod.mk.inj (Except.ok.inj h)
      exact ⟨parsed, rfl, hscheme.symm, hresidual.symm⟩

theorem resolve_of_split_rename {old new : GivenName} {scheme : Option String}
    {residual : Operation} (h : (Operation.rename old new).split = .ok (scheme, residual)) :
    ∃ oldName newName, old.resolve = .ok oldName ∧ new.resolve = .ok newName ∧
      scheme = oldName.split.scheme ∧
      residual = .rename (.composite oldName.split.residual)
        (.composite newName.split.residual) := by
  cases hold : old.resolve with
  | error fault =>
      rw [Operation.split, hold] at h
      cases h
  | ok oldName =>
      cases hnew : new.resolve with
      | error fault =>
          rw [Operation.split, hold, hnew] at h
          cases h
      | ok newName =>
          rw [Operation.split, hold, hnew] at h
          obtain ⟨hscheme, hresidual⟩ := Prod.mk.inj (Except.ok.inj h)
          exact ⟨oldName, newName, rfl, rfl, hscheme.symm, hresidual.symm⟩

end Operation

/-- What a context is asked to carry out, if an event is such a request. -/
def Event.call? : Event → Option (Context × Operation)
  | .asked (.perform context operation) _ => some (context, operation)
  | _ => none

/-- The operations that contexts are asked to carry out, in order. -/
def calls (events : List Event) : List (Context × Operation) :=
  events.filterMap (·.call?)

theorem calls_append (before after : List Event) :
    calls (before ++ after) = calls before ++ calls after :=
  List.filterMap_append

theorem calls_told (message : Message) (events : List Event) :
    calls (.told message :: events) = calls events :=
  rfl

/-- A program that asks no context to do anything makes no calls. -/
theorem calls_eq_nil {α : Type} {program : Program α} {events : List Event}
    {outcome : Except Fault α} (honly : program.OnlyAsks (·.party ≠ .context))
    (h : program.Yields events outcome) : calls events = [] := by
  have hnone : ∀ event ∈ events, event.call? = none := by
    refine honly.forall_mem h (fun request answer hparty => ?_) fun _ => rfl
    cases request with
    | perform context operation => exact absurd rfl hparty
    | _ => rfl
  exact List.filterMap_eq_nil_iff.mpr hnone

/-- A context that a plugin defines is called; the library's own contexts carry out
operations themselves. -/
def Context.callsFor (context : Context) (operation : Operation) :
    List (Context × Operation) :=
  match context.kind with
  | .own _ => [(context, operation)]
  | .empty | .plain => []

theorem calls_perform {σ : Type} (host : Host σ) (context : Context)
    (operation : Operation) (state : σ) :
    calls ((context.perform operation).run host state).events =
      context.callsFor operation := by
  rw [Context.perform, Context.callsFor]
  cases context.kind <;> rfl

namespace Router

/-- What the selected context lists becomes an enumeration of the same items.  A reply that
cannot be walked through is refused. -/
theorem routedReply_of_lists {verb : Verb} (hverb : verb = .list ∨ verb = .listBindings)
    (reply : Reply) :
    (∃ enumeration : Enumeration Listed,
        enumeration.IsOf reply.asListing ∧ enumeration.left = reply.asListing.items ∧
          routedReply verb reply = .ok (.listing (.enumeration enumeration))) ∨
      reply.asListing = .notIterable ∧ routedReply verb reply = .error .notIterable := by
  have hreply : routedReply verb reply =
      (Enumeration.ofListing reply.asListing).map fun enumeration =>
        .listing (.enumeration enumeration) := by
    rcases hverb with rfl | rfl <;> rfl
  rw [hreply]
  cases hmade : Enumeration.ofListing reply.asListing with
  | ok enumeration =>
      have hof : enumeration.IsOf reply.asListing := .inr hmade
      exact .inl ⟨enumeration, hof, Enumeration.left_of_isOf hof, rfl⟩
  | error fault =>
      cases hlisting : reply.asListing with
      | notIterable =>
          rw [hlisting] at hmade
          obtain rfl := Except.error.inj hmade
          exact .inr ⟨rfl, rfl⟩
      | _ =>
          rw [hlisting] at hmade
          exact nomatch hmade

/-- A change replies nothing, whatever the selected context replies. -/
theorem routedReply_of_changes {verb : Verb}
    (hverb : (∃ object, verb = .bind object ∨ verb = .rebind object) ∨
      verb = .unbind ∨ verb = .destroySubcontext) (reply : Reply) :
    routedReply verb reply = .ok .nothing := by
  rcases hverb with ⟨object, rfl | rfl⟩ | rfl | rfl <;> rfl

/-- The reply to an operation, from the reply of the selected context. -/
def replyTo : Operation → Reply → Except Fault Reply
  | .on verb _, reply => routedReply verb reply
  | .rename _ _, _ => .ok .nothing

/-- Hands an operation on to the context that is selected for a scheme: as it was
given, or on residual names. -/
def forward (router : Router) (env : Environment) (scheme : Option String)
    (operation residual : Operation) : Program Reply := do
  let selection ← router.select env scheme
  let reply ← selection.context.perform (if selection.whole then operation else residual)
  Program.ofExcept (replyTo operation reply)

theorem readName_of_resolve (parameter : String) {name : GivenName}
    {parsed : CompositeName} (h : name.resolve = .ok parsed) :
    readName parameter name = .ok parsed := by
  cases name with
  | missing => exact nomatch h
  | text written => exact h
  | composite name => exact h

theorem readNames_of_resolve {old new : GivenName} {oldName newName : CompositeName}
    (hold : old.resolve = .ok oldName) (hnew : new.resolve = .ok newName) :
    readNames old new = .ok (oldName, newName) := by
  have hold' : old ≠ .missing := by
    rintro rfl
    exact nomatch hold
  have hnew' : new ≠ .missing := by
    rintro rfl
    exact nomatch hnew
  rw [readNames, if_neg hold', if_neg hnew', hold, hnew]
  rfl

theorem branches_of_seeksItself {verb : Verb} {name : GivenName}
    {parsed : CompositeName} (h : name.resolve = .ok parsed) :
    branches verb parsed.split = (Operation.on verb name).seeksItself := by
  cases verb with
  | lookup =>
      rw [Operation.seeksItself, h, branches, Bool.eq_iff_iff,
        CompositeName.isEmpty_split_iff]
      simp
  | _ => rfl

/-- Every operation is forwarded, unless it branches. -/
theorem perform_eq_forward (router : Router) (env : Environment)
    {operation residual : Operation} {scheme : Option String}
    (hsplit : operation.split = .ok (scheme, residual))
    (hother : operation.seeksItself = false) :
    router.perform env operation = router.forward env scheme operation residual := by
  cases operation with
  | on verb name =>
      obtain ⟨parsed, hname, rfl, rfl⟩ := Operation.resolve_of_split_on hsplit
      rw [← branches_of_seeksItself hname] at hother
      rw [perform, readName_of_resolve "name" hname]
      change (if branches verb parsed.split = true then pure .branch else _ :
        Program Reply) = _
      rw [if_neg (by simp [hother]), forward]
      refine congrArg (router.select env _ >>= ·) (funext fun selection => ?_)
      cases selection with
      | mk context whole => cases whole <;> rfl
  | rename old new =>
      obtain ⟨oldName, newName, hold, hnew, rfl, rfl⟩ := Operation.resolve_of_split_rename hsplit
      rw [perform, readNames_of_resolve hold hnew, forward]
      refine congrArg (router.select env _ >>= ·) (funext fun selection => ?_)
      cases selection with
      | mk context whole => cases whole <;> rfl

/-- The lookup of a name that means the context itself branches. -/
theorem perform_eq_branch (router : Router) (env : Environment) {operation : Operation}
    (hself : operation.seeksItself = true) :
    router.perform env operation = pure .branch := by
  cases operation with
  | on verb name =>
      cases hname : name.resolve with
      | error fault => cases verb <;> simp [Operation.seeksItself, hname] at hself
      | ok parsed =>
          rw [← branches_of_seeksItself hname] at hself
          rw [perform, readName_of_resolve "name" hname]
          change (if branches verb parsed.split = true then pure .branch else _ :
            Program Reply) = _
          rw [if_pos hself]
  | rename old new => exact nomatch hself

/-! ## Runs -/

variable {σ : Type}

/-- The log records about the endpoints that an environment configures. -/
def endpointEvents (router : Router) (env : Environment) : List Event :=
  (Endpoint.configured router.expansion env.properties).records.map fun record =>
    .told (.record record)

/-- What is told about a selection: its trace, unless it fails. -/
def routedEvents (scheme : Option String) : Except Fault Selection → List Event
  | .ok selection => [.told (.record (routedTrace scheme selection.whole))]
  | .error _ => []

section Run

variable (host : Host σ) (router : Router) (env : Environment)
  (scheme : Option String) (state : σ) {endpoints : Option (List Endpoint)}

theorem run_select
    (hendpoints : (Endpoint.configured router.expansion env.properties).outcome =
      .ok endpoints) :
    let selecting := (Selection.resolve router.plugins endpoints scheme env).run host state
    (router.select env scheme).run host state =
      ⟨selecting.outcome, router.endpointEvents env ++
        (selecting.events ++ routedEvents scheme selecting.outcome),
        selecting.state⟩ := by
  intro selecting
  have hlogged := Program.run_ofLogged host
    (Endpoint.configured router.expansion env.properties) state
  have hconfigured := (congrArg Run.outcome hlogged).trans hendpoints
  rw [select, Program.run_bind_of_ok host _ hconfigured, hlogged]
  cases hselecting : selecting.outcome with
  | error fault =>
      rw [Program.run_bind_of_error host _ hselecting]
      simp [routedEvents, endpointEvents, selecting]
  | ok selection =>
      rw [Program.run_bind_of_ok host _ hselecting]
      rfl

/-- A selection that fails is the end of a forwarded operation. -/
theorem run_forward_of_error (operation residual : Operation) {fault : Fault}
    (hendpoints : (Endpoint.configured router.expansion env.properties).outcome =
      .ok endpoints) :
    let selecting := (Selection.resolve router.plugins endpoints scheme env).run host state
    selecting.outcome = .error fault →
      (router.forward env scheme operation residual).run host state =
        ⟨.error fault, router.endpointEvents env ++ selecting.events, selecting.state⟩ := by
  intro selecting hfault
  have hselect := run_select host router env scheme state hendpoints
  have houtcome := (congrArg Run.outcome hselect).trans hfault
  rw [forward, Program.run_bind_of_error host _ houtcome, hselect]
  simp [selecting, hfault, routedEvents]

/-- The selected context is asked once to carry out what is forwarded. -/
theorem run_forward_of_ok (operation residual : Operation) {selection : Selection}
    (hendpoints : (Endpoint.configured router.expansion env.properties).outcome =
      .ok endpoints) :
    let selecting := (Selection.resolve router.plugins endpoints scheme env).run host state
    let wanted := if selection.whole then operation else residual
    let performing := (selection.context.perform wanted).run host selecting.state
    selecting.outcome = .ok selection →
      (router.forward env scheme operation residual).run host state =
        ⟨performing.outcome.bind (replyTo operation),
          router.endpointEvents env ++ selecting.events ++
            .told (.record (routedTrace scheme selection.whole)) :: performing.events,
          performing.state⟩ := by
  intro selecting wanted performing hok
  have hselect := run_select host router env scheme state hendpoints
  have houtcome := (congrArg Run.outcome hselect).trans hok
  rw [forward, Program.run_bind_of_ok host _ houtcome, hselect]
  cases hperforming : performing.outcome with
  | error fault =>
      rw [Program.run_bind_of_error host _ hperforming]
      simp [selecting, performing, wanted, hok, routedEvents, Except.bind]
  | ok reply =>
      rw [Program.run_bind_of_ok host _ hperforming]
      simp [selecting, performing, wanted, hok, routedEvents, Except.bind,
        Program.ofExcept]

theorem calls_endpointEvents : calls (router.endpointEvents env) = [] := by
  rw [calls, endpointEvents, List.filterMap_map, List.filterMap_eq_nil_iff]
  intro record _
  rfl

end Run

end Router

namespace Session

open Router

/-- A routing context makes one selection for an operation, for the scheme of its
name and the endpoints that its environment configures at that time.  When the
selection fails, so does the operation, and no context is called.  Otherwise the
selected context, and no other, is asked once to carry out the operation: as it
was given if it is to get whole names, and else on the residual names.  Only the
lookup of a name that means the routing context itself asks nobody, and a new
routing context is handed out for it. -/
theorem perform_forwards {σ : Type} (host : Host σ) (session : Session)
    (router : Router) (id : Nat) (operation : Operation) (state : σ)
    {scheme : Option String} {residual : Operation}
    (hsplit : operation.split = .ok (scheme, residual)) :
    let env := session.environment id
    let run := (session.perform (.routing router id) operation).run host state
    (operation.seeksItself = true →
      run = ⟨.ok .branch, [], state⟩ ∧
        session.give (.routing router id) .branch =
          (.context session.contexts.length,
            { session with
              environments := session.environments ++ [env.properties]
              contexts := session.contexts ++
                [.routing router session.environments.length] })) ∧
      (operation.seeksItself = false → ∀ endpoints,
        (Endpoint.configured router.expansion env.properties).outcome = .ok endpoints →
        let selecting :=
          (Selection.resolve router.plugins endpoints scheme env).run host state
        (∀ fault, selecting.outcome = .error fault →
          run = ⟨.error fault, router.endpointEvents env ++ selecting.events,
              selecting.state⟩ ∧
            calls run.events = []) ∧
          ∀ selection, selecting.outcome = .ok selection →
            let wanted := if selection.whole then operation else residual
            let performing := (selection.context.perform wanted).run host selecting.state
            run = ⟨performing.outcome.bind (replyTo operation),
                router.endpointEvents env ++ selecting.events ++
                  .told (.record (routedTrace scheme selection.whole)) ::
                    performing.events,
                performing.state⟩ ∧
              calls run.events = selection.context.callsFor wanted) := by
  intro env run
  constructor
  · intro hself
    have hbranch := perform_eq_branch router env hself
    refine ⟨?_, rfl⟩
    change (router.perform env operation).run host state = _
    rw [hbranch]
    rfl
  · intro hother endpoints hendpoints selecting
    have hforward : run =
        (router.forward env scheme operation residual).run host state := by
      change (router.perform env operation).run host state = _
      rw [perform_eq_forward router env hsplit hother]
    have hselecting : calls selecting.events = [] :=
      calls_eq_nil (Selection.resolve_onlyAsks_of_party_ne_context _ _ _ _)
        (Program.yields_run host _ state)
    constructor
    · intro fault hfault
      have hrun := hforward.trans
        (run_forward_of_error host router env scheme state operation residual
          hendpoints hfault)
      refine ⟨hrun, ?_⟩
      rw [hrun]
      dsimp only
      rw [calls_append, calls_endpointEvents, hselecting]
      rfl
    · intro selection hok wanted performing
      have hrun := hforward.trans
        (run_forward_of_ok host router env scheme state operation residual
          hendpoints hok)
      refine ⟨hrun, ?_⟩
      rw [hrun]
      dsimp only
      rw [calls_append, calls_append, calls_told, calls_endpointEvents, hselecting,
        calls_perform]
      rfl

/-- A context plugin that serves every scheme. -/
def lonePlugin : Scripted.Stage :=
  { Scripted.Stage.empty with
    contextFactories := [⟨some "cf", .all, .any,
      some ⟨.own "ScriptedContext", none, false, none, none, [], []⟩, none, none⟩] }

/-- A router with that plugin. -/
def loneRouter : Router :=
  ⟨lonePlugin.plugins .empty, ⟨none, .empty⟩⟩

theorem lonePlugin_called :
    calls (((start .empty (.routing loneRouter 0) .empty).perform (.routing loneRouter 0)
      (.on .lookup (.composite ⟨["x:a", "b"]⟩))).run Scripted.host lonePlugin).events =
        [(⟨.own "ScriptedContext", 0, some 0⟩, .on .lookup (.composite ⟨["a", "b"]⟩))] := by
  have hforwards := perform_forwards Scripted.host
    (start .empty (.routing loneRouter 0) .empty) loneRouter 0
    (.on .lookup (.composite ⟨["x:a", "b"]⟩)) lonePlugin rfl
  exact ((hforwards.2 (by decide) none rfl).2
    ⟨⟨.own "ScriptedContext", 0, some 0⟩, false⟩ rfl).2

end Session

end NameRouting
