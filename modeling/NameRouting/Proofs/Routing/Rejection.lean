import NameRouting.Proofs.Endpoint.Padding
import NameRouting.Proofs.Name.Grammar
import NameRouting.Proofs.Routing.Scopes

/-!
# Rejected requests

A routing context rejects a request by itself when an argument is missing, when a
written name cannot be read, or when the endpoints of its environment are not well
formed.  It looks for these faults in this order, and the first one decides.  Nobody is
asked for a rejected request, and nothing changes: all that is left of it are the log
records about the endpoints.
-/

namespace NameRouting

/-! ## Endpoints that are refused -/

namespace Endpoint

theorem exists_of_readToken_eq_error {token : List Char} {fault : Fault}
    (hread : readToken token = .error fault) :
    ∃ raw reason, fault = .invalidEndpoint raw reason := by
  rw [readToken] at hread
  split at hread
  · exact ⟨_, _, (Except.error.inj hread).symm⟩
  · cases hread

/-- Endpoints fail to be derived in one way only. -/
theorem exists_of_configured_eq_error {expansion : Expansion} {env : Table Value}
    {fault : Fault} (hconfigured : (configured expansion env).outcome = .error fault) :
    ∃ raw reason, fault = .invalidEndpoint raw reason := by
  rw [configured] at hconfigured
  split at hconfigured
  case isTrue =>
    rw [outcome_connectionEndpoints] at hconfigured
    split at hconfigured
    · cases hconfigured
    · rcases Outcome.bind_eq_error_iff.mp hconfigured with hread | ⟨_, -, hsome⟩
      · obtain ⟨fields, -, hfields⟩ := Outcome.exists_of_mapM_eq_error hread
        obtain ⟨reason, hreason⟩ := endpoint_eq_error hfields
        exact ⟨_, _, hreason⟩
      · cases hsome
  case isFalse =>
    rw [Logged.outcome_bind, outcome_parseList] at hconfigured
    rcases Outcome.bind_eq_error_iff.mp hconfigured with hread | ⟨_, -, hsome⟩
    · obtain ⟨token, -, htoken⟩ := Outcome.exists_of_mapM_eq_error hread
      exact exists_of_readToken_eq_error htoken
    · cases hsome

end Endpoint

/-! ## The first faulty argument -/

namespace Operation

/-- The arguments of an operation that are names, by their parameters, in order. -/
def arguments : Operation → List (String × GivenName)
  | .on _ name => [("name", name)]
  | .rename old new => [("old_name", old), ("new_name", new)]

/-- The first argument of a kind. -/
def IsFirst (operation : Operation) (Kind : GivenName → Prop) (parameter : String)
    (name : GivenName) : Prop :=
  ∃ before after, operation.arguments = before ++ (parameter, name) :: after ∧ Kind name ∧
    ∀ argument ∈ before, ¬ Kind argument.2

variable {Kind : GivenName → Prop} {parameter : String} {name : GivenName}

theorem IsFirst.kind {operation : Operation} (hfirst : operation.IsFirst Kind parameter name) :
    Kind name := by
  obtain ⟨_, _, -, hkind, -⟩ := hfirst
  exact hkind

theorem IsFirst.mem {operation : Operation} (hfirst : operation.IsFirst Kind parameter name) :
    (parameter, name) ∈ operation.arguments := by
  obtain ⟨before, after, harguments, -, -⟩ := hfirst
  rw [harguments]
  exact List.mem_append_right before List.mem_cons_self

theorem isFirst_on_iff {verb : Verb} {given : GivenName} :
    (Operation.on verb given).IsFirst Kind parameter name ↔
      parameter = "name" ∧ name = given ∧ Kind given := by
  constructor
  · rintro ⟨before, after, harguments, hkind, -⟩
    obtain ⟨rfl, hargument, rfl⟩ : before = [] ∧ (parameter, name) = ("name", given) ∧
        after = [] := by
      simpa [arguments, List.cons_eq_append_iff] using harguments
    obtain ⟨rfl, rfl⟩ := Prod.mk.inj hargument
    exact ⟨rfl, rfl, hkind⟩
  · rintro ⟨rfl, rfl, hkind⟩
    exact ⟨[], [], rfl, hkind, nofun⟩

theorem isFirst_rename_iff {old new : GivenName} :
    (Operation.rename old new).IsFirst Kind parameter name ↔
      parameter = "old_name" ∧ name = old ∧ Kind old ∨
        parameter = "new_name" ∧ name = new ∧ Kind new ∧ ¬ Kind old := by
  constructor
  · rintro ⟨before, after, harguments, hkind, hbefore⟩
    match before, harguments, hbefore with
    | [], harguments, _ =>
        obtain ⟨hargument, -⟩ := List.cons.inj harguments
        obtain ⟨rfl, rfl⟩ := Prod.mk.inj hargument
        exact .inl ⟨rfl, rfl, hkind⟩
    | [_], harguments, hbefore =>
        obtain ⟨rfl, hrest⟩ := List.cons.inj harguments
        obtain ⟨hargument, -⟩ := List.cons.inj hrest
        obtain ⟨rfl, rfl⟩ := Prod.mk.inj hargument
        exact .inr ⟨rfl, rfl, hkind, hbefore _ List.mem_cons_self⟩
    | _ :: _ :: rest, harguments, _ => simp [arguments] at harguments
  · rintro (⟨rfl, rfl, hkind⟩ | ⟨rfl, rfl, hkind, hold⟩)
    · exact ⟨[], [("new_name", new)], rfl, hkind, nofun⟩
    · exact ⟨[("old_name", old)], [], rfl, hkind, by simpa using hold⟩

theorem exists_isFirst (Kind : GivenName → Prop) {operation : Operation}
    (hkind : ∃ argument ∈ operation.arguments, Kind argument.2) :
    ∃ parameter name, operation.IsFirst Kind parameter name := by
  cases operation with
  | on verb given =>
      have hgiven : Kind given := by simpa [arguments] using hkind
      exact ⟨_, _, isFirst_on_iff.mpr ⟨rfl, rfl, hgiven⟩⟩
  | rename old new =>
      by_cases hold : Kind old
      · exact ⟨_, _, isFirst_rename_iff.mpr (.inl ⟨rfl, rfl, hold⟩)⟩
      · have hnew : Kind new := by simpa [arguments, hold] using hkind
        exact ⟨_, _, isFirst_rename_iff.mpr (.inr ⟨rfl, rfl, hnew, hold⟩)⟩

theorem exists_split_of_resolve {operation : Operation}
    (hread : ∀ argument ∈ operation.arguments, ∃ name, argument.2.resolve = .ok name) :
    ∃ scheme residual, operation.split = .ok (scheme, residual) := by
  cases operation with
  | on verb given =>
      obtain ⟨name, hname⟩ := hread _ List.mem_cons_self
      rw [split, hname]
      exact ⟨_, _, rfl⟩
  | rename old new =>
      obtain ⟨oldName, hold⟩ := hread _ List.mem_cons_self
      obtain ⟨newName, hnew⟩ := hread _ (List.mem_cons_of_mem _ List.mem_cons_self)
      rw [split, hold, hnew]
      exact ⟨_, _, rfl⟩

end Operation

/-! ## What a router does with a rejected request -/

namespace Router

variable {σ : Type} (host : Host σ) (router : Router) (env : Environment) (state : σ)
  {operation : Operation} {parameter : String} {name : GivenName} {fault : Fault}

theorem run_perform_of_missing (hfirst : operation.IsFirst (· = .missing) parameter name) :
    (router.perform env operation).run host state =
      ⟨.error (.missingArgument parameter), [], state⟩ := by
  cases operation with
  | on verb given =>
      obtain ⟨rfl, rfl, rfl⟩ := Operation.isFirst_on_iff.mp hfirst
      rfl
  | rename old new =>
      rcases Operation.isFirst_rename_iff.mp hfirst with
        ⟨rfl, rfl, rfl⟩ | ⟨rfl, rfl, rfl, hold⟩
      · rfl
      · rw [perform, readNames, if_neg hold, if_pos rfl]
        rfl

theorem run_perform_of_isUnreadable
    (hgiven : ∀ argument ∈ operation.arguments, argument.2 ≠ .missing)
    (hfirst : operation.IsFirst GivenName.IsUnreadable parameter name)
    (hfault : name.resolve = .error fault) :
    (router.perform env operation).run host state = ⟨.error fault, [], state⟩ := by
  cases operation with
  | on verb given =>
      obtain ⟨rfl, rfl, -⟩ := Operation.isFirst_on_iff.mp hfirst
      have hname : readName "name" name = .error fault := by
        cases name with
        | missing => exact absurd rfl (hgiven _ List.mem_cons_self)
        | text written => exact hfault
        | composite name => cases hfault
      rw [perform, hname]
      rfl
  | rename old new =>
      have hold : old ≠ .missing := hgiven _ List.mem_cons_self
      have hnew : new ≠ .missing := hgiven _ (List.mem_cons_of_mem _ List.mem_cons_self)
      rw [perform, readNames, if_neg hold, if_neg hnew]
      rcases Operation.isFirst_rename_iff.mp hfirst with
        ⟨rfl, rfl, -⟩ | ⟨rfl, rfl, -, hreadable⟩
      · rw [hfault]
        rfl
      · cases hname : old.resolve with
        | error fault => exact absurd ⟨fault, hname⟩ hreadable
        | ok oldName =>
            rw [hfault]
            rfl

theorem run_perform_of_configured_eq_error
    (hread : ∀ argument ∈ operation.arguments, ∃ name, argument.2.resolve = .ok name)
    (hother : operation.seeksItself = false)
    (hconfigured : (Endpoint.configured router.expansion env.properties).outcome =
      .error fault) :
    (router.perform env operation).run host state =
      ⟨.error fault, router.endpointEvents env, state⟩ := by
  obtain ⟨scheme, residual, hsplit⟩ := Operation.exists_split_of_resolve hread
  have hlogged :=
    Program.run_ofLogged host (Endpoint.configured router.expansion env.properties) state
  have hfault := (congrArg Run.outcome hlogged).trans hconfigured
  have hselect : (router.select env scheme).run host state =
      ⟨.error fault, router.endpointEvents env, state⟩ := by
    rw [select, Program.run_bind_of_error host _ hfault, hlogged]
    rfl
  have houtcome := congrArg Run.outcome hselect
  rw [perform_eq_forward router env hsplit hother, forward,
    Program.run_bind_of_error host _ houtcome, hselect]

end Router

/-! ## Rejection -/

namespace World

variable {σ : Type} (host : Host σ) {world : World σ} {number id : Nat} {router : Router}

theorem move_perform_of_error (hscope : world.session.IsScope number router id)
    {operation : Operation} {fault : Fault} {events : List Event}
    (hrun : (router.perform (world.session.environment id) operation).run host world.state =
      ⟨.error fault, events, world.state⟩) :
    world.move host ⟨number, .perform operation⟩ =
      (.error fault, { world with events := world.events ++ events }) := by
  rw [move_perform host hscope, hrun]

/-- A routing context rejects a request before anything happens.  The first argument
that is missing is reported; when none is missing, the first one that cannot be read;
and when all can be read, the faulty endpoints of the environment, unless a name is
looked up of which the split leaves nothing.  Nobody is asked then, and neither the
session with its environments nor the world around it changes. -/
theorem move_rejected (hscope : world.session.IsScope number router id)
    (operation : Operation) :
    let env := world.session.environment id
    let endpoints := Endpoint.configured router.expansion env.properties
    let rejected (fault : Fault) (records : List Log.Record) :=
      world.move host ⟨number, .perform operation⟩ =
        (.error fault, { world with
          events := world.events ++ records.map fun record => .told (.record record) })
    ((∃ argument ∈ operation.arguments, argument.2 = .missing) →
      ∃ parameter, operation.IsFirst (· = .missing) parameter .missing ∧
        rejected (.missingArgument parameter) []) ∧
      ((∀ argument ∈ operation.arguments, argument.2 ≠ .missing) →
        (∃ argument ∈ operation.arguments, argument.2.IsUnreadable) →
        ∃ parameter text, ∃ cause : NameFault,
          operation.IsFirst GivenName.IsUnreadable parameter (.text text) ∧
            rejected (.malformedName text cause.reason) []) ∧
      ((∀ argument ∈ operation.arguments, ∃ name, argument.2.resolve = .ok name) →
        operation.seeksItself = false → ∀ fault, endpoints.outcome = .error fault →
        ∃ raw reason, fault = .invalidEndpoint raw reason ∧
          rejected (.invalidEndpoint raw reason) endpoints.records) := by
  intro env endpoints rejected
  refine ⟨fun hmissing => ?_, fun hgiven hunreadable => ?_, fun hread hother fault hfault => ?_⟩
  · obtain ⟨parameter, name, hfirst⟩ := Operation.exists_isFirst (· = .missing) hmissing
    obtain rfl : name = .missing := hfirst.kind
    exact ⟨parameter, hfirst, move_perform_of_error host hscope
      (Router.run_perform_of_missing host router env world.state hfirst)⟩
  · obtain ⟨parameter, name, hfirst⟩ :=
      Operation.exists_isFirst GivenName.IsUnreadable hunreadable
    obtain ⟨fault, hfault⟩ := hfirst.kind
    obtain ⟨text, cause, rfl, rfl⟩ :=
      GivenName.exists_of_resolve_eq_error (hgiven _ hfirst.mem) hfault
    exact ⟨parameter, text, cause, hfirst, move_perform_of_error host hscope
      (Router.run_perform_of_isUnreadable host router env world.state hgiven hfirst hfault)⟩
  · obtain ⟨raw, reason, rfl⟩ := Endpoint.exists_of_configured_eq_error hfault
    exact ⟨raw, reason, rfl, move_perform_of_error host hscope
      (Router.run_perform_of_configured_eq_error host router env world.state hread hother hfault)⟩

/-- A router without plugins. -/
def idleRouter : Router :=
  ⟨Scripted.Stage.empty.plugins .empty, ⟨none, .empty⟩⟩

/-- A scope whose environment lists an endpoint with a blank. -/
def blankWorld : World Scripted.Stage :=
  start ⟨[("naming.provider.url", .text "x://h,y z")]⟩ idleRouter .empty .empty

theorem blankWorld_rejects :
    blankWorld.move Scripted.host ⟨0, .perform (.rename (.text "'") .missing)⟩ =
        (.error (.missingArgument "new_name"), blankWorld) ∧
      (∃ cause : NameFault,
        blankWorld.move Scripted.host ⟨0, .perform (.rename (.composite ⟨[]⟩) (.text "'"))⟩ =
          (.error (.malformedName "'" cause.reason), blankWorld)) ∧
      blankWorld.move Scripted.host ⟨0, .perform (.on .unbind (.composite ⟨["a"]⟩))⟩ =
        (.error (.invalidEndpoint "y z" (some "Illegal character at index 1")), blankWorld) := by
  have hscope : blankWorld.session.IsScope 0 idleRouter 0 := rfl
  have hquote : CompositeName.parse "'" =
      .error (.malformedName "'" "unterminated quote") := by
    decide +kernel
  have houtcome : (Endpoint.configured idleRouter.expansion
      (blankWorld.session.environment 0).properties).outcome =
        .error (.invalidEndpoint "y z" (some "Illegal character at index 1")) := by
    decide +kernel
  have hrecords : (Endpoint.configured idleRouter.expansion
      (blankWorld.session.environment 0).properties).records = [] := by
    decide +kernel
  refine ⟨?_, ?_, ?_⟩
  · have hmissing := (move_rejected Scripted.host hscope (.rename (.text "'") .missing)).1
    obtain ⟨parameter, hfirst, hmove⟩ :=
      hmissing ⟨("new_name", .missing), by decide, rfl⟩
    obtain rfl : parameter = "new_name" := by
      simpa [Operation.arguments] using hfirst.mem
    exact hmove
  · have hunreadable :=
      (move_rejected Scripted.host hscope (.rename (.composite ⟨[]⟩) (.text "'"))).2.1
    obtain ⟨parameter, text, cause, hfirst, hmove⟩ :=
      hunreadable (by decide) ⟨("new_name", .text "'"), by decide, _, hquote⟩
    obtain ⟨rfl, rfl⟩ : parameter = "new_name" ∧ text = "'" := by
      simpa [Operation.arguments] using hfirst.mem
    exact ⟨cause, hmove⟩
  · have hconfigured :=
      (move_rejected Scripted.host hscope (.on .unbind (.composite ⟨["a"]⟩))).2.2
    obtain ⟨raw, reason, hfault, hmove⟩ :=
      hconfigured (by simp [Operation.arguments, GivenName.resolve]) rfl _ houtcome
    rw [hrecords, ← hfault] at hmove
    exact hmove

end World

end NameRouting
