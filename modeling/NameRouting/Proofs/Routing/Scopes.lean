import Mathlib.Data.List.Induction
import NameRouting.Proofs.Routing.Forwarding

/-!
# Scopes

A scope is a routing context with an environment of its own.  Looking up a name that
means the routing context itself makes a new scope from a copy of the environment.
Whatever is done afterwards with any of the contexts, the environment of a scope is
this copy with the changes that were made through the scope itself.

A session only ever grows by contexts and environments, and no two scopes share an
environment.  Each move of a user has one of three effects, and all statements about
longer runs are derived from these.
-/

namespace NameRouting

/-! ## Moves -/

/-- What a user does with a context. -/
inductive Act where
  | add (key : String) (value : Value)
  | remove (key : String)
  | perform (operation : Operation)

/-- What an act changes of an environment. -/
def Act.change : Act → Table Value → Table Value
  | .add key value, properties => properties.insert key value
  | .remove key, properties => properties.erase key
  | .perform _, properties => properties

/-- An act in the context of a number. -/
structure Move where
  number : Nat
  act : Act

/-- An environment after the changes that are made through the context of a number. -/
def changed (number : Nat) (moves : List Move) (properties : Table Value) : Table Value :=
  moves.foldl (fun properties move =>
    if move.number = number then move.act.change properties else properties) properties

theorem changed_append_singleton (number : Nat) (moves : List Move) (move : Move)
    (properties : Table Value) :
    changed number (moves ++ [move]) properties =
      if move.number = number then move.act.change (changed number moves properties)
      else changed number moves properties := by
  rw [changed, List.foldl_append]
  rfl

/-- A session, the state of the world around it, and what was asked and told before. -/
structure World (σ : Type) where
  session : Session
  state : σ
  events : List Event

namespace World

variable {σ : Type}

/-- What a user is given for a move, and the world after it.  An operation that fails
leaves the session as it is. -/
def move (host : Host σ) (world : World σ) (move : Move) : Except Fault Given × World σ :=
  match world.session.contexts[move.number]? with
  | none => (.ok .nothing, world)
  | some held =>
    match move.act with
    | .add key value =>
      match held.router "add_to_environment" with
      | .error fault => (.error fault, world)
      | .ok _ =>
        let (previous, session) := world.session.addProperty held.environment key value
        (.ok (.value previous), { world with session })
    | .remove key =>
      match held.router "remove_from_environment" with
      | .error fault => (.error fault, world)
      | .ok _ =>
        let (previous, session) := world.session.removeProperty held.environment key
        (.ok (.value previous), { world with session })
    | .perform operation =>
      let run := (world.session.perform held operation).run host world.state
      match run.outcome with
      | .error fault => (.error fault, ⟨world.session, run.state, world.events ++ run.events⟩)
      | .ok reply =>
        let (given, session) := world.session.give held reply
        (.ok given, ⟨session, run.state, world.events ++ run.events⟩)

/-- The world after moves. -/
def after (host : Host σ) (world : World σ) (moves : List Move) : World σ :=
  moves.foldl (fun world move => (world.move host move).2) world

theorem after_append_singleton (host : Host σ) (world : World σ) (moves : List Move)
    (move : Move) :
    world.after host (moves ++ [move]) = ((world.after host moves).move host move).2 := by
  rw [after, List.foldl_append]
  rfl

end World

namespace Session

theorem perform_onlyAsks (session : Session) (held : Held) (operation : Operation) :
    (session.perform held operation).OnlyAsks (·.party ≠ .installation) := by
  cases held with
  | routing router id => exact router.perform_onlyAsks _ operation
  | context context => exact context.perform_onlyAsks operation

/-! ## The effect of a move -/

/-- A number is that of a routing context with a certain environment. -/
def IsScope (session : Session) (number : Nat) (router : Router) (id : Nat) : Prop :=
  session.contexts[number]? = some (.routing router id)

/-- What a move can do to a session. -/
inductive Effect (session : Session) (move : Move) (given : Except Fault Given)
    (after : Session) : Prop
  /-- No environment changes, and no scope is added. -/
  | still (added : List Context)
      (hcontexts : after.contexts = session.contexts ++ added.map .context)
      (henvironments : after.environments = session.environments)
      (hact : ∀ router id, session.IsScope move.number router id →
        ∃ operation, move.act = .perform operation)
  /-- The environment of a scope changes. -/
  | changed (router : Router) (id : Nat) (hscope : session.IsScope move.number router id)
      (hafter : after =
        session.setEnvironment id (move.act.change (session.environment id).properties))
  /-- A scope is added, with a copy of the environment of another one. -/
  | branched (router : Router) (id : Nat) (operation : Operation)
      (hscope : session.IsScope move.number router id)
      (hact : move.act = .perform operation)
      (hgiven : given = .ok (.context session.contexts.length))
      (hcontexts : after.contexts =
        session.contexts ++ [.routing router session.environments.length])
      (henvironments : after.environments =
        session.environments ++ [(session.environment id).properties])

theorem isScope_iff_of_contexts_eq_append {session after : Session} {added : List Held}
    (hcontexts : after.contexts = session.contexts ++ added) {number id : Nat}
    {router : Router} :
    after.IsScope number router id ↔ session.IsScope number router id ∨
      session.contexts.length ≤ number ∧
        added[number - session.contexts.length]? = some (.routing router id) := by
  rw [IsScope, hcontexts, List.getElem?_append]
  split
  case isTrue hlt => simp [IsScope, Nat.not_le.mpr hlt]
  case isFalse hle => simp [IsScope, Nat.not_lt.mp hle]

theorem exists_added_hold (session : Session) (context : Context) :
    (session.hold (.context context)).2.environments = session.environments ∧
      ∃ added : List Context, (session.hold (.context context)).2.contexts =
        session.contexts ++ added.map .context := by
  obtain ⟨kind, environment, object⟩ := context
  cases object with
  | none => exact ⟨rfl, [⟨kind, environment, none⟩], rfl⟩
  | some object =>
      rw [hold]
      split
      · exact ⟨rfl, [], (List.append_nil _).symm⟩
      · exact ⟨rfl, [⟨kind, environment, some object⟩], rfl⟩

theorem effect_of_give {session : Session} {move : Move} {held : Held}
    (hheld : session.contexts[move.number]? = some held) {operation : Operation}
    (hact : move.act = .perform operation) (reply : Reply) :
    Effect session move (.ok (session.give held reply).1) (session.give held reply).2 := by
  have hperform (router : Router) (id : Nat) :
      session.IsScope move.number router id → ∃ operation, move.act = .perform operation :=
    fun _ => ⟨operation, hact⟩
  cases reply with
  | nothing => exact .still [] (List.append_nil _).symm rfl hperform
  | value value => exact .still [] (List.append_nil _).symm rfl hperform
  | context context =>
      obtain ⟨henvironments, added, hcontexts⟩ := exists_added_hold session context
      exact .still added hcontexts henvironments hperform
  | listing listing =>
      cases listing <;> exact .still [] (List.append_nil _).symm rfl hperform
  | branch =>
      cases held with
      | routing router id => exact .branched router id operation hheld hact rfl rfl rfl
      | context context => exact .still [] (List.append_nil _).symm rfl hperform

theorem effect_of_move {σ : Type} (host : Host σ) (world : World σ) (move : Move) :
    Effect world.session move (world.move host move).1 (world.move host move).2.session := by
  rw [World.move]
  cases hheld : world.session.contexts[move.number]? with
  | none =>
      refine .still [] (List.append_nil _).symm rfl fun router id hscope => ?_
      rw [IsScope, hheld] at hscope
      cases hscope
  | some held =>
      have hcontext {context : Context} (heq : held = .context context) :
          ∀ router id, world.session.IsScope move.number router id →
            ∃ operation, move.act = .perform operation := by
        intro router id hscope
        rw [IsScope, hheld, heq] at hscope
        cases hscope
      dsimp only
      cases hact : move.act with
      | add key value =>
          cases held with
          | routing router id => exact .changed router id hheld (by rw [hact]; rfl)
          | context context => exact .still [] (List.append_nil _).symm rfl (hcontext rfl)
      | remove key =>
          cases held with
          | routing router id => exact .changed router id hheld (by rw [hact]; rfl)
          | context context => exact .still [] (List.append_nil _).symm rfl (hcontext rfl)
      | perform operation =>
          dsimp only
          split
          · exact .still [] (List.append_nil _).symm rfl fun _ _ _ => ⟨operation, hact⟩
          · exact effect_of_give hheld hact _

namespace Effect

variable {session after : Session} {move : Move} {given : Except Fault Given}
  {number id : Nat} {router : Router}

/-- A scope was one before, or it is new and has a copy of the environment of the scope
in which a context was looked up. -/
theorem isScope_or_new (heffect : Effect session move given after)
    (hscope : after.IsScope number router id) :
    session.IsScope number router id ∨
      number = session.contexts.length ∧ id = session.environments.length ∧
        given = .ok (.context number) ∧ ∃ parent operation,
          session.IsScope move.number router parent ∧ move.act = .perform operation ∧
            after.environments =
              session.environments ++ [(session.environment parent).properties] := by
  cases heffect with
  | still added hcontexts _ _ =>
      rcases (isScope_iff_of_contexts_eq_append hcontexts).mp hscope with hold | ⟨-, hadded⟩
      · exact .inl hold
      · simp at hadded
  | changed _ _ _ hafter =>
      rw [hafter] at hscope
      exact .inl hscope
  | branched made parent operation hparent hact hgiven hcontexts henvironments =>
      rcases (isScope_iff_of_contexts_eq_append hcontexts).mp hscope with hold | ⟨hle, hadded⟩
      · exact .inl hold
      · obtain ⟨hlt, heq⟩ := List.getElem?_eq_some_iff.mp hadded
        obtain rfl : number = session.contexts.length := by
          simp only [List.length_singleton] at hlt
          omega
        simp only [List.getElem_singleton, Held.routing.injEq] at heq
        obtain ⟨rfl, rfl⟩ := heq
        exact .inr ⟨rfl, rfl, hgiven, parent, operation, hparent, hact, henvironments⟩

end Effect

/-! ## Separated scopes -/

/-- All scopes have the same router, and no two of them share an environment. -/
structure Separated (root : Router) (session : Session) : Prop where
  router_eq : ∀ {number router id}, session.IsScope number router id → router = root
  id_lt : ∀ {number router id}, session.IsScope number router id →
    id < session.environments.length
  number_eq : ∀ {number other router router' id}, session.IsScope number router id →
    session.IsScope other router' id → number = other

theorem eq_of_isScope_start {properties : Table Value} {router made : Router}
    {names : Table CompositeName} {number id : Nat}
    (hscope : (start properties (.routing router 0) names).IsScope number made id) :
    number = 0 ∧ made = router ∧ id = 0 := by
  obtain ⟨hlt, heq⟩ := List.getElem?_eq_some_iff.mp hscope
  obtain rfl : number = 0 := Nat.lt_one_iff.mp hlt
  obtain ⟨rfl, rfl⟩ := Held.routing.inj heq
  exact ⟨rfl, rfl, rfl⟩

theorem separated_start (properties : Table Value) (router : Router)
    (names : Table CompositeName) :
    (start properties (.routing router 0) names).Separated router where
  router_eq hscope := (eq_of_isScope_start hscope).2.1
  id_lt hscope := by
    rw [(eq_of_isScope_start hscope).2.2]
    exact Nat.one_pos
  number_eq hscope hother :=
    (eq_of_isScope_start hscope).1.trans (eq_of_isScope_start hother).1.symm

namespace Effect

variable {session after : Session} {move : Move} {given : Except Fault Given}
  {number id : Nat} {root router : Router}

theorem length_environments_le (heffect : Effect session move given after) :
    session.environments.length ≤ after.environments.length := by
  cases heffect with
  | still _ _ henvironments _ => exact Nat.le_of_eq (congrArg _ henvironments.symm)
  | changed _ _ _ hafter => simp [hafter, setEnvironment]
  | branched _ _ _ _ _ _ _ henvironments => simp [henvironments]

theorem separated (heffect : Effect session move given after)
    (hseparated : session.Separated root) : after.Separated root where
  router_eq hscope := by
    rcases heffect.isScope_or_new hscope with hold | ⟨-, -, -, _, _, hparent, -⟩
    · exact hseparated.router_eq hold
    · exact hseparated.router_eq hparent
  id_lt hscope := by
    rcases heffect.isScope_or_new hscope with hold | ⟨-, rfl, -, _, _, -, -, henvironments⟩
    · exact Nat.lt_of_lt_of_le (hseparated.id_lt hold) heffect.length_environments_le
    · simp [henvironments]
  number_eq hscope hother := by
    rcases heffect.isScope_or_new hscope with hold | ⟨rfl, rfl, -⟩ <;>
      rcases heffect.isScope_or_new hother with hold' | ⟨rfl, hid, -⟩
    · exact hseparated.number_eq hold hold'
    · exact absurd (hseparated.id_lt hold) (by omega)
    · exact absurd (hseparated.id_lt hold') (Nat.lt_irrefl _)
    · rfl

/-- A move changes the environment of a scope only when it is made in that scope. -/
theorem properties_eq (heffect : Effect session move given after)
    (hseparated : session.Separated root) (hscope : session.IsScope number router id) :
    (after.environment id).properties =
      if move.number = number then move.act.change (session.environment id).properties
      else (session.environment id).properties := by
  have hid := hseparated.id_lt hscope
  have hkept {operation : Operation} (hact : move.act = .perform operation) :
      (session.environment id).properties =
        if move.number = number then move.act.change (session.environment id).properties
        else (session.environment id).properties := by
    rw [hact, Act.change, ite_self]
  cases heffect with
  | still added _ henvironments hperform =>
      have hsame : after.environment id = session.environment id := by
        rw [environment, environment, henvironments]
      rw [hsame]
      by_cases hnumber : move.number = number
      · rw [← hnumber] at hscope
        obtain ⟨operation, hact⟩ := hperform router id hscope
        exact hkept hact
      · rw [if_neg hnumber]
  | changed made changedId hmade hafter =>
      rw [hafter]
      by_cases hnumber : move.number = number
      · rw [hnumber] at hmade
        obtain ⟨-, rfl⟩ := Held.routing.inj (Option.some.inj (hmade.symm.trans hscope))
        simp [hnumber, environment, setEnvironment, hid]
      · have hne : changedId ≠ id := by
          rintro rfl
          exact hnumber (hseparated.number_eq hmade hscope)
        simp [hnumber, environment, setEnvironment, hne]
  | branched made parent operation _ hact _ _ henvironments =>
      have hsame : after.environment id = session.environment id := by
        rw [environment, environment, henvironments, List.getElem?_append_left hid]
      rw [hsame]
      exact hkept hact

end Effect

end Session

namespace World

variable {σ : Type} (host : Host σ)

/-! ## Moves in a scope -/

section Scope

variable {world : World σ} {number id : Nat} {router : Router}
  (hscope : world.session.IsScope number router id)

include hscope

theorem move_add (key : String) (value : Value) :
    let properties := (world.session.environment id).properties
    let session := world.session.setEnvironment id (properties.insert key value)
    world.move host ⟨number, .add key value⟩ =
      (.ok (.value ((properties.get? key).getD .null)), { world with session }) := by
  rw [move, hscope]
  rfl

theorem move_remove (key : String) :
    let properties := (world.session.environment id).properties
    let session := world.session.setEnvironment id (properties.erase key)
    world.move host ⟨number, .remove key⟩ =
      (.ok (.value ((properties.get? key).getD .null)), { world with session }) := by
  rw [move, hscope]
  rfl

theorem move_perform (operation : Operation) :
    let run := (router.perform (world.session.environment id) operation).run host world.state
    world.move host ⟨number, .perform operation⟩ =
      match run.outcome with
      | .error fault => (.error fault, ⟨world.session, run.state, world.events ++ run.events⟩)
      | .ok reply => ((.ok (world.session.give (.routing router id) reply).1),
          ⟨(world.session.give (.routing router id) reply).2, run.state,
            world.events ++ run.events⟩) := by
  rw [move, hscope]
  rfl

/-- The lookup of a name that means the scope itself asks nobody, and adds a scope. -/
theorem move_lookup {operation : Operation} (hself : operation.seeksItself = true) :
    world.move host ⟨number, .perform operation⟩ =
      (.ok (.context world.session.contexts.length),
        { world with session := { world.session with
          environments :=
            world.session.environments ++ [(world.session.environment id).properties]
          contexts := world.session.contexts ++
            [.routing router world.session.environments.length] } }) := by
  rw [move_perform host hscope, Router.perform_eq_branch router _ hself]
  change (_, (⟨_, _, world.events ++ []⟩ : World σ)) = _
  rw [List.append_nil]
  rfl

end Scope

theorem exists_added_events (world : World σ) (move : Move) :
    ∃ added, (world.move host move).2.events = world.events ++ added ∧
      ∀ request answer, .asked request answer ∈ added → request.party ≠ .installation := by
  have hnone : world.events = world.events ++ [] ∧ ∀ request answer,
      (.asked request answer : Event) ∈ [] → request.party ≠ .installation :=
    ⟨(List.append_nil _).symm, fun _ _ hmem => absurd hmem List.not_mem_nil⟩
  rw [World.move]
  cases world.session.contexts[move.number]? with
  | none => exact ⟨[], hnone⟩
  | some held =>
      dsimp only
      cases move.act with
      | add key value => cases held <;> exact ⟨[], hnone⟩
      | remove key => cases held <;> exact ⟨[], hnone⟩
      | perform operation =>
          let run := (world.session.perform held operation).run host world.state
          have hrun := Program.yields_run host (world.session.perform held operation) world.state
          refine ⟨run.events, ?_, fun request answer hmem =>
            (world.session.perform_onlyAsks held operation).of_mem hrun hmem⟩
          dsimp only
          split <;> rfl

/-! ## Longer runs -/

/-- A world with one scope, in which nothing has happened. -/
def start (properties : Table Value) (router : Router) (names : Table CompositeName)
    (state : σ) : World σ :=
  ⟨.start properties (.routing router 0) names, state, []⟩

/-- Where the environment of a scope comes from, and the moves since then: it is the
environment of the first scope, or a copy of the environment of the scope in which the
new one was looked up. -/
inductive Origin (world : World σ) :
    (moves : List Move) → (number : Nat) → (origin : Table Value) → (later : List Move) → Prop
  | first (moves : List Move) : Origin world moves 0 (world.session.environment 0).properties moves
  | branch (earlier : List Move) (move : Move) (later : List Move) (operation : Operation)
      (router : Router) (parent number : Nat)
      (hact : move.act = .perform operation)
      (hparent : (world.after host earlier).session.IsScope move.number router parent)
      (hnumber : number = (world.after host earlier).session.contexts.length)
      (hgiven : ((world.after host earlier).move host move).1 = .ok (.context number)) :
      Origin world (earlier ++ move :: later) number
        ((world.after host earlier).session.environment parent).properties later

theorem Origin.append_singleton {world : World σ} {moves later : List Move} {number : Nat}
    {origin : Table Value} (horigin : Origin host world moves number origin later)
    (move : Move) :
    Origin host world (moves ++ [move]) number origin (later ++ [move]) := by
  cases horigin with
  | first => exact .first _
  | branch earlier parentMove later operation router parent _ hact hparent hnumber hgiven =>
      rw [List.append_assoc]
      exact .branch earlier parentMove (later ++ [move]) operation router parent number hact
        hparent hnumber hgiven

section Start

variable (properties : Table Value) (router : Router) (names : Table CompositeName) (state : σ)

theorem separated_after (moves : List Move) :
    ((start properties router names state).after host moves).session.Separated router := by
  induction moves using List.reverseRecOn with
  | nil => exact Session.separated_start properties router names
  | append_singleton moves move ih =>
      rw [after_append_singleton]
      exact (Session.effect_of_move host _ move).separated ih

theorem onlyAsks_after (moves : List Move) {request : Request}
    {answer : Except Fault request.Answer}
    (hmem : .asked request answer ∈
      ((start properties router names state).after host moves).events) :
    request.party ≠ .installation := by
  induction moves using List.reverseRecOn with
  | nil => exact absurd hmem (List.not_mem_nil)
  | append_singleton moves move ih =>
      rw [after_append_singleton] at hmem
      obtain ⟨added, hevents, hadded⟩ := exists_added_events host
        ((start properties router names state).after host moves) move
      rw [hevents, List.mem_append] at hmem
      exact hmem.elim ih (hadded request answer)

/-- The environment of a scope is the one that it started with, with the changes made
through the scope. -/
theorem exists_origin (moves : List Move) {number id : Nat} {made : Router} :
    let world := (start properties router names state).after host moves
    world.session.IsScope number made id →
      ∃ origin later,
        Origin host (start properties router names state) moves number origin later ∧
          (world.session.environment id).properties = changed number later origin := by
  induction moves using List.reverseRecOn generalizing number id made with
  | nil =>
      intro world hscope
      obtain ⟨rfl, -, rfl⟩ := Session.eq_of_isScope_start hscope
      exact ⟨_, _, .first [], rfl⟩
  | append_singleton moves move ih =>
      intro world hscope
      have hseparated := separated_after host properties router names state moves
      have heffect := Session.effect_of_move host
        ((start properties router names state).after host moves) move
      have hworld : world =
          (((start properties router names state).after host moves).move host move).2 :=
        after_append_singleton host _ moves move
      rw [hworld] at hscope ⊢
      rcases heffect.isScope_or_new hscope with
        hold | ⟨hnumber, rfl, hgiven, parent, operation, hparent, hact, henvironments⟩
      · obtain ⟨origin, later, horigin, hlater⟩ := ih hold
        refine ⟨origin, later ++ [move], horigin.append_singleton host move, ?_⟩
        rw [heffect.properties_eq hseparated hold, hlater, changed_append_singleton]
      · refine ⟨_, [], .branch moves move [] operation made parent number hact hparent
          hnumber hgiven, ?_⟩
        simp [Session.environment, henvironments, changed]

/-- A scope is isolated for ever.  After any moves in any of the contexts, its environment
is the one that it started with, with the changes made through the scope itself; setting
or removing a property tells what the scope had for it, and a lookup of the scope itself
makes a further scope from a copy.  Every scope has the router of the first one, and
plugins are never looked for again. -/
theorem scopes_isolated (moves : List Move) :
    let world := (start properties router names state).after host moves
    (∀ request answer, .asked request answer ∈ world.events →
      request.party ≠ .installation) ∧
      ∀ number made id, world.session.IsScope number made id →
        made = router ∧ ∃ origin later,
          Origin host (start properties router names state) moves number origin later ∧
            let kept := changed number later origin
            (world.session.environment id).properties = kept ∧
              (∀ key value, (world.move host ⟨number, .add key value⟩).1 =
                .ok (.value ((kept.get? key).getD .null))) ∧
              (∀ key, (world.move host ⟨number, .remove key⟩).1 =
                .ok (.value ((kept.get? key).getD .null))) ∧
              ∀ operation, operation.seeksItself = true →
                let next := world.move host ⟨number, .perform operation⟩
                let child := world.session.contexts.length
                next.1 = .ok (.context child) ∧
                  (∃ copy, next.2.session.IsScope child router copy ∧
                    (next.2.session.environment copy).properties = kept) ∧
                  next.2.events = world.events ∧ next.2.state = world.state := by
  intro world
  refine ⟨fun request answer => onlyAsks_after host properties router names state moves, ?_⟩
  intro number made id hscope
  obtain rfl : made = router :=
    (separated_after host properties router names state moves).router_eq hscope
  obtain ⟨origin, later, horigin, hkept⟩ :=
    exists_origin host properties made names state moves hscope
  refine ⟨rfl, origin, later, horigin, hkept, fun key value => ?_, fun key => ?_,
    fun operation hself => ?_⟩
  · rw [move_add host hscope, hkept]
  · rw [move_remove host hscope, hkept]
  · rw [move_lookup host hscope hself]
    refine ⟨rfl, ⟨world.session.environments.length, ?_, ?_⟩, rfl, rfl⟩
    · exact List.getElem?_concat_length
    · refine Eq.trans ?_ hkept
      simp [Session.environment, world]

/-- A property set in a scope is not seen in the one that it was looked up in, and one
that is set there later is not seen in the scope. -/
example :
    ((start .empty router names state).after host [
        ⟨0, .perform (.on .lookup (.composite ⟨[]⟩))⟩, ⟨1, .add "key" (.text "inner")⟩,
        ⟨0, .add "other" (.text "outer")⟩]).session.environments =
      [⟨[("other", .text "outer")]⟩, ⟨[("key", .text "inner")]⟩] :=
  rfl

end Start

end World

end NameRouting
