import NameRouting.Enumeration

/-!
# Closed enumerations

Closing an enumeration happens once.  It asks the objects behind the listing one
after the other, up to the first that fails, and drops the items if none fails.  So
an enumeration whose closing failed counts as closed, but hands out whatever the
objects that were asked have left in its iterator, and the objects behind the one
that failed are never asked.
-/

namespace NameRouting.Enumeration

variable {α : Type}

/-! ## Courses of actions -/

/-- What a user does with an enumeration; leaving a block that uses it closes it. -/
inductive Action where
  | next
  | close
  | leave
deriving DecidableEq, Inhabited, Repr

/-- Whether an action closes the enumeration. -/
def Action.closes : Action → Bool
  | .next => false
  | .close | .leave => true

/-- What comes of an action: an answer to the user, or the end of the closing and the
objects that were asked to close. -/
inductive Reaction (α : Type) where
  | handed (answer : Except Fault (Option α))
  | closed (outcome : Except Fault Unit) (asked : List Closable)
deriving Inhabited

/-- The reaction to one action, and the enumeration after it. -/
def react (enumeration : Enumeration α) : Action → Reaction α × Enumeration α
  | .next => (.handed enumeration.next.1, enumeration.next.2)
  | .close | .leave =>
    (.closed enumeration.close.1 enumeration.close.2.1, enumeration.close.2.2)

/-- The reactions to actions in their order, and the enumeration after them. -/
def run (enumeration : Enumeration α) : List Action → List (Reaction α) × Enumeration α
  | [] => ([], enumeration)
  | action :: rest =>
    let (reaction, left) := enumeration.react action
    let (reactions, left) := run left rest
    (reaction :: reactions, left)

/-- What was handed out. -/
def answers (reactions : List (Reaction α)) : List (Except Fault (Option α)) :=
  reactions.filterMap fun
    | .handed answer => some answer
    | .closed _ _ => none

/-- The objects that were asked to close. -/
def asked (reactions : List (Reaction α)) : List Closable :=
  reactions.flatMap fun
    | .handed _ => []
    | .closed _ objects => objects

/-- The hooks up to the first that fails. -/
def calledHooks : List (Hook α) → List (Hook α)
  | [] => []
  | hook :: rest => hook :: if hook.fault.isSome then [] else calledHooks rest

/-- Whether all hooks close well. -/
def closeWell (hooks : List (Hook α)) : Bool :=
  hooks.all (·.fault.isNone)

/-- What hooks leave when they are called one after the other. -/
def leftBy (hooks : List (Hook α)) (remaining : Option (Remaining α)) :
    Option (Remaining α) :=
  hooks.foldl (fun left hook => left.map hook.effect) remaining

/-- Nothing is handed out any more, whatever the user does. -/
def IsDead (enumeration : Enumeration α) : Prop :=
  ∀ actions, ∀ answer ∈ answers (enumeration.run actions).1, answer = .ok none

/-! ## One action -/

theorem callHooks_asked (hooks : List (Hook α)) (remaining : Option (Remaining α)) :
    (callHooks hooks remaining).2.1 = (calledHooks hooks).flatMap (·.calls) := by
  induction hooks generalizing remaining with
  | nil => rfl
  | cons hook rest ih =>
      rw [callHooks, calledHooks]
      cases hook.fault with
      | none => simp [ih]
      | some fault => simp

theorem callHooks_left (hooks : List (Hook α)) (remaining : Option (Remaining α)) :
    (callHooks hooks remaining).2.2 = leftBy (calledHooks hooks) remaining := by
  induction hooks generalizing remaining with
  | nil => rfl
  | cons hook rest ih =>
      rw [callHooks, calledHooks]
      cases hook.fault with
      | none => exact ih _
      | some fault => rfl

theorem callHooks_ok_iff (hooks : List (Hook α)) (remaining : Option (Remaining α)) :
    (callHooks hooks remaining).1 = .ok () ↔ closeWell hooks = true := by
  induction hooks generalizing remaining with
  | nil => simp [callHooks, closeWell]
  | cons hook rest ih =>
      rw [callHooks]
      cases hfault : hook.fault with
      | none =>
          rw [closeWell, List.all_cons, hfault]
          exact ih _
      | some fault => simp [closeWell, hfault]

theorem close_of_closed {enumeration : Enumeration α} (hclosed : enumeration.closed = true) :
    enumeration.close = (.ok (), [], enumeration) := by
  rw [close, if_pos hclosed]

theorem close_of_open {enumeration : Enumeration α} (hopen : enumeration.closed = false) :
    ∃ outcome, enumeration.close =
      (outcome, (calledHooks enumeration.hooks).flatMap (·.calls),
        { enumeration with
          closed := true
          remaining :=
            if closeWell enumeration.hooks then none
            else leftBy (calledHooks enumeration.hooks) enumeration.remaining }) := by
  have hasked := callHooks_asked enumeration.hooks enumeration.remaining
  have hleft := callHooks_left enumeration.hooks enumeration.remaining
  have hok := callHooks_ok_iff enumeration.hooks enumeration.remaining
  rw [close, hopen, if_neg (by decide)]
  rcases hcall : callHooks enumeration.hooks enumeration.remaining with ⟨outcome, calls, left⟩
  rw [hcall] at hasked hleft hok
  cases outcome with
  | ok _ =>
      have hwell : closeWell enumeration.hooks = true := hok.mp rfl
      exact ⟨.ok (), by rw [← hasked, if_pos hwell]⟩
  | error fault =>
      have hfails : ¬ closeWell enumeration.hooks = true := fun hwell => nomatch hok.mpr hwell
      exact ⟨.error fault, by rw [← hasked, ← hleft, if_neg hfails]⟩

theorem next_eq (enumeration : Enumeration α) :
    enumeration.next.2 =
      { enumeration with remaining := enumeration.next.2.remaining } := by
  rw [next]
  split <;> rfl

/-- What is handed out next depends on the items that are left and on nothing else. -/
theorem next_congr {enumeration other : Enumeration α}
    (hsame : enumeration.remaining = other.remaining) :
    enumeration.next.1 = other.next.1 ∧
      enumeration.next.2.remaining = other.next.2.remaining := by
  rw [next, next, hsame]
  split <;> simp [hsame]

theorem eq_next_of_closes_eq_false {action : Action} (hcloses : action.closes = false) :
    action = .next := by
  cases action with
  | next => rfl
  | close => exact nomatch hcloses
  | leave => exact nomatch hcloses

/-! ## Reactions -/

@[simp]
theorem answers_handed (answer : Except Fault (Option α)) (reactions : List (Reaction α)) :
    answers (.handed answer :: reactions) = answer :: answers reactions :=
  rfl

@[simp]
theorem answers_closed (outcome : Except Fault Unit) (objects : List Closable)
    (reactions : List (Reaction α)) :
    answers (.closed outcome objects :: reactions) = answers reactions :=
  rfl

@[simp]
theorem asked_handed (answer : Except Fault (Option α)) (reactions : List (Reaction α)) :
    asked (.handed answer :: reactions) = asked reactions :=
  rfl

@[simp]
theorem asked_closed (outcome : Except Fault Unit) (objects : List Closable)
    (reactions : List (Reaction α)) :
    asked (.closed outcome objects :: reactions) = objects ++ asked reactions :=
  rfl

theorem run_cons (enumeration : Enumeration α) (action : Action) (rest : List Action) :
    enumeration.run (action :: rest) =
      ((enumeration.react action).1 :: ((enumeration.react action).2.run rest).1,
        ((enumeration.react action).2.run rest).2) :=
  rfl

theorem run_next (enumeration : Enumeration α) (rest : List Action) :
    enumeration.run (.next :: rest) =
      (.handed enumeration.next.1 :: (enumeration.next.2.run rest).1,
        (enumeration.next.2.run rest).2) :=
  rfl

theorem run_closing (enumeration : Enumeration α) {action : Action}
    (hcloses : action.closes = true) (rest : List Action) :
    enumeration.run (action :: rest) =
      (.closed enumeration.close.1 enumeration.close.2.1 ::
          (enumeration.close.2.2.run rest).1,
        (enumeration.close.2.2.run rest).2) := by
  cases action with
  | next => exact nomatch hcloses
  | close => rfl
  | leave => rfl

theorem run_append (enumeration : Enumeration α) (before after : List Action) :
    enumeration.run (before ++ after) =
      ((enumeration.run before).1 ++ ((enumeration.run before).2.run after).1,
        ((enumeration.run before).2.run after).2) := by
  induction before generalizing enumeration with
  | nil => rfl
  | cons action before ih =>
      rw [List.cons_append, run_cons, ih, run_cons]
      rfl

theorem asked_append (first last : List (Reaction α)) :
    asked (first ++ last) = asked first ++ asked last :=
  List.flatMap_append

/-! ## Courses that do not close, and closed enumerations -/

/-- Without closing, an enumeration stays open, and no object is asked. -/
theorem run_of_not_closes {actions : List Action} (hactions : actions.any Action.closes = false)
    (enumeration : Enumeration α) :
    asked (enumeration.run actions).1 = [] ∧
      (enumeration.run actions).2.hooks = enumeration.hooks ∧
      (enumeration.run actions).2.closed = enumeration.closed := by
  induction actions generalizing enumeration with
  | nil => exact ⟨rfl, rfl, rfl⟩
  | cons action rest ih =>
      rw [List.any_cons, Bool.or_eq_false_iff] at hactions
      obtain rfl := eq_next_of_closes_eq_false hactions.1
      obtain ⟨hasked, hhooks, hclosed⟩ := ih hactions.2 enumeration.next.2
      rw [run_next, asked_handed]
      exact ⟨hasked, hhooks.trans (by rw [next_eq]), hclosed.trans (by rw [next_eq])⟩

/-- An enumeration is closed once: later closings ask nobody and leave the items alone,
so that they make no difference to what is handed out. -/
theorem run_of_closed (enumeration other : Enumeration α)
    (hclosed : enumeration.closed = true) (hsame : enumeration.remaining = other.remaining)
    (actions : List Action) :
    let unclosed := other.run (actions.filter (!·.closes))
    (enumeration.run actions).2.closed = true ∧ asked (enumeration.run actions).1 = [] ∧
      answers (enumeration.run actions).1 = answers unclosed.1 ∧
      (enumeration.run actions).2.remaining = unclosed.2.remaining := by
  induction actions generalizing enumeration other with
  | nil => exact ⟨hclosed, rfl, rfl, hsame⟩
  | cons action rest ih =>
      cases hcloses : action.closes with
      | true =>
          rw [run_closing enumeration hcloses, close_of_closed hclosed, asked_closed,
            answers_closed, List.filter_cons_of_neg (by simp [hcloses])]
          exact ih enumeration other hclosed hsame
      | false =>
          obtain rfl := eq_next_of_closes_eq_false hcloses
          obtain ⟨hanswer, hleft⟩ := next_congr hsame
          have hstays : enumeration.next.2.closed = true := by
            rw [next_eq]
            exact hclosed
          obtain ⟨hclosed', hasked, hanswers, hremaining⟩ :=
            ih enumeration.next.2 other.next.2 hstays hleft
          rw [List.filter_cons_of_pos (by rfl), run_next, run_next]
          dsimp only
          rw [asked_handed, answers_handed, answers_handed, hanswer, hanswers]
          exact ⟨hclosed', hasked, rfl, hremaining⟩

/-! ## Enumerations that hand out nothing -/

/-- Nothing is left to hand out, and no fault either. -/
def IsSpent (remaining : Option (Remaining α)) : Prop :=
  remaining = none ∨ remaining = some ⟨[], none⟩

theorem next_of_isSpent {enumeration : Enumeration α}
    (hspent : IsSpent enumeration.remaining) :
    enumeration.next = (.ok none, enumeration) := by
  rw [Enumeration.next]
  rcases hspent with hspent | hspent <;> rw [hspent]

theorem isSpent_of_next {enumeration : Enumeration α}
    (hnext : enumeration.next.1 = .ok none) : IsSpent enumeration.remaining := by
  rw [Enumeration.next] at hnext
  split at hnext
  · exact .inl ‹_›
  · simp at hnext
  · simp at hnext
  · exact .inr ‹_›

theorem run_of_isSpent (enumeration : Enumeration α)
    (hclosed : enumeration.closed = true) (hspent : IsSpent enumeration.remaining)
    (actions : List Action) :
    (∀ answer ∈ answers (enumeration.run actions).1, answer = .ok none) ∧
      IsSpent (enumeration.run actions).2.remaining := by
  induction actions generalizing enumeration with
  | nil => exact ⟨by simp [run, answers], hspent⟩
  | cons action rest ih =>
      obtain ⟨hanswers, hleft⟩ := ih enumeration hclosed hspent
      cases hcloses : action.closes with
      | true =>
          rw [run_closing enumeration hcloses, answers_closed, close_of_closed hclosed]
          exact ⟨hanswers, hleft⟩
      | false =>
          obtain rfl := eq_next_of_closes_eq_false hcloses
          rw [run_next, answers_handed, next_of_isSpent hspent, List.forall_mem_cons]
          exact ⟨⟨rfl, hanswers⟩, hleft⟩

theorem isDead_iff {enumeration : Enumeration α} (hclosed : enumeration.closed = true) :
    enumeration.IsDead ↔ IsSpent enumeration.remaining := by
  constructor
  · intro hdead
    have hmem : enumeration.next.1 ∈ answers (enumeration.run [.next]).1 := by
      rw [run_next, answers_handed]
      exact List.mem_cons_self
    exact isSpent_of_next (hdead [.next] _ hmem)
  · intro hspent actions
    exact (run_of_isSpent enumeration hclosed hspent actions).1

/-! ## Enumerations of listings -/

theorem closed_of_wrap {listing : Listing α} {start : Enumeration α}
    (hstart : wrap listing = .ok start) : start.closed = false := by
  cases listing with
  | notIterable => exact nomatch hstart
  | _ =>
      obtain rfl := Except.ok.inj hstart
      rfl

/-- All hooks are called unless one fails that is not the last. -/
theorem calledHooks_eq_self_iff (hooks : List (Hook α)) :
    calledHooks hooks = hooks ↔ closeWell hooks.dropLast = true := by
  induction hooks with
  | nil => simp [calledHooks, closeWell]
  | cons hook rest ih =>
      rw [calledHooks, List.cons.injEq]
      cases rest with
      | nil => simp [calledHooks, closeWell]
      | cons next others =>
          rw [List.dropLast_cons_of_ne_nil (List.cons_ne_nil next others), closeWell,
            List.all_cons, ← closeWell]
          cases hook.fault with
          | none => simpa using ih
          | some fault => simp

/-- The first action that closes asks the objects of the hooks up to the first that
fails, and no other action asks any.  The course goes on with what they left. -/
theorem exists_run_eq {start : Enumeration α} (hopen : start.closed = false)
    {before : List Action} {closing : Action} (after : List Action)
    (hbefore : before.any Action.closes = false) (hclosing : closing.closes = true) :
    ∃ closed : Enumeration α,
      closed.closed = true ∧
      closed.remaining =
        (if closeWell start.hooks then none
          else leftBy (calledHooks start.hooks) (start.run before).2.remaining) ∧
      asked (start.run (before ++ closing :: after)).1 =
        (calledHooks start.hooks).flatMap (·.calls) ∧
      (start.run (before ++ closing :: after)).2 = (closed.run after).2 := by
  obtain ⟨hnone, hhooks, hstays⟩ := run_of_not_closes hbefore start
  obtain ⟨outcome, hclose⟩ := close_of_open (hstays.trans hopen)
  rw [hhooks] at hclose
  have hclosed : (start.run before).2.close.2.2.closed = true := by rw [hclose]
  obtain ⟨-, hasked, -, -⟩ := run_of_closed _ _ hclosed rfl after
  refine ⟨(start.run before).2.close.2.2, hclosed, by rw [hclose], ?_, ?_⟩
  · rw [run_append, run_closing _ hclosing, asked_append, hnone, asked_closed, hasked,
      List.append_nil, hclose]
    rfl
  · rw [run_append, run_closing _ hclosing]

/-- Whatever is done with an enumeration, once it is closed it counts as closed.  If
all objects behind its listing close well, they were all asked and nothing is handed
out any more.  If one of them fails, the objects behind it are never asked, and the
enumeration hands out what the objects that were asked have left, as if nobody had
closed it. -/
theorem dies_iff (listing : Listing α) {start : Enumeration α}
    (hstart : wrap listing = .ok start) (before : List Action) (closing : Action)
    (after : List Action) (hbefore : before.any Action.closes = false)
    (hclosing : closing.closes = true) :
    let course := start.run (before ++ closing :: after)
    let abandoned : Enumeration α :=
      { start with
        remaining := leftBy (calledHooks start.hooks) (start.run before).2.remaining }
    let unclosed := abandoned.run (after.filter (!·.closes))
    course.2.closed = true ∧
      (asked course.1 = (calledHooks start.hooks).flatMap (·.calls) ∧
        (calledHooks start.hooks = start.hooks ↔ closeWell start.hooks.dropLast = true)) ∧
      (course.2.IsDead ↔ closeWell start.hooks = true ∨ IsSpent unclosed.2.remaining) ∧
      (closeWell start.hooks = false → ∀ later,
        answers (course.2.run later).1 =
          answers (unclosed.2.run (later.filter (!·.closes))).1) := by
  intro course abandoned unclosed
  obtain ⟨closed, hclosed, hremaining, hasked, hcourse⟩ :=
    exists_run_eq (closed_of_wrap hstart) after hbefore hclosing
  have hends : course.2 = (closed.run after).2 := hcourse
  have hstays : course.2.closed = true := by
    rw [hends]
    exact (run_of_closed closed closed hclosed rfl after).1
  -- When a hook fails, the course after the first closing is that of `abandoned`.
  have hgoes (hfails : closeWell start.hooks = false) :
      course.2.remaining = unclosed.2.remaining := by
    have hsame : closed.remaining = abandoned.remaining := by
      rw [hremaining, hfails, if_neg Bool.false_ne_true]
    rw [hends]
    exact (run_of_closed closed abandoned hclosed hsame after).2.2.2
  refine ⟨hstays, ⟨hasked, calledHooks_eq_self_iff _⟩, ?_, ?_⟩
  · rw [isDead_iff hstays]
    cases hwell : closeWell start.hooks with
    | true =>
        have hspent : IsSpent closed.remaining := by
          rw [hremaining, hwell, if_pos rfl]
          exact .inl rfl
        rw [hends]
        exact iff_of_true (run_of_isSpent closed hclosed hspent after).2 (.inl rfl)
    | false =>
        rw [hgoes hwell]
        simp
  · intro hfails later
    exact (run_of_closed course.2 unclosed.2 hstays (hgoes hfails) later).2.2.1

/-- A listing of two numbers, from an object other than its iterator. -/
def numbers (iteratorFault sourceFault : Option Fault) : Source Nat :=
  { items := [1, 2]
    failure := none
    iteratorHook := some { calls := [.iterator], fault := iteratorFault, effect := id }
    sourceHook := some { calls := [.source], fault := sourceFault, effect := id }
    ownIterator := false }

theorem numbers_die : ((ofSource (numbers none none)).run [.next, .leave]).2.IsDead :=
  (dies_iff (.source (numbers none none)) rfl [.next] .leave [] rfl rfl).2.2.1.mpr (.inl rfl)

theorem numbers_survive :
    let fault := Fault.raised "RuntimeError" "close failed"
    let atSource := (ofSource (numbers none (some fault))).run [.close]
    let atIterator := (ofSource (numbers (some fault) none)).run [.close]
    (atSource.2.closed = true ∧ ¬ atSource.2.IsDead) ∧
      asked atIterator.1 = [.iterator] := by
  intro fault atSource atIterator
  refine ⟨⟨rfl, ?_⟩, rfl⟩
  intro hdead
  have hanswer : Except.ok (ε := Fault) (some 1) = .ok none :=
    hdead [.next] (.ok (some 1)) (List.mem_singleton.mpr rfl)
  exact nomatch hanswer

/-- A generator of two numbers.  Closing ends it, even when that fails. -/
def generated (fault : Option Fault) : Source Nat :=
  { items := [1, 2]
    failure := none
    iteratorHook := some { calls := [.both], fault := fault, effect := fun _ => ⟨[], none⟩ }
    sourceHook := none
    ownIterator := true }

example :
    let start := ofSource (generated (some (.raised "RuntimeError" "close failed")))
    answers (start.run [.next, .close, .next]).1 = [.ok (some 1), .ok none] :=
  rfl

end NameRouting.Enumeration
