import NameRouting.Program

/-!
# What a program can yield

A program yields events and an outcome when some answers to its requests make it
do so.  Every run under a host is of this kind, so a statement about everything
that a program can yield is a statement about every behaviour of the world
around it.  The relation has no state, and what is yielded by two programs in
sequence is told by what each of them yields.
-/

namespace NameRouting.Program

variable {α β σ : Type}

/-- The events and the outcome of a program under some answers to its
requests. -/
inductive Yields : Program α → List Event → Except Fault α → Prop
  | done (outcome : Except Fault α) : Yields (.done outcome) [] outcome
  | tell {message : Message} {next : Program α} {events : List Event}
      {outcome : Except Fault α} (rest : Yields next events outcome) :
      Yields (.tell message next) (.told message :: events) outcome
  | ask {request : Request} {next : Except Fault request.Answer → Program α}
      {events : List Event} {outcome : Except Fault α}
      (answer : Except Fault request.Answer)
      (rest : Yields (next answer) events outcome) :
      Yields (.ask request next) (.asked request answer :: events) outcome

/-- Every run is one of the things that a program can yield. -/
theorem yields_run (host : Host σ) (program : Program α) (state : σ) :
    program.Yields (program.run host state).events
      (program.run host state).outcome := by
  induction program generalizing state with
  | done outcome => exact .done outcome
  | tell message next ih => exact .tell (ih state)
  | ask request next ih =>
      exact .ask _ (ih (host.answer request state).1 (host.answer request state).2)

/-! ## Elementary programs -/

theorem yields_done_iff {outcome outcome' : Except Fault α} {events : List Event} :
    (Program.done outcome).Yields events outcome' ↔
      events = [] ∧ outcome' = outcome := by
  constructor
  · rintro ⟨⟩
    exact ⟨rfl, rfl⟩
  · rintro ⟨rfl, rfl⟩
    exact .done outcome'

@[simp]
theorem yields_pure_iff {a : α} {outcome : Except Fault α} {events : List Event} :
    (pure a : Program α).Yields events outcome ↔ events = [] ∧ outcome = .ok a :=
  yields_done_iff

@[simp]
theorem yields_fail_iff {fault : Fault} {outcome : Except Fault α}
    {events : List Event} :
    (Program.fail fault).Yields events outcome ↔
      events = [] ∧ outcome = .error fault :=
  yields_done_iff

theorem yields_tell_iff {message : Message} {next : Program α}
    {outcome : Except Fault α} {events : List Event} :
    (Program.tell message next).Yields events outcome ↔
      ∃ rest, events = .told message :: rest ∧ next.Yields rest outcome := by
  constructor
  · rintro ⟨⟩
    exact ⟨_, rfl, by assumption⟩
  · rintro ⟨rest, rfl, hrest⟩
    exact .tell hrest

theorem yields_ask_iff {request : Request}
    {next : Except Fault request.Answer → Program α}
    {outcome : Except Fault α} {events : List Event} :
    (Program.ask request next).Yields events outcome ↔
      ∃ answer rest, events = .asked request answer :: rest ∧
        (next answer).Yields rest outcome := by
  constructor
  · rintro ⟨⟩
    exact ⟨_, _, rfl, by assumption⟩
  · rintro ⟨answer, rest, rfl, hrest⟩
    exact .ask answer hrest

/-- A request yields itself with its answer, whatever that is. -/
@[simp]
theorem yields_request_iff {request : Request}
    {outcome : Except Fault request.Answer} {events : List Event} :
    (Program.request request).Yields events outcome ↔
      events = [.asked request outcome] := by
  rw [Program.request, yields_ask_iff]
  constructor
  · rintro ⟨answer, rest, rfl, hrest⟩
    obtain ⟨rfl, rfl⟩ := yields_done_iff.mp hrest
    rfl
  · rintro rfl
    exact ⟨outcome, [], rfl, .done outcome⟩

theorem yields_tell_done_iff {message : Message} {outcome outcome' : Except Fault α}
    {events : List Event} :
    (Program.tell message (.done outcome)).Yields events outcome' ↔
      events = [.told message] ∧ outcome' = outcome := by
  rw [yields_tell_iff]
  constructor
  · rintro ⟨rest, rfl, hrest⟩
    obtain ⟨rfl, rfl⟩ := yields_done_iff.mp hrest
    exact ⟨rfl, rfl⟩
  · rintro ⟨rfl, rfl⟩
    exact ⟨[], rfl, .done _⟩

@[simp]
theorem yields_log_iff {record : Log.Record} {outcome : Except Fault Unit}
    {events : List Event} :
    (Program.log record).Yields events outcome ↔
      events = [.told (.record record)] ∧ outcome = .ok () :=
  yields_tell_done_iff

/-! ## Programs in sequence -/

theorem bind_assoc {γ : Type} (program : Program α) (next : α → Program β)
    (last : β → Program γ) :
    program >>= next >>= last = program >>= fun a => next a >>= last := by
  induction program with
  | done outcome => cases outcome <;> rfl
  | tell message rest ih => exact congrArg (Program.tell message) ih
  | ask request rest ih => exact congrArg (Program.ask request) (funext ih)

/-- What a program comes to is determined by the events, which hold the answers. -/
theorem Yields.outcome_unique {program : Program α} {events : List Event}
    {outcome other : Except Fault α} (h : program.Yields events outcome)
    (hother : program.Yields events other) : outcome = other := by
  induction h with
  | done outcome => exact (yields_done_iff.mp hother).2.symm
  | tell rest ih =>
      obtain ⟨later, heq, hlater⟩ := yields_tell_iff.mp hother
      obtain ⟨-, rfl⟩ := List.cons.inj heq
      exact ih hlater
  | ask answer rest ih =>
      obtain ⟨answer', later, heq, hlater⟩ := yields_ask_iff.mp hother
      obtain ⟨hasked, rfl⟩ := List.cons.inj heq
      obtain ⟨-, hanswer⟩ := Event.asked.inj hasked
      obtain rfl := eq_of_heq hanswer
      exact ih hlater

/-- What two programs in sequence yield: the first one fails and that is all, or
the second one goes on from the result of the first. -/
theorem yields_bind_iff {program : Program α} {next : α → Program β}
    {outcome : Except Fault β} {events : List Event} :
    (program >>= next).Yields events outcome ↔
      (∃ fault, program.Yields events (.error fault) ∧ outcome = .error fault) ∨
        ∃ a before after, events = before ++ after ∧
          program.Yields before (.ok a) ∧ (next a).Yields after outcome := by
  induction program generalizing events with
  | done result =>
      cases result with
      | error fault =>
          change (Program.done (.error fault)).Yields events outcome ↔ _
          rw [yields_done_iff]
          constructor
          · rintro ⟨rfl, rfl⟩
            exact .inl ⟨fault, .done _, rfl⟩
          · rintro (⟨_, hdone, rfl⟩ | ⟨a, _, _, _, hdone, -⟩)
            · obtain ⟨rfl, heq⟩ := yields_done_iff.mp hdone
              exact ⟨rfl, by rw [Except.error.inj heq]⟩
            · exact nomatch (yields_done_iff.mp hdone).2
      | ok a =>
          change (next a).Yields events outcome ↔ _
          constructor
          · intro hnext
            exact .inr ⟨a, [], events, rfl, .done _, hnext⟩
          · rintro (⟨_, hdone, -⟩ | ⟨b, _, _, rfl, hdone, hnext⟩)
            · exact nomatch (yields_done_iff.mp hdone).2
            · obtain ⟨rfl, heq⟩ := yields_done_iff.mp hdone
              rw [Except.ok.inj heq] at hnext
              exact hnext
  | tell message rest ih =>
      change (Program.tell message (rest >>= next)).Yields events outcome ↔ _
      simp only [yields_tell_iff, ih]
      constructor
      · rintro ⟨_, rfl, ⟨fault, hrest, rfl⟩ | ⟨a, before, after, rfl, hrest, hnext⟩⟩
        · exact .inl ⟨fault, ⟨_, rfl, hrest⟩, rfl⟩
        · exact .inr ⟨a, _ :: before, after, rfl, ⟨before, rfl, hrest⟩, hnext⟩
      · rintro (⟨fault, ⟨_, rfl, hrest⟩, rfl⟩ |
          ⟨a, _, after, rfl, ⟨before, rfl, hrest⟩, hnext⟩)
        · exact ⟨_, rfl, .inl ⟨fault, hrest, rfl⟩⟩
        · exact ⟨_, rfl, .inr ⟨a, before, after, rfl, hrest, hnext⟩⟩
  | ask request rest ih =>
      change (Program.ask request fun answer => rest answer >>= next).Yields
        events outcome ↔ _
      simp only [yields_ask_iff, ih]
      constructor
      · rintro ⟨answer, _, rfl,
          ⟨fault, hrest, rfl⟩ | ⟨a, before, after, rfl, hrest, hnext⟩⟩
        · exact .inl ⟨fault, ⟨answer, _, rfl, hrest⟩, rfl⟩
        · exact .inr
            ⟨a, _ :: before, after, rfl, ⟨answer, before, rfl, hrest⟩, hnext⟩
      · rintro (⟨fault, ⟨answer, _, rfl, hrest⟩, rfl⟩ |
          ⟨a, _, after, rfl, ⟨answer, before, rfl, hrest⟩, hnext⟩)
        · exact ⟨answer, _, rfl, .inl ⟨fault, hrest, rfl⟩⟩
        · exact ⟨answer, _, rfl, .inr ⟨a, before, after, rfl, hrest, hnext⟩⟩

/-- Changing the result of a program leaves its events and its faults alone. -/
theorem yields_map_iff {program : Program α} {f : α → β} {outcome : Except Fault β}
    {events : List Event} :
    (program >>= fun a => pure (f a)).Yields events outcome ↔
      ∃ result, program.Yields events result ∧ outcome = result.map f := by
  rw [yields_bind_iff]
  constructor
  · rintro (⟨fault, hfault, rfl⟩ | ⟨a, before, after, rfl, hprogram, hdone⟩)
    · exact ⟨.error fault, hfault, rfl⟩
    · obtain ⟨rfl, rfl⟩ := yields_pure_iff.mp hdone
      exact ⟨.ok a, by rwa [List.append_nil], rfl⟩
  · rintro ⟨result, hprogram, rfl⟩
    cases result with
    | error fault => exact .inl ⟨fault, hprogram, rfl⟩
    | ok a =>
        exact .inr ⟨a, events, [], (List.append_nil events).symm, hprogram,
          yields_pure_iff.mpr ⟨rfl, rfl⟩⟩

/-- A request in front either fails, or it is answered and the rest follows. -/
theorem yields_request_bind_iff {request : Request}
    {next : request.Answer → Program β} {outcome : Except Fault β}
    {events : List Event} :
    (Program.request request >>= next).Yields events outcome ↔
      (∃ fault, events = [.asked request (.error fault)] ∧ outcome = .error fault) ∨
        ∃ a rest, events = .asked request (.ok a) :: rest ∧
          (next a).Yields rest outcome := by
  simp only [yields_bind_iff, yields_request_iff]
  constructor
  · rintro (hfault | ⟨a, _, rest, rfl, rfl, hnext⟩)
    · exact .inl hfault
    · exact .inr ⟨a, rest, rfl, hnext⟩
  · rintro (hfault | ⟨a, rest, rfl, hnext⟩)
    · exact .inl hfault
    · exact .inr ⟨a, [_], rest, rfl, rfl, hnext⟩

/-! ## The requests that a program can make -/

/-- Every request that a program can come to make satisfies `P`. -/
def OnlyAsks (P : Request → Prop) : Program α → Prop
  | .done _ => True
  | .tell _ next => next.OnlyAsks P
  | .ask request next => P request ∧ ∀ answer, (next answer).OnlyAsks P

theorem OnlyAsks.mono {P Q : Request → Prop} {program : Program α}
    (hprogram : program.OnlyAsks P) (hPQ : ∀ request, P request → Q request) :
    program.OnlyAsks Q := by
  induction program with
  | done outcome => trivial
  | tell message rest ih => exact ih hprogram
  | ask request rest ih =>
      exact ⟨hPQ request hprogram.1, fun answer => ih answer (hprogram.2 answer)⟩

theorem OnlyAsks.bind {P : Request → Prop} {program : Program α}
    {next : α → Program β} (hprogram : program.OnlyAsks P)
    (hnext : ∀ a, (next a).OnlyAsks P) : (program >>= next).OnlyAsks P := by
  induction program with
  | done outcome =>
      cases outcome with
      | error fault => trivial
      | ok a => exact hnext a
  | tell message rest ih => exact ih hprogram
  | ask request rest ih =>
      exact ⟨hprogram.1, fun answer => ih answer (hprogram.2 answer)⟩

theorem onlyAsks_request {P : Request → Prop} {request : Request} (h : P request) :
    (Program.request request).OnlyAsks P :=
  ⟨h, fun _ => trivial⟩

theorem OnlyAsks.of_mem {P : Request → Prop} {program : Program α}
    (hprogram : program.OnlyAsks P) {events : List Event}
    {outcome : Except Fault α} (h : program.Yields events outcome)
    {request : Request} {answer : Except Fault request.Answer}
    (hmem : .asked request answer ∈ events) : P request := by
  induction h with
  | done outcome => simp at hmem
  | tell rest ih =>
      rcases List.mem_cons.mp hmem with heq | hmem
      · exact Event.noConfusion heq
      · exact ih hprogram hmem
  | ask given rest ih =>
      rcases List.mem_cons.mp hmem with heq | hmem
      · obtain ⟨rfl, -⟩ := Event.asked.inj heq
        exact hprogram.1
      · exact ih (hprogram.2 given) hmem

/-- What holds of everything that is told, and of every request that can be made,
holds of all events. -/
theorem OnlyAsks.forall_mem {P : Request → Prop} {Q : Event → Prop}
    {program : Program α} (hprogram : program.OnlyAsks P) {events : List Event}
    {outcome : Except Fault α} (h : program.Yields events outcome)
    (hasked : ∀ request answer, P request → Q (.asked request answer))
    (htold : ∀ message, Q (.told message)) : ∀ event ∈ events, Q event := by
  intro event hmem
  cases event with
  | asked request answer => exact hasked request answer (hprogram.of_mem h hmem)
  | told message => exact htold message

/-- Hosts that answer alike whatever a program can ask give it the same run. -/
theorem OnlyAsks.run_congr {P : Request → Prop} {host other : Host σ} {program : Program α}
    (hprogram : program.OnlyAsks P)
    (hsame : ∀ request, P request → ∀ state, host.answer request state = other.answer request state)
    (state : σ) : program.run host state = program.run other state := by
  induction program generalizing state with
  | done outcome => rfl
  | tell message rest ih => rw [run, run, ih hprogram]
  | ask request rest ih =>
      rw [run, run, hsame request hprogram.1]
      dsimp only
      rw [ih _ (hprogram.2 _)]

/-- The answers in a run are those of the host. -/
theorem answer_of_mem_run {host : Host σ} {program : Program α} {state : σ}
    {request : Request} {answer : Except Fault request.Answer}
    (hmem : .asked request answer ∈ (program.run host state).events) :
    ∃ state', answer = (host.answer request state').1 := by
  induction program generalizing state with
  | done outcome => simp at hmem
  | tell message rest ih =>
      rcases List.mem_cons.mp hmem with heq | hmem
      · exact Event.noConfusion heq
      · exact ih hmem
  | ask given rest ih =>
      rcases List.mem_cons.mp hmem with heq | hmem
      · obtain ⟨rfl, heq⟩ := Event.asked.inj heq
        exact ⟨state, eq_of_heq heq⟩
      · exact ih _ hmem

end NameRouting.Program
