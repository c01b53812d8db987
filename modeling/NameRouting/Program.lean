import NameRouting.Log.Record
import NameRouting.Plugin.Request

/-!
# Programs

A program asks the world around it for answers and tells it messages; what it does next depends on
the answers, and a request may also be answered by a fault. A host gives the answers and may
remember what it was asked before. Running a program under a host yields the outcome beside all
events on the way, so that statements about every behaviour of plugins are statements about every
host.
-/

namespace NameRouting

/-- What a program tells: a log record, or a line of its output. -/
inductive Message where
  | record (record : Log.Record)
  | line (text : String)
deriving Inhabited

/-- A computation that may ask for answers and tell messages before it is done. -/
inductive Program (α : Type) : Type where
  | done (outcome : Except Fault α)
  | tell (message : Message) (next : Program α)
  | ask (request : Request) (next : Except Fault request.Answer → Program α)

namespace Program

variable {α β : Type}

instance : Inhabited (Program α) := ⟨.done (.error default)⟩

/-- Goes on with the result; after a fault nothing else happens. -/
def bind : Program α → (α → Program β) → Program β
  | .done (.ok a), next => next a
  | .done (.error fault), _ => .done (.error fault)
  | .tell message rest, next => .tell message (rest.bind next)
  | .ask request rest, next => .ask request fun answer => (rest answer).bind next

instance : Monad Program where
  pure a := .done (.ok a)
  bind := bind

/-- Ends with a fault. -/
def fail (fault : Fault) : Program α :=
  .done (.error fault)

/-- Asks for an answer; a fault ends the program. -/
def request (request : Request) : Program request.Answer :=
  .ask request .done

/-- Writes a log record. -/
def log (record : Log.Record) : Program Unit :=
  .tell (.record record) (.done (.ok ()))

/-- Prints a line. -/
def print (text : String) : Program Unit :=
  .tell (.line text) (.done (.ok ()))

/-- Takes over an outcome. -/
def ofExcept (outcome : Except Fault α) : Program α :=
  .done outcome

/-- Takes over a computation that only writes log records. -/
def ofLogged (logged : Logged α) : Program α :=
  logged.records.foldr (fun record next => .tell (.record record) next) (.done logged.outcome)

/-- Goes on with a handler after a fault. -/
def handle (handler : Fault → Program α) : Program α → Program α
  | .done (.ok a) => .done (.ok a)
  | .done (.error fault) => handler fault
  | .tell message rest => .tell message (handle handler rest)
  | .ask request rest => .ask request fun answer => handle handler (rest answer)

end Program

/-- Something that happened while a program ran. -/
inductive Event where
  | asked (request : Request) (outcome : Except Fault request.Answer)
  | told (message : Message)

namespace Event

/-- The log records among events, in order. -/
def records : List Event → List Log.Record
  | [] => []
  | .told (.record record) :: rest => record :: records rest
  | _ :: rest => records rest

end Event

/-- A world that answers requests; its state changes with every request. -/
structure Host (σ : Type) where
  answer : (request : Request) → σ → Except Fault request.Answer × σ

/-- What came of running a program: its outcome, the events in order, and the state of the host
after them. -/
structure Run (σ α : Type) where
  outcome : Except Fault α
  events : List Event
  state : σ

/-- Goes on after a run with the state that it left; after a fault nothing else happens. -/
def Run.andThen {σ α β : Type} (first : Run σ α) (next : α → σ → Run σ β) : Run σ β :=
  match first.outcome with
  | .ok a =>
    let rest := next a first.state
    { rest with events := first.events ++ rest.events }
  | .error fault => ⟨.error fault, first.events, first.state⟩

/-- Goes on after the fault of a run, with the state that it left. -/
def Run.recover {σ α : Type} (first : Run σ α) (handler : Fault → σ → Run σ α) : Run σ α :=
  match first.outcome with
  | .ok _ => first
  | .error fault =>
    let rest := handler fault first.state
    { rest with events := first.events ++ rest.events }

/-- Runs a program under a host. -/
def Program.run {σ α : Type} (host : Host σ) : Program α → σ → Run σ α
  | .done outcome, state => ⟨outcome, [], state⟩
  | .tell message next, state =>
    let rest := next.run host state
    { rest with events := .told message :: rest.events }
  | .ask request next, state =>
    let (answer, state) := host.answer request state
    let rest := (next answer).run host state
    { rest with events := .asked request answer :: rest.events }

namespace Program

variable {σ α β : Type}

@[simp]
theorem run_done (host : Host σ) (outcome : Except Fault α) (state : σ) :
    (Program.done outcome).run host state = ⟨outcome, [], state⟩ :=
  rfl

/-- Running a program and then another one is running both in one. -/
theorem run_bind (host : Host σ) (program : Program α) (next : α → Program β) (state : σ) :
    (program.bind next).run host state =
      (program.run host state).andThen fun a after => (next a).run host after := by
  induction program generalizing state with
  | done outcome => cases outcome <;> rfl
  | tell message rest ih =>
    simp only [Program.bind, Program.run, ih, Run.andThen]
    cases (rest.run host state).outcome <;> rfl
  | ask request rest ih =>
    simp only [Program.bind, Program.run, ih, Run.andThen]
    cases ((rest (host.answer request state).1).run host (host.answer request state).2).outcome <;>
      rfl

/-- After a result the next program runs from the state that was left. -/
theorem run_bind_of_ok (host : Host σ) {program : Program α} (next : α → Program β) {state : σ}
    {a : α} (h : (program.run host state).outcome = .ok a) :
    (program >>= next).run host state =
      ⟨((next a).run host (program.run host state).state).outcome,
        (program.run host state).events ++
          ((next a).run host (program.run host state).state).events,
        ((next a).run host (program.run host state).state).state⟩ := by
  change (program.bind next).run host state = _
  rw [run_bind, Run.andThen, h]

/-- After a fault nothing else happens. -/
theorem run_bind_of_error (host : Host σ) {program : Program α} (next : α → Program β)
    {state : σ} {fault : Fault} (h : (program.run host state).outcome = .error fault) :
    (program >>= next).run host state =
      ⟨.error fault, (program.run host state).events, (program.run host state).state⟩ := by
  change (program.bind next).run host state = _
  rw [run_bind, Run.andThen, h]

/-- A handler runs from the state that was left when the fault came up. -/
theorem run_handle (host : Host σ) (handler : Fault → Program α) (program : Program α)
    (state : σ) :
    (program.handle handler).run host state =
      (program.run host state).recover fun fault after => (handler fault).run host after := by
  induction program generalizing state with
  | done outcome => cases outcome <;> rfl
  | tell message rest ih =>
    simp only [Program.handle, Program.run, ih]
    rcases rest.run host state with ⟨_ | _, _, _⟩ <;> rfl
  | ask request rest ih =>
    simp only [Program.handle, Program.run, ih]
    rcases (rest (host.answer request state).1).run host (host.answer request state).2 with
      ⟨_ | _, _, _⟩ <;> rfl

/-- The records of a computation are told, and nothing is asked. -/
theorem run_ofLogged (host : Host σ) (logged : Logged α) (state : σ) :
    (Program.ofLogged logged).run host state =
      ⟨logged.outcome, logged.records.map fun record => .told (.record record), state⟩ := by
  obtain ⟨outcome, records⟩ := logged
  induction records with
  | nil => rfl
  | cons record rest ih =>
    change Program.run host (.tell (.record record) (Program.ofLogged ⟨outcome, rest⟩)) state = _
    rw [Program.run, ih]
    rfl

end Program

end NameRouting
