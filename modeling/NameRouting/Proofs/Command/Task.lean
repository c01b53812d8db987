import NameRouting.Command.Machine
import NameRouting.Proofs.Plugin.Loading
import NameRouting.Proofs.Routing.Rejection

/-!
# What a task prints

Each task of the command line first finds out all that it prints, and then prints it.  A task
that is refused prints nothing.  An exception from outside stops a task while it derives
endpoints, before anything is printed, or while it prints lines, and then the lines in front
are out.
-/

namespace NameRouting

/-! ## Entry points that are in order -/

/-- Nothing goes wrong with an event but what belongs to a single plugin: entry points are
reported, and none of them asks for the whole program to stop. -/
def Event.IsOrderly : Event → Prop
  | .asked (.entryPoints _) (.error _) => False
  | .asked (.load _) (.error fault) => ¬ fault.IsInterruption
  | _ => True

/-- A host whose answers are orderly. -/
def Host.IsOrderly {σ : Type} (host : Host σ) : Prop :=
  ∀ request state, Event.IsOrderly (.asked request (host.answer request state).1)

theorem Host.IsOrderly.of_mem_run {σ α : Type} {host : Host σ} (hhost : host.IsOrderly)
    {program : Program α} {state : σ} :
    ∀ event ∈ (program.run host state).events, event.IsOrderly := by
  intro event hevent
  cases event with
  | told message => trivial
  | asked request answer =>
      obtain ⟨state', rfl⟩ := Program.answer_of_mem_run hevent
      exact hhost request state'

/-! ## Printed lines -/

namespace Event

/-- The lines that were printed, in order. -/
def lines : List Event → List String
  | [] => []
  | .told (.line text) :: rest => text :: lines rest
  | _ :: rest => lines rest

theorem lines_append (before after : List Event) :
    lines (before ++ after) = lines before ++ lines after := by
  induction before with
  | nil => rfl
  | cons event rest ih => rcases event with _ | (_ | _) <;> simp [lines, ih]

@[simp]
theorem lines_map_record (records : List Log.Record) :
    lines (records.map (.told <| .record ·)) = [] := by
  induction records with
  | nil => rfl
  | cons record rest ih => exact ih

@[simp]
theorem lines_map_line (texts : List String) : lines (texts.map (.told <| .line ·)) = texts := by
  induction texts with
  | nil => rfl
  | cons text rest ih => exact congrArg (text :: ·) ih

theorem lines_loadings (group : String) (expected : Service.Expected) (loaded : List Loading) :
    lines (loaded.flatMap (Loading.events group expected)) = [] := by
  induction loaded with
  | nil => rfl
  | cons loading rest ih =>
      rw [List.flatMap_cons, lines_append, ih, Loading.events]
      cases loading.warning? group expected <;> rfl

end Event

namespace Interpreter

/-- Lines are printed one after the other, until the printing of one is stopped: what stops it,
and the lines that are printed by then. -/
inductive Prints (interpreter : Interpreter) : List String → Option Raised → List String → Prop
  | done : Prints interpreter [] none []
  | stopped {line : String} {cause : Raised} (hline : interpreter.printing line = some cause)
      (rest : List String) : Prints interpreter (line :: rest) (some cause) []
  | printed {line : String} {rest printed : List String} {stop : Option Raised}
      (hline : interpreter.printing line = none) (hrest : Prints interpreter rest stop printed) :
      Prints interpreter (line :: rest) stop (line :: printed)

theorem exists_prints (interpreter : Interpreter) (lines : List String) :
    ∃ stop printed, interpreter.Prints lines stop printed := by
  induction lines with
  | nil => exact ⟨none, [], .done⟩
  | cons line rest ih =>
      cases hline : interpreter.printing line with
      | some cause => exact ⟨some cause, [], .stopped hline rest⟩
      | none =>
          obtain ⟨stop, printed, hrest⟩ := ih
          exact ⟨stop, line :: printed, .printed hline hrest⟩

namespace Prints

variable {interpreter : Interpreter} {lines others printed later : List String}
  {stop other : Option Raised}

theorem unique (hprints : interpreter.Prints lines stop printed)
    (hother : interpreter.Prints lines other later) : stop = other ∧ printed = later := by
  induction hprints generalizing later with
  | done =>
      cases hother
      exact ⟨rfl, rfl⟩
  | stopped hline rest =>
      cases hother with
      | stopped hline' _ => exact ⟨hline.symm.trans hline', rfl⟩
      | printed hline' _ => cases hline.symm.trans hline'
  | printed hline hrest ih =>
      cases hother with
      | stopped hline' _ => cases hline.symm.trans hline'
      | printed _ hrest' =>
          obtain ⟨rfl, rfl⟩ := ih hrest'
          exact ⟨rfl, rfl⟩

/-- Lines that nothing stops are all printed. -/
theorem eq_of_none (hprints : interpreter.Prints lines none printed) : printed = lines := by
  generalize hstop : none = stop at hprints
  induction hprints with
  | done => rfl
  | stopped hline rest => cases hstop
  | printed hline hrest ih => rw [ih hstop]

theorem append (hprints : interpreter.Prints lines none printed)
    (hothers : interpreter.Prints others stop later) :
    interpreter.Prints (lines ++ others) stop (printed ++ later) := by
  generalize hnone : none = none' at hprints
  induction hprints with
  | done => exact hothers
  | stopped hline rest => cases hnone
  | printed hline hrest ih => exact .printed hline (ih hnone)

/-- What would come after a line that is stopped does not matter. -/
theorem append_of_some {cause : Raised} (hprints : interpreter.Prints lines (some cause) printed)
    (others : List String) : interpreter.Prints (lines ++ others) (some cause) printed := by
  generalize hstop : some cause = stop at hprints
  induction hprints with
  | done => cases hstop
  | stopped hline rest => exact .stopped hline (rest ++ others)
  | printed hline hrest ih => exact .printed hline (ih hstop)

end Prints

end Interpreter

namespace Command

/-- Lines as they stand in an output, each with a line feed at its end. -/
def written (lines : List String) : String :=
  String.join (lines.map (· ++ "\n"))

/-- The output of a machine grows by the lines that are printed, and by nothing else. -/
theorem Machine.output_absorb (machine : Machine) (events : List Event) :
    (machine.absorb events).output = machine.output ++ written (Event.lines events) := by
  induction events generalizing machine with
  | nil => simp [absorb, written, Event.lines]
  | cons event rest ih =>
      rcases event with ⟨request, answer⟩ | ⟨record⟩ | text
      · exact ih machine
      · exact ih (machine.write record)
      · rw [absorb, ih, Event.lines, written, written, List.map_cons, String.join_cons]
        simp only [String.append_assoc]

section

variable {σ : Type} {interpreter : Interpreter} {lines printed : List String}
  {stop : Option Raised}

/-- What the printing of lines ends with. -/
def printOutcome : Option Raised → Except Fault Unit
  | none => .ok ()
  | some cause => .error (.foreign cause)

theorem run_printAll (hprints : interpreter.Prints lines stop printed) (host : Host σ)
    (state : σ) :
    (printAll interpreter lines).run host state =
      ⟨printOutcome stop, printed.map (.told <| .line ·), state⟩ := by
  induction hprints with
  | done => rfl
  | stopped hline rest =>
      rw [printAll, printLine, hline]
      rfl
  | @printed line rest _ _ hline hrest ih =>
      rw [printAll, printLine, hline]
      change Program.run host (.tell (.line line) (printAll interpreter rest)) state = _
      rw [Program.run, ih]
      rfl

end

/-! ## Loading plugins -/

/-- Without an entry point that stops the whole program, all of them are loaded. -/
theorem exists_of_course {group : String} {expected : Service.Expected}
    {entries : List EntryPoint} {events : List Event} {outcome : Except Fault (List Service)}
    (hcourse : Service.Course group expected entries events outcome)
    (horderly : ∀ event ∈ events, event.IsOrderly) :
    (∃ services, outcome = .ok services) ∧ Event.lines events = [] := by
  cases hcourse with
  | finished loaded hnone => exact ⟨⟨_, rfl⟩, Event.lines_loadings group expected loaded⟩
  | stopped loaded hnone last later hfault =>
      have hlast := horderly _ (List.mem_append_right _ (List.mem_singleton_self _))
      exact absurd hfault hlast

/-- Loading the plugins of a group ends well, and nothing is printed. -/
theorem exists_of_yields_load {group : String} {expected : Service.Expected} {events : List Event}
    {outcome : Except Fault (List Service)}
    (h : (Service.load group expected).Yields events outcome)
    (horderly : ∀ event ∈ events, event.IsOrderly) :
    (∃ services, outcome = .ok services) ∧ Event.lines events = [] := by
  rcases Program.yields_request_bind_iff.mp h with
    ⟨fault, rfl, -⟩ | ⟨entries, loading, rfl, hloading⟩
  · exact (horderly _ List.mem_cons_self).elim
  · have hrest := fun event hevent => horderly event (List.mem_cons_of_mem _ hevent)
    rcases Program.yields_bind_iff.mp hloading with
      ⟨fault, hload, -⟩ | ⟨services, before, after, rfl, hload, hlog⟩
    · obtain ⟨⟨_, hok⟩, -⟩ := exists_of_course (Service.course_of_yields hload) hrest
      cases hok
    · obtain ⟨-, hlines⟩ := exists_of_course (Service.course_of_yields hload)
        fun event hevent => hrest event (List.mem_append_left after hevent)
      obtain ⟨result, htold, rfl⟩ := Program.yields_map_iff.mp hlog
      obtain ⟨rfl, rfl⟩ := Program.yields_log_iff.mp htold
      refine ⟨⟨services, rfl⟩, ?_⟩
      change Event.lines (before ++ [_]) = []
      rw [Event.lines_append, hlines]
      rfl

/-- Plugins are loaded whatever they do, and nothing is printed meanwhile. -/
theorem exists_run_load {σ : Type} {host : Host σ} (hhost : host.IsOrderly) (group : String)
    (expected : Service.Expected) (state : σ) :
    let run := (Service.load group expected).run host state
    ∃ services, run.outcome = .ok services ∧ Event.lines run.events = [] := by
  intro run
  obtain ⟨⟨services, hok⟩, hlines⟩ := exists_of_yields_load
    (Program.yields_run host (Service.load group expected) state) hhost.of_mem_run
  exact ⟨services, hok, hlines⟩

/-- The lines of a group of plugins. -/
def groupLines (heading : String) (services : List Service) : List String :=
  heading :: services.map fun service => "  " ++ service.kindName

/-- A group is printed below its heading; unless that is stopped, its plugins were loaded. -/
theorem run_showGroup {σ : Type} {interpreter : Interpreter} {host : Host σ} {state : σ}
    {heading group : String} {expected : Service.Expected} {services : List Service}
    {printed : List String} {stop : Option Raised}
    (hload : ((Service.load group expected).run host state).outcome = .ok services)
    (hsilent : Event.lines ((Service.load group expected).run host state).events = [])
    (hprints : interpreter.Prints (groupLines heading services) stop printed) :
    let run := (showGroup interpreter heading group expected).run host state
    run.outcome = printOutcome stop ∧ Event.lines run.events = printed ∧
      (stop = none → run.state = ((Service.load group expected).run host state).state) := by
  intro run
  cases hprints with
  | @stopped _ cause hline _ =>
      have hrun : run = ⟨.error (.foreign cause), [], state⟩ := by
        change (showGroup interpreter heading group expected).run host state = _
        rw [showGroup, printLine, hline]
        rfl
      rw [hrun]
      exact ⟨rfl, rfl, nofun⟩
  | printed hline hrest =>
      have hrun : run = Program.run host (.tell (.line heading)
          (Service.load group expected >>= fun services => printAll interpreter
            (services.map fun service => "  " ++ service.kindName))) state := by
        change (showGroup interpreter heading group expected).run host state = _
        rw [showGroup, printLine, hline]
        rfl
      rw [hrun, Program.run, Program.run_bind_of_ok host _ hload, run_printAll hrest]
      refine ⟨rfl, congrArg (heading :: ·) ?_, fun _ => rfl⟩
      rw [Event.lines_append, hsilent, Event.lines_map_line]
      rfl

/-! ## Tasks -/

section

variable {interpreter : Interpreter} {process : Table String} {env : Table Value}

theorem outcome_derive_eq_ok_iff {found : Option (List Endpoint)} :
    (derive interpreter process env).outcome = .ok found ↔
      interpreter.derivation env = none ∧
        (Endpoint.configured ⟨none, process⟩ env).outcome = .ok found := by
  rw [derive]
  rcases interpreter.derivation env with _ | ⟨records, cause⟩ <;> simp

theorem outcome_derive_eq_error_iff {fault : Fault} :
    (derive interpreter process env).outcome = .error fault ↔
      (interpreter.derivation env = none ∧
        (Endpoint.configured ⟨none, process⟩ env).outcome = .error fault) ∨
      ∃ records cause, interpreter.derivation env = some (records, cause) ∧
        fault = .foreign cause := by
  rw [derive]
  rcases interpreter.derivation env with _ | ⟨records, cause⟩ <;> simp [eq_comm]

end

namespace Task

section

variable {σ : Type} (interpreter : Interpreter) (process : Table String) (host : Host σ)
  (state : σ) (env : Table Value)

/-- The faults with which a task is refused. -/
def Raises : Task → Fault → Prop
  | split name, fault => CompositeName.parse name = .error fault
  | endpoints, fault => interpreter.derivation env = none ∧
      (Endpoint.configured ⟨none, process⟩ env).outcome = .error fault
  | plugins, _ => False

/-- The lines that a task shows. -/
def Shows : Task → List String → Prop
  | split name, lines => splitLines name = .ok lines
  | endpoints, lines => interpreter.derivation env = none ∧ ∃ found,
      (Endpoint.configured ⟨none, process⟩ env).outcome = .ok found ∧ lines = endpointLines found
  | plugins, lines =>
      let loading := (Service.load Property.providerGroup .provider).run host state
      ∃ found served, loading.outcome = .ok found ∧
        ((Service.load Property.contextGroup .context).run host loading.state).outcome =
          .ok served ∧
        lines = groupLines "providers:" found ++ groupLines "contexts:" served

/-- An exception stops a task, and these lines are printed by then: none, if it stops the
derivation of endpoints, and else all the lines in front of one that cannot be printed. -/
inductive Stops : Task → Raised → List String → Prop
  | derivation {records : List Log.Record} {cause : Raised}
      (hlimit : interpreter.derivation env = some (records, cause)) : Stops .endpoints cause []
  | printing {task : Task} {lines printed : List String} {cause : Raised}
      (hshows : task.Shows interpreter process host state env lines)
      (hprints : interpreter.Prints lines (some cause) printed) : Stops task cause printed

/-- How a task can go: it is refused before it prints anything, an exception stops it, or it
prints all that it shows. -/
inductive Course (task : Task) : Except Fault Unit → List String → Prop
  | refused {fault : Fault} (hraises : task.Raises interpreter process env fault) :
      Course task (.error fault) []
  | stopped {cause : Raised} {printed : List String}
      (hstops : task.Stops interpreter process host state env cause printed) :
      Course task (.error (.foreign cause)) printed
  | shown {lines : List String} (hshows : task.Shows interpreter process host state env lines)
      (hprints : interpreter.Prints lines none lines) : Course task (.ok ()) lines

end

section

variable {σ : Type} {interpreter : Interpreter} {process : Table String} {host : Host σ}
  {state : σ} {env : Table Value} {task : Task} {lines printed : List String} {cause : Raised}
  {fault : Fault}

theorem Raises.isNaming (hraises : task.Raises interpreter process env fault) :
    fault.isNaming = true := by
  cases task with
  | split name =>
      obtain ⟨cause, rfl⟩ := CompositeName.exists_of_parse_eq_error hraises
      rfl
  | endpoints =>
      obtain ⟨raw, reason, rfl⟩ := Endpoint.exists_of_configured_eq_error hraises.2
      rfl
  | plugins => exact hraises.elim

theorem Shows.unique {others : List String}
    (hshows : task.Shows interpreter process host state env lines)
    (hothers : task.Shows interpreter process host state env others) : lines = others := by
  cases task with
  | split name => exact Except.ok.inj (Eq.trans (Eq.symm hshows) hothers)
  | endpoints =>
      obtain ⟨-, found, hfound, rfl⟩ := hshows
      obtain ⟨-, found', hfound', rfl⟩ := hothers
      cases hfound.symm.trans hfound'
      rfl
  | plugins =>
      obtain ⟨found, served, hfound, hserved, rfl⟩ := hshows
      obtain ⟨found', served', hfound', hserved', rfl⟩ := hothers
      cases hfound.symm.trans hfound'
      cases hserved.symm.trans hserved'
      rfl

/-- A task that shows its lines is not refused. -/
theorem Shows.not_raises (hshows : task.Shows interpreter process host state env lines) :
    ¬ task.Raises interpreter process env fault := by
  intro hraises
  cases task with
  | split name =>
      obtain ⟨parsed, hparsed, -⟩ := Outcome.bind_eq_ok_iff.mp hshows
      cases hparsed.symm.trans hraises
  | endpoints =>
      obtain ⟨-, found, hfound, -⟩ := hshows
      cases hfound.symm.trans hraises.2
  | plugins => exact hraises

/-- A task that an exception stops is not refused. -/
theorem Stops.not_raises
    (hstops : task.Stops interpreter process host state env cause printed) :
    ¬ task.Raises interpreter process env fault := by
  cases hstops with
  | derivation hlimit =>
      rintro ⟨hnone, -⟩
      cases hlimit.symm.trans hnone
  | printing hshows _ => exact hshows.not_raises

theorem Stops.prints_of_shows
    (hstops : task.Stops interpreter process host state env cause printed)
    (hshows : task.Shows interpreter process host state env lines) :
    interpreter.Prints lines (some cause) printed := by
  cases hstops with
  | derivation hlimit => cases hlimit.symm.trans hshows.1
  | printing hothers hprints => rwa [hshows.unique hothers]

/-- A task that prints all its lines is not stopped. -/
theorem Stops.not_prints (hstops : task.Stops interpreter process host state env cause printed)
    (hshows : task.Shows interpreter process host state env lines) :
    ¬ interpreter.Prints lines none lines := by
  intro hprints
  cases (hprints.unique (hstops.prints_of_shows hshows)).1

theorem Stops.unique {raised : Raised} {others : List String}
    (hstops : task.Stops interpreter process host state env cause printed)
    (hothers : task.Stops interpreter process host state env raised others) :
    cause = raised ∧ printed = others := by
  cases hstops with
  | derivation hlimit =>
      cases hothers with
      | derivation hlimit' =>
          cases hlimit.symm.trans hlimit'
          exact ⟨rfl, rfl⟩
      | printing hshows _ => cases hlimit.symm.trans hshows.1
  | printing hshows hprints =>
      obtain ⟨hcause, hprinted⟩ := hprints.unique (hothers.prints_of_shows hshows)
      exact ⟨Option.some.inj hcause, hprinted⟩

/-- A task that knows its lines prints them, as far as that is not stopped. -/
theorem Shows.course {stop : Option Raised}
    (hshows : task.Shows interpreter process host state env lines)
    (hprints : interpreter.Prints lines stop printed) :
    task.Course interpreter process host state env (printOutcome stop) printed := by
  cases stop with
  | none =>
      obtain rfl := hprints.eq_of_none
      exact .shown hshows hprints
  | some cause => exact .stopped (.printing hshows hprints)

/-- A task that finds something out and prints it is refused or stopped when it finds nothing. -/
theorem course_of_found {α : Type} (found : Logged α) (texts : α → List String)
    (hfault : ∀ fault, found.outcome = .error fault →
      task.Course interpreter process host state env (.error fault) [])
    (hshows : ∀ a, found.outcome = .ok a →
      task.Shows interpreter process host state env (texts a)) :
    let run := (Program.ofLogged found >>= fun a => printAll interpreter (texts a)).run host state
    task.Course interpreter process host state env run.outcome (Event.lines run.events) := by
  intro run
  have hfind := Program.run_ofLogged host found state
  cases houtcome : found.outcome with
  | error fault =>
      have hrun : run = _ :=
        Program.run_bind_of_error host _ ((congrArg Run.outcome hfind).trans houtcome)
      rw [hrun, hfind]
      dsimp only
      rw [Event.lines_map_record]
      exact hfault fault houtcome
  | ok a =>
      obtain ⟨stop, printed, hprints⟩ := interpreter.exists_prints (texts a)
      have hrun : run = _ :=
        Program.run_bind_of_ok host _ ((congrArg Run.outcome hfind).trans houtcome)
      rw [hrun, hfind, run_printAll hprints]
      dsimp only
      rw [Event.lines_append, Event.lines_map_record, Event.lines_map_line]
      exact (hshows a houtcome).course hprints

theorem course_run_split (name : String) :
    let run := ((split name).perform interpreter process env).run host state
    (split name).Course interpreter process host state env run.outcome
      (Event.lines run.events) := by
  refine course_of_found ⟨splitLines name, []⟩ id ?_ fun lines hlines => hlines
  intro fault hfault
  rcases Outcome.bind_eq_error_iff.mp hfault with hparse | ⟨_, -, hshown⟩
  · exact .refused hparse
  · cases hshown

theorem course_run_endpoints :
    let run := (endpoints.perform interpreter process env).run host state
    endpoints.Course interpreter process host state env run.outcome (Event.lines run.events) := by
  refine course_of_found (derive interpreter process env) endpointLines ?_ ?_
  · intro fault hfault
    rcases outcome_derive_eq_error_iff.mp hfault with hrefused | ⟨records, cause, hlimit, rfl⟩
    · exact .refused hrefused
    · exact .stopped (.derivation hlimit)
  · intro found hfound
    obtain ⟨hlimit, hconfigured⟩ := outcome_derive_eq_ok_iff.mp hfound
    exact ⟨hlimit, found, hconfigured, rfl⟩

theorem course_run_plugins (hhost : host.IsOrderly) :
    let run := (plugins.perform interpreter process env).run host state
    plugins.Course interpreter process host state env run.outcome (Event.lines run.events) := by
  intro run
  obtain ⟨found, hfound, hsilent⟩ :=
    exists_run_load hhost Property.providerGroup .provider state
  obtain ⟨served, hserved, hsilent'⟩ :=
    exists_run_load hhost Property.contextGroup .context
      ((Service.load Property.providerGroup .provider).run host state).state
  obtain ⟨stop, printed, hprints⟩ := interpreter.exists_prints (groupLines "providers:" found)
  obtain ⟨houtcome, hlines, hstate⟩ := run_showGroup hfound hsilent hprints
  have hshows : plugins.Shows interpreter process host state env _ :=
    ⟨found, served, hfound, hserved, rfl⟩
  cases stop with
  | some cause =>
      have hrun : run = _ := Program.run_bind_of_error host _ houtcome
      rw [hrun]
      dsimp only
      rw [hlines]
      exact hshows.course (hprints.append_of_some _)
  | none =>
      have hrun : run = _ := Program.run_bind_of_ok host _ houtcome
      rw [hstate rfl] at hrun
      obtain ⟨stop, later, hlater⟩ := interpreter.exists_prints (groupLines "contexts:" served)
      obtain ⟨houtcome', hlines', -⟩ := run_showGroup hserved hsilent' hlater
      rw [hrun]
      dsimp only
      rw [Event.lines_append, hlines, houtcome', hlines']
      exact hshows.course (hprints.append hlater)

/-- What comes of every task. -/
theorem course_run (interpreter : Interpreter) (process : Table String) (hhost : host.IsOrderly)
    (state : σ) (env : Table Value) (task : Task) :
    let run := (task.perform interpreter process env).run host state
    task.Course interpreter process host state env run.outcome (Event.lines run.events) :=
  match task with
  | split name => course_run_split name
  | endpoints => course_run_endpoints
  | plugins => course_run_plugins hhost

end

end Task

end Command

end NameRouting
