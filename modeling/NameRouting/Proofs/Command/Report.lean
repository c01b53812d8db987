import NameRouting.Proofs.Command.Environment
import NameRouting.Proofs.Command.Task

/-!
# What a call reports

A call of the program ends with an exit code that tells whether the configuration could not
be used, whether the task was refused, or whether it was carried out.  Lines are printed
only when it was.  A call has no exit code in one case, when an exception escapes that nobody
is prepared for: while the configuration is read, while endpoints are derived, or while lines
are printed.
-/

namespace NameRouting.Command

/-! ## Carrying out an invocation -/

/-- What is configured for an invocation on a machine: what comes of reading the selected file. -/
def Machine.document? (machine : Machine) (invocation : Invocation) :
    Option (Except Fault Value) :=
  Config.document? machine.interpreter machine.files.open? machine.process
    invocation.settings.config

namespace Machine

section

variable {σ : Type} (machine : Machine) (host : Host σ) (state : σ) (invocation : Invocation)

/-- An exception escapes, and these lines are printed by then: nobody is prepared for it where
the document is read and flattened, or it stops the task, where nobody is prepared for any. -/
inductive Escapes : Raised → List String → Prop
  | reading {cause : Raised}
      (hbalks : Balks machine.interpreter (machine.document? invocation) cause) :
      Escapes cause []
  | task {env : Table Value} {cause : Raised} {printed : List String}
      (henv : Provides machine.interpreter (machine.document? invocation)
        invocation.settings.overrides env)
      (hstops : invocation.task.Stops machine.interpreter machine.process host state env
        cause printed) : Escapes cause printed

/-- How an invocation can go: what it ends with, and the lines that it prints. -/
inductive Course : Except Fault Exit → List String → Prop
  | unusable
      (hunusable : IsUnusable machine.interpreter (machine.document? invocation)
        invocation.settings.overrides)
      (hbalks : ∀ cause, ¬ Balks machine.interpreter (machine.document? invocation) cause) :
      Course (.ok .configuration) []
  | refused {env : Table Value} {fault : Fault}
      (henv : Provides machine.interpreter (machine.document? invocation)
        invocation.settings.overrides env)
      (hraises : invocation.task.Raises machine.interpreter machine.process env fault) :
      Course (.ok .naming) []
  | shown {env : Table Value} {lines : List String}
      (henv : Provides machine.interpreter (machine.document? invocation)
        invocation.settings.overrides env)
      (hshows : invocation.task.Shows machine.interpreter machine.process host state env lines)
      (hprints : machine.interpreter.Prints lines none lines) : Course (.ok .success) lines
  | escaped {cause : Raised} {printed : List String}
      (hescapes : Escapes machine host state invocation cause printed) :
      Course (.error (.foreign cause)) printed

end

variable {σ : Type} {machine : Machine} {host : Host σ} {state : σ} {invocation : Invocation}

/-- An exception that escapes is the only one, and so are the lines that are printed by then. -/
theorem Escapes.unique {cause raised : Raised} {printed others : List String}
    (hescapes : machine.Escapes host state invocation cause printed)
    (hothers : machine.Escapes host state invocation raised others) :
    cause = raised ∧ printed = others := by
  cases hescapes with
  | reading hbalks =>
      cases hothers with
      | reading hbalks' => exact ⟨hbalks.unique hbalks', rfl⟩
      | task henv _ => exact absurd hbalks henv.not_balks
  | task henv hstops =>
      cases hothers with
      | reading hbalks => exact absurd hbalks henv.not_balks
      | task henv' hstops' =>
          rw [henv.unique henv'] at hstops
          exact hstops.unique hstops'

/-- No exception escapes from an invocation that ends with an exit code. -/
theorem Course.not_escapes {exit : Exit} {lines printed : List String} {cause : Raised}
    (hcourse : machine.Course host state invocation (.ok exit) lines) :
    ¬ machine.Escapes host state invocation cause printed := by
  intro hescapes
  cases hescapes with
  | reading hbalks =>
      cases hcourse with
      | unusable _ hnone => exact hnone _ hbalks
      | refused henv _ => exact henv.not_balks hbalks
      | shown henv _ _ => exact henv.not_balks hbalks
  | task henv hstops =>
      cases hcourse with
      | unusable hunusable _ => exact henv.not_isUnusable hunusable
      | refused henv' hraises =>
          rw [henv.unique henv'] at hstops
          exact hstops.not_raises hraises
      | shown henv' hshows hprints =>
          rw [henv.unique henv'] at hstops
          exact hstops.not_prints hshows hprints

section

variable {process : Table String} {interpreter : Interpreter} {task : Task} {env : Table Value}

/-- A task that was carried out ends with success. -/
theorem run_finish_of_ok
    (hperform : ((task.perform interpreter process env).run host state).outcome = .ok ()) :
    let performing := (task.perform interpreter process env).run host state
    (finish interpreter process task env).run host state =
      ⟨.ok .success, performing.events, performing.state⟩ := by
  intro performing
  rw [finish, Program.run_handle, Program.run_bind_of_ok host _ hperform]
  change Run.mk _ (performing.events ++ []) _ = _
  rw [List.append_nil]
  rfl

/-- A fault of a task is refused, or nobody handles it. -/
theorem run_finish_of_error {fault : Fault}
    (hperform : ((task.perform interpreter process env).run host state).outcome =
      .error fault) :
    let performing := (task.perform interpreter process env).run host state
    let refusing := (refused fault).run host performing.state
    (finish interpreter process task env).run host state =
      ⟨refusing.outcome, performing.events ++ refusing.events, refusing.state⟩ := by
  intro performing refusing
  rw [finish, Program.run_handle, Program.run_bind_of_error host _ hperform]
  rfl

end

theorem course_run_finish (hhost : host.IsOrderly) {env : Table Value}
    (henv : Provides machine.interpreter (machine.document? invocation)
      invocation.settings.overrides env) :
    let run := (finish machine.interpreter machine.process invocation.task env).run host state
    machine.Course host state invocation run.outcome (Event.lines run.events) := by
  intro run
  have hcourse :=
    Task.course_run machine.interpreter machine.process hhost state env invocation.task
  dsimp only at hcourse
  generalize houtcome : Run.outcome _ = outcome at hcourse
  generalize hlines : Event.lines _ = lines at hcourse
  cases hcourse with
  | refused hraises =>
      have hrun : run = _ := run_finish_of_error houtcome
      rw [hrun, refused, if_pos hraises.isNaming]
      dsimp only
      rw [Event.lines_append, hlines]
      exact .refused henv hraises
  | stopped hstops =>
      have hrun : run = _ := run_finish_of_error houtcome
      rw [hrun, refused, if_neg nofun]
      dsimp only
      rw [Event.lines_append, hlines, Program.fail, Program.run_done, Event.lines, List.append_nil]
      exact .escaped (.task henv hstops)
  | shown hshows hprints =>
      have hrun : run = _ := run_finish_of_ok houtcome
      rw [hrun]
      dsimp only
      rw [hlines]
      exact .shown henv hshows hprints

/-- Without an environment nothing is done and nothing is printed. -/
theorem course_run_unread {fault : Fault}
    (houtcome : (environment machine.interpreter machine.files.open? machine.process
      invocation.settings).outcome = .error fault) :
    let run := (unread fault).run host state
    machine.Course host state invocation run.outcome (Event.lines run.events) := by
  intro run
  rcases isUnusable_or_balks houtcome with ⟨hread, hunusable, hnone⟩ | ⟨cause, rfl, hbalks⟩
  · have hunread : unread fault = _ := if_pos hread
    rw [show run = _ from congrArg (Program.run host · state) hunread]
    exact .unusable hunusable hnone
  · have hunread : unread (.foreign cause) = _ :=
      if_neg (isExpected_iff.not.mpr hbalks.not_isOrdinary)
    rw [show run = _ from congrArg (Program.run host · state) hunread]
    exact .escaped (.reading hbalks)

/-- The records of the configuration come first, and then what is done with it. -/
theorem run_perform (invocation : Invocation) (interpreter : Interpreter)
    (open? : String → Option (Option ByteArray)) (process : Table String) (host : Host σ)
    (state : σ) :
    let configured := environment interpreter open? process invocation.settings
    let going : Run σ Exit := match configured.outcome with
      | .ok env => (finish interpreter process invocation.task env).run host state
      | .error fault => (unread fault).run host state
    (invocation.perform interpreter open? process).run host state =
      ⟨going.outcome, configured.records.map (.told <| .record ·) ++ going.events,
        going.state⟩ := by
  intro configured going
  have hrecords := Program.run_ofLogged host ⟨.ok (), configured.records⟩ state
  have hok := congrArg Run.outcome hrecords
  rw [Invocation.perform]
  dsimp only [going]
  cases configured.outcome <;> rw [Program.run_bind_of_ok host _ hok, hrecords]

theorem course_run_perform (hhost : host.IsOrderly) (invocation : Invocation) :
    let run := (invocation.perform machine.interpreter machine.files.open? machine.process).run
      host state
    machine.Course host state invocation run.outcome (Event.lines run.events) := by
  intro run
  rw [show run = _ from run_perform ..]
  dsimp only
  rw [Event.lines_append, Event.lines_map_record, List.nil_append]
  cases houtcome : (environment machine.interpreter machine.files.open? machine.process
      invocation.settings).outcome with
  | ok env => exact course_run_finish hhost (outcome_environment_eq_ok_iff.mp houtcome)
  | error fault => exact course_run_unread houtcome

end Machine

/-! ## Reports -/

/-- The text that endpoints are printed as: each as it was written, on a line of its own. -/
def endpointsText : Option (List Endpoint) → String
  | none => "(none)\n"
  | some [] => "(empty)\n"
  | some endpoints => String.join (endpoints.map fun endpoint => endpoint.raw ++ "\n")

theorem written_endpointLines (found : Option (List Endpoint)) :
    written (endpointLines found) = endpointsText found := by
  rcases found with _ | (_ | ⟨endpoint, rest⟩)
  · rfl
  · rfl
  · change String.join (((endpoint :: rest).map (·.raw)).map (· ++ "\n")) = _
    rw [List.map_map]
    rfl

/-- The task of an invocation is refused with a failure of the directory. -/
def Machine.Refuses (machine : Machine) (invocation : Invocation) : Prop :=
  ∃ env fault,
    Provides machine.interpreter (machine.document? invocation) invocation.settings.overrides env ∧
      invocation.task.Raises machine.interpreter machine.process env fault ∧
      fault.isNaming = true

/-- What is configured for an invocation cannot be used. -/
def Machine.IsMisconfigured (machine : Machine) (invocation : Invocation) : Prop :=
  IsUnusable machine.interpreter (machine.document? invocation) invocation.settings.overrides

/-- What a call reports about an invocation: it always ends with an exit code, which tells of a
configuration that cannot be used before it tells of a task that is refused; nothing is
printed unless the code is zero; and then the endpoints of the environment are printed when
they are asked for. -/
structure Reports (machine : Machine) (invocation : Invocation) (ending : Ending)
    (after : Machine) : Prop where
  exits : ∃ code, ending = .exit code
  unusable : ending = .exit 1 ↔ machine.IsMisconfigured invocation
  refused : ending = .exit 2 ↔ ¬ machine.IsMisconfigured invocation ∧ machine.Refuses invocation
  succeeded : ending = .exit 0 ↔ ¬ machine.IsMisconfigured invocation ∧ ¬ machine.Refuses invocation
  silent : ∀ code, ending = .exit code → code ≠ 0 → after.output = machine.output
  endpoints : ending = .exit 0 → invocation.task = .endpoints → ∃ env found,
    Provides machine.interpreter (machine.document? invocation) invocation.settings.overrides env ∧
      (Endpoint.configured ⟨none, machine.process⟩ env).outcome = .ok found ∧
      after.output = machine.output ++ endpointsText found

section

variable {σ : Type} {machine : Machine} {host : Host σ} {args : List String} {state : σ}
  {invocation : Invocation}

/-- Logging is all that is set up. -/
theorem Machine.configure_frame (machine : Machine) (settings : Settings) :
    (machine.configure settings).interpreter = machine.interpreter ∧
      (machine.configure settings).files = machine.files ∧
      (machine.configure settings).process = machine.process ∧
      (machine.configure settings).output = machine.output := by
  rw [configure]
  exact ⟨rfl, rfl, rfl, rfl⟩

/-- The ending of a call that carried out an invocation. -/
def Ending.ofOutcome : Except Fault Exit → Ending
  | .ok found => .exit found.code
  | .error cause => .fault cause

/-- Without a log file a call carries out the invocation, and nothing before it can fail. -/
theorem Machine.call_of_read (hread : Invocation.read args = .ok invocation)
    (hlogFile : invocation.settings.logFile = none) {run : Run σ Exit}
    (hrun : (invocation.perform machine.interpreter machine.files.open? machine.process).run
      host state = run) :
    machine.call host args state = (.ofOutcome run.outcome,
      (machine.configure invocation.settings).absorb run.events, run.state) := by
  obtain ⟨hinterpreter, hfiles, hprocess, -⟩ := machine.configure_frame invocation.settings
  have hopened (other : Machine) : other.openLogs invocation.settings = .ok other := by
    rw [openLogs, hlogFile, Option.filter_none]
  rw [call, hread]
  dsimp only
  rw [hopened]
  dsimp only
  rw [hinterpreter, hfiles, hprocess, hrun]
  cases run.outcome <;> rfl

/-- An invocation that ends with an exit code is reported by it. -/
theorem Machine.Course.reports {exit : Exit} {lines : List String} {after : Machine}
    (hcourse : machine.Course host state invocation (.ok exit) lines)
    (hafter : after.output = machine.output ++ written lines) :
    Reports machine invocation (.exit exit.code) after := by
  have hsilent (hlines : lines = []) : after.output = machine.output := by
    rw [hafter, hlines]
    exact String.append_empty
  cases hcourse with
  | unusable hunusable _ =>
      have hmisconfigured : machine.IsMisconfigured invocation := hunusable
      exact {
        exits := ⟨_, rfl⟩
        unusable := by simp [Exit.code, hmisconfigured]
        refused := by simp [Exit.code, hmisconfigured]
        succeeded := by simp [Exit.code, hmisconfigured]
        silent := fun _ _ _ => hsilent rfl
        endpoints := by simp [Exit.code] }
  | refused henv hraises =>
      have husable : ¬ machine.IsMisconfigured invocation := henv.not_isUnusable
      have hrefuses : machine.Refuses invocation := ⟨_, _, henv, hraises, hraises.isNaming⟩
      exact {
        exits := ⟨_, rfl⟩
        unusable := by simp [Exit.code, husable]
        refused := by simp [Exit.code, husable, hrefuses]
        succeeded := by simp [Exit.code, hrefuses]
        silent := fun _ _ _ => hsilent rfl
        endpoints := by simp [Exit.code] }
  | shown henv hshows _ =>
      have husable : ¬ machine.IsMisconfigured invocation := henv.not_isUnusable
      have hrefuses : ¬ machine.Refuses invocation := by
        rintro ⟨env', fault, henv', hraises, -⟩
        rw [← henv.unique henv'] at hraises
        exact hshows.not_raises hraises
      refine {
        exits := ⟨_, rfl⟩
        unusable := by simp [Exit.code, husable]
        refused := by simp [Exit.code, hrefuses]
        succeeded := by simp [Exit.code, husable, hrefuses]
        silent := ?_
        endpoints := ?_ }
      · rintro code ⟨⟩ hcode
        exact absurd rfl hcode
      · intro _ htask
        rw [htask] at hshows
        obtain ⟨-, found, hfound, rfl⟩ := hshows
        rw [written_endpointLines] at hafter
        exact ⟨_, found, henv, hfound, hafter⟩

end

/-- A call without a log file reports consistently exactly if no exception escapes.  Where one
does, the call has no exit code, and the lines that were printed by then are all of its
output. -/
theorem Machine.call_reports_iff {σ : Type} (machine : Machine) {host : Host σ}
    (hhost : host.IsOrderly) {args : List String} {invocation : Invocation}
    (hread : Invocation.read args = .ok invocation)
    (hlogFile : invocation.settings.logFile = none) (state : σ) :
    let ended := machine.call host args state
    (Reports machine invocation ended.1 ended.2.1 ↔
      ∀ cause printed, ¬ machine.Escapes host state invocation cause printed) ∧
    ∀ cause printed, machine.Escapes host state invocation cause printed →
      ended.1 = .fault (.foreign cause) ∧
        ended.2.1.output = machine.output ++ written printed := by
  obtain ⟨run, hrun⟩ : ∃ run, (invocation.perform machine.interpreter machine.files.open?
      machine.process).run host state = run := ⟨_, rfl⟩
  have hcourse : machine.Course host state invocation run.outcome (Event.lines run.events) := by
    rw [← hrun]
    exact course_run_perform hhost invocation
  have hafter := (machine.configure invocation.settings).output_absorb run.events
  rw [(machine.configure_frame invocation.settings).2.2.2] at hafter
  rw [call_of_read hread hlogFile hrun]
  dsimp only
  cases houtcome : run.outcome with
  | ok exit =>
      rw [houtcome] at hcourse
      have hnone (cause : Raised) (printed : List String) :
          ¬ machine.Escapes host state invocation cause printed := hcourse.not_escapes
      exact ⟨iff_of_true (hcourse.reports hafter) hnone,
        fun cause printed hescapes => absurd hescapes (hnone cause printed)⟩
  | error fault =>
      rw [houtcome] at hcourse
      generalize Event.lines run.events = lines at hcourse hafter
      cases hcourse with
      | escaped hescapes =>
          refine ⟨iff_of_false ?_ fun hnone => hnone _ _ hescapes, ?_⟩
          · rintro ⟨⟨code, hcode⟩⟩
            cases hcode
          · intro cause printed hothers
            obtain ⟨rfl, rfl⟩ := hescapes.unique hothers
            exact ⟨rfl, hafter⟩

/-- A host with one entry point in each group, which cannot be loaded. -/
def brokenHost : Host Unit where
  answer
    | .entryPoints group, state => (.ok [⟨0, "broken", group⟩], state)
    | .load _, state => (.error (.raised "ImportError" "gone"), state)
    | _, state => (.error .missingName, state)

theorem brokenHost_isOrderly : brokenHost.IsOrderly := by
  intro request state
  cases request
  case load entry =>
    rintro ⟨kind, message, hfault⟩
    cases hfault
  all_goals trivial

/-- An interpreter without limits, and what comes of reading a document in it. -/
def unlimited (document : Except ReadFault Value) : Interpreter where
  read _ _ := document
  flattening _ := none
  derivation _ := none
  printing _ := none
  home? _ := none

/-- A machine with a single file, at one of the usual places of a configuration, and with what
comes of reading it. -/
def Machine.configuredBy (text : String) (document : Except ReadFault Value) : Machine :=
  .initial (unlimited document) (.ofPaths ["place"] [("naming.yml", .file text.toUTF8)]) .empty

theorem overriddenEndpoints_reported :
    let document : Value := .map [(.text "naming", .map [(.text "provider", .map
      [(.text "url", .text "a://h")])])]
    let machine := Machine.configuredBy "naming:\n  provider:\n    url: a://h\n" (.ok document)
    let args := ["--set", " naming.provider.url = b://h=1, c://h", "endpoints"]
    let settings := ⟨none, [" naming.provider.url = b://h=1, c://h"], "INFO", none⟩
    let ended := machine.call brokenHost args ()
    Reports machine ⟨settings, .endpoints⟩ ended.1 ended.2.1 ∧
      ended.1 = .exit 0 ∧ ended.2.1.output = "b://h=1\nc://h\n" := by
  intro document machine args settings ended
  have hread : Invocation.read args = .ok ⟨settings, .endpoints⟩ := by rfl
  have hending : ended.1 = .exit 0 := by decide +kernel
  have houtput : ended.2.1.output = "b://h=1\nc://h\n" := by decide +kernel
  obtain ⟨hreports, hescapes⟩ := machine.call_reports_iff brokenHost_isOrderly hread rfl ()
  refine ⟨hreports.mpr fun cause printed hescaped => ?_, hending, houtput⟩
  have hfault : ended.1 = .fault (.foreign cause) := (hescapes cause printed hescaped).1
  rw [hending] at hfault
  cases hfault

/-- A character that is written with too large a number stops the reader of its document, and
that is told by no exit code. -/
theorem wideCharacter_escapes :
    let cause := .other "OverflowError" "Python int too large to convert to C int"
    let machine := Machine.configuredBy "a: \"\\UFFFFFFFF\"\n" (.error (.raised cause))
    let ended := machine.call brokenHost ["endpoints"] ()
    ended.1 = .fault (.foreign cause) ∧
      ¬ Reports machine ⟨.initial, .endpoints⟩ ended.1 ended.2.1 := by
  intro cause machine ended
  have hending : ended.1 = .fault (.foreign cause) := by decide +kernel
  refine ⟨hending, fun hreports => ?_⟩
  obtain ⟨code, hcode⟩ := hreports.exits
  rw [hending] at hcode
  cases hcode

/-- A character that the output cannot encode stops the printing halfway. -/
example :
    let cause := Raised.value "UnicodeEncodeError" "'ascii' codec can't encode characters"
    let interpreter := { unlimited (.ok .null) with
      printing := fun line => if line.toList.all (·.toNat < 128) then none else some cause }
    let machine := Machine.initial interpreter (.ofPaths ["place"] []) .empty
    let ended := machine.call brokenHost ["split", "a:é"] ()
    ended.1 = .fault (.foreign cause) ∧ ended.2.1.output = "scheme:   a\n" := by
  decide +kernel

end NameRouting.Command
