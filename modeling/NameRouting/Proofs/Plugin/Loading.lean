import NameRouting.Proofs.Log.Outcome
import NameRouting.Proofs.Program.Yields
import NameRouting.Scripted.Stage
import Mathlib.Data.Prod.Lex
import Mathlib.Data.String.Basic

/-!
# Loading the plugins of a group

Entry points are loaded in the order of their names and values, however they are
reported.  Each of them contributes its service, or a warning when it fails, and has no
part in what the others contribute.  Only an entry point that asks for the whole program
to stop keeps the later ones from being loaded.
-/

namespace NameRouting

/-! ## The order of entry points -/

/-- The place of an entry point in the order of loading: its name, and its value where
names agree. -/
def EntryPoint.rank (entry : EntryPoint) : String ×ₗ String :=
  toLex (entry.name, entry.value)

namespace Service

theorem precedes_iff (a b : EntryPoint) : precedes a b = true ↔ a.rank ≤ b.rank := by
  rw [EntryPoint.rank, EntryPoint.rank, Prod.Lex.toLex_le_toLex]
  simp [precedes]

/-- Entry points in the order in which they are loaded. -/
def ordered (entries : List EntryPoint) : List EntryPoint :=
  entries.mergeSort precedes

theorem ordered_perm (entries : List EntryPoint) : (ordered entries).Perm entries :=
  List.mergeSort_perm entries precedes

theorem pairwise_ordered {entries : List EntryPoint}
    (hdistinct : (entries.map EntryPoint.rank).Nodup) :
    (ordered entries).Pairwise fun a b => a.rank < b.rank := by
  have hsorted : (ordered entries).Pairwise fun a b => precedes a b = true := by
    refine List.pairwise_mergeSort ?_ ?_ entries
    · intro a b c hab hbc
      rw [precedes_iff] at hab hbc ⊢
      exact le_trans hab hbc
    · intro a b
      rw [Bool.or_eq_true, precedes_iff, precedes_iff]
      exact le_total a.rank b.rank
  have hne : (ordered entries).Pairwise fun a b => a.rank ≠ b.rank :=
    List.pairwise_map.mp (((ordered_perm entries).map EntryPoint.rank).nodup_iff.mpr hdistinct)
  refine hsorted.imp₂ ?_ hne
  intro a b hab hne
  exact lt_of_le_of_ne ((precedes_iff a b).mp hab) hne

/-- Entry points in ascending order are determined by what they are. -/
theorem eq_of_pairwise_of_perm {entries others : List EntryPoint}
    (hentries : entries.Pairwise fun a b => a.rank < b.rank)
    (hothers : others.Pairwise fun a b => a.rank < b.rank) (hperm : entries.Perm others) :
    entries = others := by
  refine hperm.eq_of_pairwise ?_ hentries hothers
  intro a b _ _ hab hba
  exact absurd hba (lt_asymm hab)

theorem ordered_eq_of_perm {entries others : List EntryPoint}
    (hdistinct : (entries.map EntryPoint.rank).Nodup) (hperm : others.Perm entries) :
    ordered others = ordered entries := by
  refine eq_of_pairwise_of_perm (pairwise_ordered ?_) (pairwise_ordered hdistinct) ?_
  · exact (hperm.map EntryPoint.rank).nodup_iff.mpr hdistinct
  · exact (ordered_perm others).trans (hperm.trans (ordered_perm entries).symm)

/-- One more entry point is put somewhere among the others, whose order stays. -/
theorem exists_ordered_cons {entries extended : List EntryPoint} {new : EntryPoint}
    (hdistinct : ((new :: entries).map EntryPoint.rank).Nodup)
    (hperm : extended.Perm (new :: entries)) :
    ∃ before after, ordered entries = before ++ after ∧
      ordered extended = before ++ new :: after := by
  have hextended : (ordered extended).Perm (new :: entries) :=
    (ordered_perm extended).trans hperm
  obtain ⟨before, after, hsplit⟩ :=
    List.append_of_mem (hextended.mem_iff.mpr List.mem_cons_self)
  refine ⟨before, after, ?_, hsplit⟩
  have hsorted := pairwise_ordered ((hperm.map EntryPoint.rank).nodup_iff.mpr hdistinct)
  rw [hsplit] at hextended hsorted
  refine eq_of_pairwise_of_perm (pairwise_ordered (List.nodup_cons.mp hdistinct).2) ?_ ?_
  · exact hsorted.sublist (List.Sublist.append_left (List.sublist_cons_self new after) before)
  · exact (ordered_perm entries).trans
      (List.perm_middle.symm.trans hextended).cons_inv.symm

end Service

/-! ## What came of loading -/

/-- The whole program was asked to stop. -/
def Fault.IsInterruption (fault : Fault) : Prop :=
  ∃ kind message, fault = .interrupted kind message

/-- An entry point that was loaded, and what came of it. -/
structure Loading where
  entry : EntryPoint
  outcome : Except Fault Service
deriving DecidableEq

namespace Loading

variable (group : String) (expected : Service.Expected)

/-- The service that was loaded, if it is of the expected kind. -/
def service? (loading : Loading) : Option Service :=
  match loading.outcome with
  | .ok service => if Service.fits expected service.kind then some service else none
  | .error _ => none

/-- Why no service of the expected kind was loaded. -/
def failure? (loading : Loading) : Option Fault :=
  match loading.outcome with
  | .ok service =>
    if Service.fits expected service.kind then none
    else some (.wrongService loading.entry.value expected.word)
  | .error fault => some fault

/-- The warning that is told when no service of the expected kind was loaded. -/
def warning? (loading : Loading) : Option Log.Record :=
  (loading.failure? expected).map (Service.skippedWarning group loading.entry)

/-- The entry point asked for the whole program to stop. -/
def IsInterruption (loading : Loading) : Prop :=
  ∃ fault, loading.outcome = .error fault ∧ fault.IsInterruption

/-- The events of one entry point. -/
def events (loading : Loading) : List Event :=
  .asked (.load loading.entry) loading.outcome ::
    ((loading.warning? group expected).map fun record => .told (.record record)).toList

theorem checked_eq_ok_iff (loading : Loading) {service : Service} :
    Service.checked expected loading.entry loading.outcome = .ok service ↔
      loading.service? expected = some service := by
  obtain ⟨entry, outcome⟩ := loading
  cases outcome with
  | error fault => simp [Service.checked, service?]
  | ok found =>
      by_cases hfits : Service.fits expected found.kind = true <;>
        simp [Service.checked, service?, hfits]

theorem checked_eq_error_iff (loading : Loading) {fault : Fault} :
    Service.checked expected loading.entry loading.outcome = .error fault ↔
      loading.failure? expected = some fault := by
  obtain ⟨entry, outcome⟩ := loading
  cases outcome with
  | error fault' => simp [Service.checked, failure?]
  | ok found =>
      by_cases hfits : Service.fits expected found.kind = true <;>
        simp [Service.checked, failure?, hfits]

theorem failure?_eq_none_of_service? {loading : Loading} {service : Service}
    (hservice : loading.service? expected = some service) :
    loading.failure? expected = none := by
  rw [← checked_eq_ok_iff] at hservice
  rw [Option.eq_none_iff_forall_ne_some]
  intro fault hfault
  rw [← checked_eq_error_iff, hservice] at hfault
  cases hfault

theorem service?_eq_none_of_failure? {loading : Loading} {fault : Fault}
    (hfault : loading.failure? expected = some fault) :
    loading.service? expected = none := by
  rw [Option.eq_none_iff_forall_ne_some]
  intro service hservice
  rw [failure?_eq_none_of_service? expected hservice] at hfault
  cases hfault

theorem failure?_of_error {loading : Loading} {fault : Fault}
    (houtcome : loading.outcome = .error fault) :
    loading.failure? expected = some fault := by
  rw [failure?, houtcome]

/-- An object of another kind is no reason to stop the whole program. -/
theorem outcome_of_failure? {loading : Loading} {fault : Fault}
    (hfailure : loading.failure? expected = some fault) (hfault : fault.IsInterruption) :
    loading.outcome = .error fault := by
  obtain ⟨kind, message, rfl⟩ := hfault
  rw [failure?] at hfailure
  split at hfailure
  case h_1 service houtcome =>
    split at hfailure
    case isTrue => cases hfailure
    case isFalse => cases hfailure
  case h_2 fault houtcome =>
    cases hfailure
    exact houtcome

theorem not_isInterruption_of_failure? {loading : Loading}
    (hfailure : ∀ fault, loading.failure? expected = some fault → ¬ fault.IsInterruption) :
    ¬ loading.IsInterruption := by
  rintro ⟨fault, houtcome, hfault⟩
  exact hfailure fault (failure?_of_error expected houtcome) hfault

end Loading

namespace Event

/-- The entry points that were loaded, in order, with what came of them. -/
def loadings : List Event → List Loading
  | [] => []
  | .asked (.load entry) outcome :: rest => ⟨entry, outcome⟩ :: loadings rest
  | _ :: rest => loadings rest

/-- The warnings that were told, in order. -/
def warnings (events : List Event) : List Log.Record :=
  Log.warnings (records events)

theorem loadings_append (before after : List Event) :
    loadings (before ++ after) = loadings before ++ loadings after := by
  induction before with
  | nil => rfl
  | cons event rest ih =>
      rcases event with ⟨request, outcome⟩ | message
      · cases request <;> simp [loadings, ih]
      · simp [loadings, ih]

theorem records_append (before after : List Event) :
    records (before ++ after) = records before ++ records after := by
  induction before with
  | nil => rfl
  | cons event rest ih =>
      rcases event with ⟨request, outcome⟩ | ⟨record⟩ | text
      · simp [records, ih]
      · simp [records, ih]
      · simp [records, ih]

theorem warnings_append (before after : List Event) :
    warnings (before ++ after) = warnings before ++ warnings after := by
  rw [warnings, records_append, Log.warnings, List.filter_append]
  rfl

end Event

namespace Loading

variable (group : String) (expected : Service.Expected)

theorem loadings_events (loading : Loading) :
    Event.loadings (loading.events group expected) = [loading] := by
  cases hwarning : loading.warning? group expected <;>
    simp [events, hwarning, Event.loadings]

theorem warnings_events (loading : Loading) :
    Event.warnings (loading.events group expected) = (loading.warning? group expected).toList := by
  rw [events, warning?]
  cases loading.failure? expected with
  | none => rfl
  | some fault => rfl

theorem loadings_flatMap (loaded : List Loading) :
    Event.loadings (loaded.flatMap (events group expected)) = loaded := by
  induction loaded with
  | nil => rfl
  | cons loading rest ih =>
      rw [List.flatMap_cons, Event.loadings_append, loadings_events, ih]
      rfl

theorem warnings_flatMap (loaded : List Loading) :
    Event.warnings (loaded.flatMap (events group expected)) =
      loaded.filterMap (warning? group expected) := by
  induction loaded with
  | nil => rfl
  | cons loading rest ih =>
      rw [List.flatMap_cons, Event.warnings_append, warnings_events, ih, List.filterMap_cons]
      cases loading.warning? group expected <;> rfl

end Loading

namespace Service

variable (group : String) (expected : Expected)

/-- How the loading of entry points can go: all of them are loaded, or one of them asks
for the whole program to stop and is the last one that is loaded. -/
inductive Course : List EntryPoint → List Event → Except Fault (List Service) → Prop
  | finished (loaded : List Loading) (hnone : ∀ loading ∈ loaded, ¬ loading.IsInterruption) :
      Course (loaded.map Loading.entry) (loaded.flatMap (Loading.events group expected))
        (.ok (loaded.filterMap (Loading.service? expected)))
  | stopped (loaded : List Loading) (hnone : ∀ loading ∈ loaded, ¬ loading.IsInterruption)
      (last : EntryPoint) (later : List EntryPoint) {fault : Fault}
      (hfault : fault.IsInterruption) :
      Course (loaded.map Loading.entry ++ last :: later)
        (loaded.flatMap (Loading.events group expected) ++ [.asked (.load last) (.error fault)])
        (.error fault)

variable {group expected}

theorem Course.cons {entries : List EntryPoint} {events : List Event}
    {outcome : Except Fault (List Service)} (hcourse : Course group expected entries events outcome)
    (loading : Loading) (hloading : ¬ loading.IsInterruption) :
    Course group expected (loading.entry :: entries)
      (loading.events group expected ++ events)
      (outcome.map ((loading.service? expected).toList ++ ·)) := by
  cases hcourse with
  | finished loaded hnone =>
      have hall : Course group expected _ _ _ := .finished (loading :: loaded)
        (List.forall_mem_cons.mpr ⟨hloading, hnone⟩)
      rw [List.filterMap_cons] at hall
      cases hservice : loading.service? expected with
      | none => rwa [hservice] at hall
      | some service => rwa [hservice] at hall
  | stopped loaded hnone last later hfault =>
      rw [← List.append_assoc]
      exact .stopped (loading :: loaded) (List.forall_mem_cons.mpr ⟨hloading, hnone⟩) last later
        hfault

theorem course_of_yields {entries : List EntryPoint} {events : List Event}
    {outcome : Except Fault (List Service)}
    (h : (loadAll group expected entries).Yields events outcome) :
    Course group expected entries events outcome := by
  induction entries generalizing events outcome with
  | nil =>
      obtain ⟨rfl, rfl⟩ := Program.yields_pure_iff.mp h
      exact .finished [] nofun
  | cons entry rest ih =>
      rw [loadAll, Program.yields_ask_iff] at h
      obtain ⟨answer, later, rfl, hlater⟩ := h
      split at hlater
      case h_1 service hchecked =>
        have hservice := (Loading.checked_eq_ok_iff expected ⟨entry, answer⟩).mp hchecked
        have hnone := Loading.failure?_eq_none_of_service? expected hservice
        obtain ⟨result, hrest, rfl⟩ := Program.yields_map_iff.mp hlater
        have hcourse := (ih hrest).cons ⟨entry, answer⟩
          (Loading.not_isInterruption_of_failure? expected (by simp [hnone]))
        simpa [Loading.events, Loading.warning?, hnone, hservice] using hcourse
      case h_2 kind message hchecked =>
        obtain ⟨rfl, rfl⟩ := Program.yields_fail_iff.mp hlater
        have hfailure := (Loading.checked_eq_error_iff expected ⟨entry, answer⟩).mp hchecked
        have hfault : Fault.IsInterruption (.interrupted kind message) := ⟨kind, message, rfl⟩
        obtain rfl : answer = .error (.interrupted kind message) :=
          Loading.outcome_of_failure? expected hfailure hfault
        exact .stopped [] nofun entry rest hfault
      case h_3 fault hother hchecked =>
        have hfailure := (Loading.checked_eq_error_iff expected ⟨entry, answer⟩).mp hchecked
        have hnone := Loading.service?_eq_none_of_failure? expected hfailure
        have hloading : ¬ Loading.IsInterruption ⟨entry, answer⟩ := by
          refine Loading.not_isInterruption_of_failure? expected ?_
          rintro fault' hfault ⟨kind, message, rfl⟩
          exact hother kind message (Option.some.inj (hfailure.symm.trans hfault))
        rcases Program.yields_bind_iff.mp hlater with
          ⟨fault', hlog, -⟩ | ⟨_, before, after, rfl, hlog, hrest⟩
        · exact nomatch (Program.yields_log_iff.mp hlog).2
        · obtain ⟨rfl, -⟩ := Program.yields_log_iff.mp hlog
          have hcourse := (ih hrest).cons ⟨entry, answer⟩ hloading
          have hsame : outcome.map ((Loading.service? expected ⟨entry, answer⟩).toList ++ ·) =
              outcome := by
            rw [hnone]
            cases outcome <;> rfl
          rw [hsame] at hcourse
          simpa [Loading.events, Loading.warning?, hfailure] using hcourse

/-! ## Loading a group under a host -/

theorem loadAll_onlyAsks (group : String) (expected : Expected) (entries : List EntryPoint) :
    (loadAll group expected entries).OnlyAsks (∃ entry, · = .load entry) := by
  induction entries with
  | nil => trivial
  | cons entry rest ih =>
      refine ⟨⟨entry, rfl⟩, fun answer => ?_⟩
      dsimp only
      split
      · exact ih.bind fun _ => trivial
      · trivial
      · exact Program.OnlyAsks.bind (by trivial) fun _ => ih

end Service

/-- The host with another report of what entry points there are. -/
def Host.reporting {σ : Type} (host : Host σ) (entries : List EntryPoint) : Host σ where
  answer
    | .entryPoints _, state => (.ok entries, state)
    | request, state => host.answer request state

namespace Service

section Run

variable {σ : Type} (group : String) (expected : Expected) (host : Host σ)
  (entries : List EntryPoint) (state : σ)

/-- What is told in the end, unless the loading was stopped. -/
def closing : Except Fault (List Service) → List Event
  | .ok services => [.told (.record (loadedTrace group services.length))]
  | .error _ => []

theorem run_loadAll_reporting (reported : List EntryPoint) :
    (loadAll group expected entries).run (host.reporting reported) state =
      (loadAll group expected entries).run host state := by
  refine (loadAll_onlyAsks group expected entries).run_congr ?_ state
  rintro _ ⟨entry, rfl⟩ state
  rfl

/-- The entry points that are reported are put in order before they are loaded. -/
theorem run_load :
    let loading := (loadAll group expected (ordered entries)).run host state
    (load group expected).run (host.reporting entries) state =
      ⟨loading.outcome, .asked (.entryPoints group) (.ok entries) ::
        (loading.events ++ closing group loading.outcome), loading.state⟩ := by
  intro loading
  have hloading : (loadAll group expected (ordered entries)).run (host.reporting entries) state =
      loading :=
    run_loadAll_reporting group expected host _ state entries
  let finish (services : List Service) : Program (List Service) := do
    Program.log (loadedTrace group services.length)
    return services
  have hrest : (loadAll group expected (ordered entries) >>= finish).run
      (host.reporting entries) state =
        ⟨loading.outcome, loading.events ++ closing group loading.outcome, loading.state⟩ := by
    cases houtcome : loading.outcome with
    | error fault =>
        rw [Program.run_bind_of_error _ finish (hloading ▸ houtcome), hloading, closing,
          List.append_nil]
    | ok services =>
        rw [Program.run_bind_of_ok _ finish (hloading ▸ houtcome), hloading]
        rfl
  have hload : (load group expected).run (host.reporting entries) state =
      let rest := (loadAll group expected (ordered entries) >>= finish).run
        (host.reporting entries) state
      ⟨rest.outcome, .asked (.entryPoints group) (.ok entries) :: rest.events, rest.state⟩ :=
    rfl
  rw [hload, hrest]

theorem loadings_closing (outcome : Except Fault (List Service)) :
    Event.loadings (closing group outcome) = [] := by
  cases outcome <;> rfl

theorem warnings_closing (outcome : Except Fault (List Service)) :
    Event.warnings (closing group outcome) = [] := by
  cases outcome <;> rfl

theorem run_load_of_perm (hdistinct : (entries.map EntryPoint.rank).Nodup)
    {reported : List EntryPoint} (hperm : reported.Perm entries) :
    let run := (load group expected).run (host.reporting entries) state
    (load group expected).run (host.reporting reported) state =
      ⟨run.outcome, .asked (.entryPoints group) (.ok reported) :: run.events.tail, run.state⟩ := by
  intro run
  have hrun : run = _ := run_load group expected host entries state
  rw [hrun, run_load, ordered_eq_of_perm hdistinct hperm]
  rfl

variable {group expected}

/-- What a group that was loaded shows: every entry point was loaded once and in order, the
services are those of the expected kind, and each failure was told in a warning.  When an
entry point asked for the whole program to stop, it was the last one that was loaded. -/
def ShowsOrder (group : String) (expected : Expected) (inOrder : List EntryPoint)
    (run : Run σ (List Service)) : Prop :=
  let loaded := Event.loadings run.events
  let warnings := Event.warnings run.events
  match run.outcome with
  | .ok services =>
    loaded.map Loading.entry = inOrder ∧ (∀ loading ∈ loaded, ¬ loading.IsInterruption) ∧
      services = loaded.filterMap (Loading.service? expected) ∧
      warnings = loaded.filterMap (Loading.warning? group expected)
  | .error fault =>
    fault.IsInterruption ∧ ∃ before last later,
      inOrder = before.map Loading.entry ++ last :: later ∧
        loaded = before ++ [⟨last, .error fault⟩] ∧
        (∀ loading ∈ before, ¬ loading.IsInterruption) ∧
        warnings = before.filterMap (Loading.warning? group expected)

theorem showsOrder_run_load :
    ShowsOrder group expected (ordered entries)
      ((load group expected).run (host.reporting entries) state) := by
  rw [run_load, ShowsOrder]
  have hcourse := course_of_yields
    (Program.yields_run host (loadAll group expected (ordered entries)) state)
  generalize (loadAll group expected (ordered entries)).run host state = loading at hcourse
  obtain ⟨outcome, events, after⟩ := loading
  dsimp only at hcourse ⊢
  have hloadings : Event.loadings (.asked (.entryPoints group) (.ok entries) ::
      (events ++ closing group outcome)) = Event.loadings events := by
    rw [Event.loadings, Event.loadings_append, loadings_closing, List.append_nil]
    exact nofun
  have hwarnings : Event.warnings (.asked (.entryPoints group) (.ok entries) ::
      (events ++ closing group outcome)) = Event.warnings events := by
    have happend := Event.warnings_append events (closing group outcome)
    rwa [warnings_closing, List.append_nil] at happend
  rw [hloadings, hwarnings]
  generalize ordered entries = inOrder at hcourse
  cases hcourse with
  | finished loaded hnone =>
      dsimp only
      rw [Loading.loadings_flatMap, Loading.warnings_flatMap]
      exact ⟨rfl, hnone, rfl, rfl⟩
  | stopped loaded hnone last later hfault =>
      dsimp only
      rw [Event.loadings_append, Event.warnings_append, Loading.loadings_flatMap,
        Loading.warnings_flatMap]
      exact ⟨hfault, loaded, last, later, rfl, rfl, hnone, List.append_nil _⟩

/-! ## Entry points that fail -/

section Behaviour

variable {host entries state} {behaviour : EntryPoint → Except Fault Service}

/-- What comes of an entry point by a rule for all of them. -/
def loadingBy (behaviour : EntryPoint → Except Fault Service) (entry : EntryPoint) : Loading :=
  ⟨entry, behaviour entry⟩

/-- Every entry point that was loaded came out by a rule.  As each one is loaded once, there
is a rule for every run; two runs have one in common when the same came of the same entry
points. -/
def LoadsBy (behaviour : EntryPoint → Except Fault Service) (run : Run σ (List Service)) : Prop :=
  ∀ loading ∈ Event.loadings run.events, loading = loadingBy behaviour loading.entry

theorem loadings_eq_map_of_ok {services : List Service} :
    let run := (load group expected).run (host.reporting entries) state
    LoadsBy behaviour run → run.outcome = .ok services →
      Event.loadings run.events = (ordered entries).map (loadingBy behaviour) := by
  intro run hrule hok
  have hshows : ShowsOrder group expected (ordered entries) run :=
    showsOrder_run_load host entries state
  rw [ShowsOrder, hok] at hshows
  rw [← hshows.1, List.map_map]
  exact (List.map_id _).symm.trans (List.map_congr_left hrule)

/-- A group has services unless an entry point asks for the whole program to stop. -/
theorem run_load_of_loadsBy :
    let run := (load group expected).run (host.reporting entries) state
    let loaded := (ordered entries).map (loadingBy behaviour)
    LoadsBy behaviour run → (∀ entry ∈ entries, ¬ (loadingBy behaviour entry).IsInterruption) →
      run.outcome = .ok (loaded.filterMap (Loading.service? expected)) ∧
        Event.warnings run.events = loaded.filterMap (Loading.warning? group expected) := by
  intro run loaded hrule hnone
  have hshows : ShowsOrder group expected (ordered entries) run :=
    showsOrder_run_load host entries state
  rw [ShowsOrder] at hshows
  cases houtcome : run.outcome with
  | ok services =>
      rw [houtcome] at hshows
      obtain ⟨-, -, hservices, hwarnings⟩ := hshows
      have hloaded : Event.loadings run.events = loaded := loadings_eq_map_of_ok hrule houtcome
      rw [hwarnings, hservices, hloaded]
      exact ⟨rfl, rfl⟩
  | error fault =>
      rw [houtcome] at hshows
      obtain ⟨hfault, before, last, later, horder, hloaded, -⟩ := hshows
      have hmem : last ∈ entries := by
        refine (ordered_perm entries).subset ?_
        rw [horder]
        exact List.mem_append_right _ List.mem_cons_self
      have hlast : (⟨last, .error fault⟩ : Loading) = loadingBy behaviour last := by
        refine hrule _ ?_
        rw [hloaded]
        exact List.mem_append_right _ List.mem_cons_self
      exact absurd ⟨fault, congrArg Loading.outcome hlast.symm, hfault⟩ (hnone last hmem)

/-- An entry point that fails has no part in the services, and it adds its warning to those
of the others. -/
theorem run_load_cons_of_failure? {new : EntryPoint} {fault : Fault}
    (hdistinct : ((new :: entries).map EntryPoint.rank).Nodup)
    (hfailure : (loadingBy behaviour new).failure? expected = some fault)
    (hfault : ¬ fault.IsInterruption) {extended : List EntryPoint}
    (hextended : extended.Perm (new :: entries)) {services : List Service} {τ : Type}
    {other : Host τ} {start : τ} :
    let run := (load group expected).run (host.reporting entries) state
    let extendedRun := (load group expected).run (other.reporting extended) start
    LoadsBy behaviour run → LoadsBy behaviour extendedRun → run.outcome = .ok services →
      extendedRun.outcome = .ok services ∧
        ∃ before after, Event.warnings run.events = before ++ after ∧
          Event.warnings extendedRun.events =
            before ++ skippedWarning group new fault :: after := by
  intro run extendedRun hrule hrule' hok
  have hnone : ∀ entry ∈ entries, ¬ (loadingBy behaviour entry).IsInterruption := by
    intro entry hentry
    have hshows : ShowsOrder group expected (ordered entries) run :=
      showsOrder_run_load host entries state
    rw [ShowsOrder, hok] at hshows
    refine hshows.2.1 _ ?_
    rw [loadings_eq_map_of_ok hrule hok]
    exact List.mem_map_of_mem ((ordered_perm entries).symm.subset hentry)
  have hnone' : ∀ entry ∈ extended, ¬ (loadingBy behaviour entry).IsInterruption := by
    intro entry hentry
    rcases List.mem_cons.mp (hextended.subset hentry) with rfl | hentry
    · refine Loading.not_isInterruption_of_failure? expected ?_
      intro fault' hfailure'
      rwa [← Option.some.inj (hfailure.symm.trans hfailure')]
    · exact hnone entry hentry
  obtain ⟨hrun, hwarnings⟩ := run_load_of_loadsBy hrule hnone
  obtain ⟨hrun', hwarnings'⟩ := run_load_of_loadsBy hrule' hnone'
  obtain ⟨before, after, horder, horder'⟩ := exists_ordered_cons hdistinct hextended
  have hservice := Loading.service?_eq_none_of_failure? expected hfailure
  have hwarning : (loadingBy behaviour new).warning? group expected =
      some (skippedWarning group new fault) := by
    rw [Loading.warning?, hfailure]
    rfl
  rw [horder, List.map_append, List.filterMap_append] at hrun hwarnings
  rw [horder', List.map_append, List.map_cons, List.filterMap_append] at hrun' hwarnings'
  rw [List.filterMap_cons_none hservice] at hrun'
  rw [List.filterMap_cons_some hwarning] at hwarnings'
  exact ⟨hrun'.trans (hrun.symm.trans hok), _, _, hwarnings, hwarnings'⟩

end Behaviour

end Run

/-- Entry points with different names or values are loaded in the order of these, each of
them once, in whatever order they are reported.  The services of a group are those of the
expected kind in this order, and one more entry point that fails adds a warning and nothing
else. -/
theorem load_showsOrder {entries : List EntryPoint}
    (hdistinct : (entries.map EntryPoint.rank).Nodup) (group : String) (expected : Expected)
    {σ : Type} (host : Host σ) (state : σ) :
    let run := (load group expected).run (host.reporting entries) state
    (∃ inOrder : List EntryPoint, inOrder.Perm entries ∧
      (inOrder.Pairwise fun a b => a.rank < b.rank) ∧ ShowsOrder group expected inOrder run) ∧
    (∀ reported : List EntryPoint, reported.Perm entries →
      (load group expected).run (host.reporting reported) state =
        ⟨run.outcome, .asked (.entryPoints group) (.ok reported) :: run.events.tail,
          run.state⟩) ∧
    ∀ {τ : Type} (other : Host τ) (start : τ) (behaviour : EntryPoint → Except Fault Service)
      (new : EntryPoint) (fault : Fault) (extended : List EntryPoint) (services : List Service),
      let extendedRun := (load group expected).run (other.reporting extended) start
      new.rank ∉ entries.map EntryPoint.rank → extended.Perm (new :: entries) →
      LoadsBy behaviour run → LoadsBy behaviour extendedRun →
      (loadingBy behaviour new).failure? expected = some fault → ¬ fault.IsInterruption →
      run.outcome = .ok services →
        extendedRun.outcome = .ok services ∧
        ∃ before after, Event.warnings run.events = before ++ after ∧
          Event.warnings extendedRun.events =
            before ++ skippedWarning group new fault :: after := by
  intro run
  refine ⟨⟨ordered entries, ordered_perm entries, pairwise_ordered hdistinct,
    showsOrder_run_load host entries state⟩, ?_, ?_⟩
  · intro reported hperm
    exact run_load_of_perm group expected host entries state hdistinct hperm
  · intro τ other start behaviour new fault extended services extendedRun hnew hextended hrule
      hrule' hfailure hfault hok
    have hdistinct' : ((new :: entries).map EntryPoint.rank).Nodup :=
      List.nodup_cons.mpr ⟨hnew, hdistinct⟩
    exact run_load_cons_of_failure? hdistinct' hfailure hfault hextended hrule hrule' hok

/-- Two entry points that offer provider plugins, and one between them that is broken. -/
def brokenGroup : Scripted.Stage :=
  { Scripted.Stage.empty with
    entryPoints := [("naming.providers", [
      ⟨⟨0, "b", "m:B"⟩, none, .provider ⟨some "second", .all, none, none⟩⟩,
      ⟨⟨1, "a", "m:A"⟩, none, .provider ⟨some "first", .all, none, none⟩⟩,
      ⟨⟨2, "a", "m:C"⟩, some (.raised "ImportError" "gone"), .other⟩])] }

/-- What comes of the entry points of this group. -/
def brokenGroupOutcome (entry : EntryPoint) : Except Fault Service :=
  if entry.value = "m:A" then .ok ⟨"m.A", .provider ⟨0⟩⟩
  else if entry.value = "m:B" then .ok ⟨"m.B", .provider ⟨1⟩⟩
  else .error (.raised "ImportError" "gone")

theorem brokenGroup_loaded :
    let sound := [⟨0, "b", "m:B"⟩, ⟨1, "a", "m:A"⟩]
    let all := [⟨2, "a", "m:C"⟩, ⟨0, "b", "m:B"⟩, ⟨1, "a", "m:A"⟩]
    let run := fun entries => (load "naming.providers" .provider).run
      (Scripted.host.reporting entries) brokenGroup
    (sound.map EntryPoint.rank).Nodup ∧
      (run sound).outcome = .ok [⟨"m.A", .provider ⟨0⟩⟩, ⟨"m.B", .provider ⟨1⟩⟩] ∧
      (run sound.reverse).outcome = (run sound).outcome ∧
      (run all).outcome = (run sound).outcome ∧
      ∃ before after, Event.warnings (run sound).events = before ++ after ∧
        Event.warnings (run all).events = before ++ skippedWarning "naming.providers"
          ⟨2, "a", "m:C"⟩ (.raised "ImportError" "gone") :: after := by
  intro sound all run
  have hdistinct : (sound.map EntryPoint.rank).Nodup := by
    decide
  have hsound : ordered sound = [⟨1, "a", "m:A"⟩, ⟨0, "b", "m:B"⟩] := by
    refine eq_of_pairwise_of_perm (pairwise_ordered hdistinct) ?_
      ((ordered_perm sound).trans (by decide))
    simp only [EntryPoint.rank, Prod.Lex.toLex_lt_toLex, String.lt_iff_toList_lt]
    decide
  have hall : ordered all = [⟨1, "a", "m:A"⟩, ⟨2, "a", "m:C"⟩, ⟨0, "b", "m:B"⟩] := by
    refine eq_of_pairwise_of_perm (pairwise_ordered (by decide)) ?_
      ((ordered_perm all).trans (by decide))
    simp only [EntryPoint.rank, Prod.Lex.toLex_lt_toLex, String.lt_iff_toList_lt]
    decide
  have houtcome : (run sound).outcome =
      .ok [⟨"m.A", .provider ⟨0⟩⟩, ⟨"m.B", .provider ⟨1⟩⟩] := by
    rw [show run sound = _ from run_load .., hsound]
    decide +kernel
  have hrule : LoadsBy brokenGroupOutcome (run sound) := by
    rw [LoadsBy, show run sound = _ from run_load .., hsound]
    decide +kernel
  have hrule' : LoadsBy brokenGroupOutcome (run all) := by
    rw [LoadsBy, show run all = _ from run_load .., hall]
    decide +kernel
  have hfault : ¬ Fault.IsInterruption (.raised "ImportError" "gone") := nofun
  obtain ⟨-, hreported, hextended⟩ :=
    load_showsOrder hdistinct "naming.providers" .provider Scripted.host brokenGroup
  have hreverse := congrArg Run.outcome (hreported sound.reverse (by decide))
  obtain ⟨hextended, hwarnings⟩ := hextended Scripted.host brokenGroup brokenGroupOutcome
    ⟨2, "a", "m:C"⟩ (.raised "ImportError" "gone") all _ (by decide) (by decide) hrule hrule'
    (by decide) hfault houtcome
  exact ⟨hdistinct, houtcome, hreverse, hextended.trans houtcome.symm, hwarnings⟩

end Service

end NameRouting
