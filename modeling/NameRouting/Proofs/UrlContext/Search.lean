import Mathlib.Data.List.Forall2
import NameRouting.Proofs.Program.Yields
import NameRouting.Proofs.Table.Update
import NameRouting.Proofs.Text.Separators
import NameRouting.Scripted.Stage
import NameRouting.UrlContext.Registry

/-!
# The search for a URL context

The function that is registered for a scheme is tried first, and the modules below the
package prefixes after it, in their order.  The first context that is made ends the
search, and so does the first fault.  A module that is missing is no fault as long as it
is the wanted one or one of the packages that hold it, so a module that fails to import
something else is never taken for a missing one.
-/

namespace NameRouting.UrlContext

/-! ## Registrations -/

/-- A change of the registry. -/
inductive Registration where
  | register (scheme : String) (factory : UrlFactory)
  | unregister (scheme : String)

namespace Registration

/-- The scheme that a change is about. -/
def scheme : Registration → String
  | register scheme _ => scheme
  | unregister scheme => scheme

/-- The registry with a change made. -/
def apply (registry : Registry) : Registration → Registry
  | register scheme factory => registry.register scheme factory
  | unregister scheme => registry.unregister scheme

end Registration

/-- The registry after a history of changes. -/
def Registry.after (history : List Registration) : Registry :=
  history.foldl Registration.apply .empty

/-- A function was registered for a scheme, and nothing about the scheme was changed since
then. -/
def IsRegistered (history : List Registration) (scheme : String) (factory : UrlFactory) : Prop :=
  ∃ before after, history = before ++ .register scheme factory :: after ∧
    ∀ later ∈ after, later.scheme ≠ scheme

variable {history : List Registration} {scheme : String} {factory : UrlFactory}

theorem not_isRegistered_nil : ¬ IsRegistered [] scheme factory := by
  rintro ⟨before, after, hsplit, -⟩
  simp at hsplit

theorem isRegistered_append_singleton_iff {last : Registration} :
    IsRegistered (history ++ [last]) scheme factory ↔
      last = .register scheme factory ∨
        last.scheme ≠ scheme ∧ IsRegistered history scheme factory := by
  constructor
  · rintro ⟨before, after, hsplit, hafter⟩
    rcases List.eq_nil_or_concat after with rfl | ⟨more, final, rfl⟩
    · obtain ⟨-, hlast⟩ := List.append_inj' hsplit rfl
      exact .inl (List.singleton_inj.mp hlast)
    · rw [List.concat_eq_append, ← List.cons_append, ← List.append_assoc] at hsplit
      obtain ⟨rfl, hlast⟩ := List.append_inj' hsplit rfl
      obtain rfl := List.singleton_inj.mp hlast
      rw [List.concat_eq_append, List.forall_mem_append, List.forall_mem_singleton] at hafter
      exact .inr ⟨hafter.2, before, more, rfl, hafter.1⟩
  · rintro (rfl | ⟨hlast, before, after, rfl, hafter⟩)
    · exact ⟨history, [], rfl, nofun⟩
    · refine ⟨before, after ++ [last], by simp, ?_⟩
      rw [List.forall_mem_append, List.forall_mem_singleton]
      exact ⟨hafter, hlast⟩

theorem factory?_after_iff :
    (Registry.after history).factory? scheme = some factory ↔
      IsRegistered history scheme factory := by
  induction history using List.reverseRecOn with
  | nil => exact ⟨nofun, fun h => absurd h not_isRegistered_nil⟩
  | append_singleton history last ih =>
      have hafter : Registry.after (history ++ [last]) =
          Registration.apply (.after history) last := by
        rw [Registry.after, List.foldl_append]
        rfl
      rw [hafter, isRegistered_append_singleton_iff, ← ih]
      cases last with
      | register other new =>
          by_cases hother : other = scheme
          · subst hother
            have hnew : ((Registry.after history).register other new).factory? other = some new :=
              Table.get?_insert_self _ _ _
            rw [Registration.apply, hnew, Option.some.injEq, Registration.register.injEq]
            simp [Registration.scheme]
          · have hkept : ((Registry.after history).register other new).factory? scheme =
                (Registry.after history).factory? scheme :=
              Table.get?_insert_of_ne _ _ hother
            rw [Registration.apply, hkept, Registration.register.injEq]
            simp [Registration.scheme, hother]
      | unregister other =>
          by_cases hother : other = scheme
          · subst hother
            have hnone : ((Registry.after history).unregister other).factory? other = none :=
              Table.get?_erase_self _ _
            rw [Registration.apply, hnone]
            simp [Registration.scheme]
          · have hkept : ((Registry.after history).unregister other).factory? scheme =
                (Registry.after history).factory? scheme :=
              Table.get?_erase_of_ne _ hother
            rw [Registration.apply, hkept]
            simp [Registration.scheme, hother]

/-! ## Candidates -/

/-- Where a URL context may come from: the function that is registered, or the module below
a package prefix. -/
inductive Candidate where
  | registered (factory : UrlFactory)
  | below (start : String)

/-- The text of the property that lists package prefixes.  A value that counts as not given
has none. -/
def prefixesText (env : Table Value) : List Char :=
  match env.get? Property.urlPackages with
  | none => []
  | some value => if value.isBare then [] else value.toText.toList

/-- The package prefixes of an environment: the text is cut at the colons, and the pieces
that are not blank count, without the blanks around them. -/
def ArePrefixes (env : Table Value) (starts : List String) : Prop :=
  ∃ pieces : List (List Char), prefixesText env = Text.joined ':' pieces ∧ pieces ≠ [] ∧
    (∀ piece ∈ pieces, ':' ∉ piece) ∧
      starts.map String.toList = (pieces.map Text.trim).filter (· ≠ [])

/-- The candidates of a search, in order. -/
inductive AreCandidates (history : List Registration) (scheme : String) (env : Table Value) :
    List Candidate → Prop
  | registered {factory : UrlFactory} {starts : List String}
      (hfactory : IsRegistered history scheme factory) (hstarts : ArePrefixes env starts) :
      AreCandidates history scheme env (.registered factory :: starts.map .below)
  | unregistered {starts : List String}
      (hnone : ∀ factory, ¬ IsRegistered history scheme factory)
      (hstarts : ArePrefixes env starts) :
      AreCandidates history scheme env (starts.map .below)

theorem packagePrefixes_eq (env : Table Value) :
    packagePrefixes env = (((Text.pieces ':' (prefixesText env)).map Text.trim).filter
      (!·.isEmpty)).map String.ofList := by
  have hblank : ((Text.pieces ':' []).map Text.trim).filter (!·.isEmpty) = [] := rfl
  rw [packagePrefixes, prefixesText]
  cases env.get? Property.urlPackages with
  | none => rw [hblank, List.map_nil]
  | some value =>
      dsimp only
      split
      · rw [hblank, List.map_nil]
      · rfl

theorem arePrefixes_iff {env : Table Value} {starts : List String} :
    ArePrefixes env starts ↔ packagePrefixes env = starts := by
  have hfilter (pieces : List (List Char)) :
      (pieces.map Text.trim).filter (· ≠ []) = (pieces.map Text.trim).filter (!·.isEmpty) := by
    refine List.filter_congr fun piece _ => ?_
    cases piece <;> rfl
  rw [packagePrefixes_eq]
  constructor
  · rintro ⟨pieces, htext, hne, hfree, hstarts⟩
    rw [htext, Text.pieces_joined hne hfree, ← hfilter, ← hstarts, List.map_map]
    exact (List.map_congr_left fun start _ => String.ofList_toList).trans (List.map_id starts)
  · rintro rfl
    refine ⟨Text.pieces ':' (prefixesText env), (Text.joined_pieces ':' _).symm,
      Text.pieces_ne_nil ':' _, fun piece => Text.not_mem_of_mem_pieces, ?_⟩
    rw [hfilter, List.map_map]
    exact (List.map_congr_left fun piece _ => String.toList_ofList).trans (List.map_id _)

/-- The candidates that a registry and an environment give. -/
def candidates (registry : Registry) (scheme : String) (env : Table Value) : List Candidate :=
  (registry.factory? scheme).toList.map .registered ++ (packagePrefixes env).map .below

theorem areCandidates_iff {env : Table Value} {found : List Candidate} :
    AreCandidates history scheme env found ↔ found = candidates (.after history) scheme env := by
  rw [candidates]
  constructor
  · rintro (⟨hfactory, hstarts⟩ | ⟨hnone, hstarts⟩)
    · rw [factory?_after_iff.mpr hfactory, arePrefixes_iff.mp hstarts]
      rfl
    · have hfactory : (Registry.after history).factory? scheme = none :=
        Option.eq_none_iff_forall_ne_some.mpr fun factory h =>
          hnone factory (factory?_after_iff.mp h)
      rw [hfactory, arePrefixes_iff.mp hstarts]
      rfl
  · rintro rfl
    cases hfactory : (Registry.after history).factory? scheme with
    | some factory =>
        exact .registered (factory?_after_iff.mp hfactory) (arePrefixes_iff.mpr rfl)
    | none =>
        refine .unregistered (fun factory h => ?_) (arePrefixes_iff.mpr rfl)
        rw [← factory?_after_iff, hfactory] at h
        cases h

/-! ## Missing modules -/

/-- A module is missing: the wanted one, or one of the packages that hold it.  These are
the ones whose names consist of the first parts of its name. -/
def IsMissing (fault : Fault) (wanted : String) : Prop :=
  ∃ message module, fault = .moduleNotFound message (some module) ∧
    Text.pieces '.' module.toList <+: Text.pieces '.' wanted.toList

theorem isOnTheWay_iff {module wanted : String} :
    isOnTheWay module wanted = true ↔
      Text.pieces '.' module.toList <+: Text.pieces '.' wanted.toList := by
  have hjoined := Text.joined_pieces '.' module.toList
  rw [isOnTheWay, Bool.or_eq_true, beq_iff_eq, List.isPrefixOf_iff_prefix, String.toList_append]
  constructor
  · rintro (rfl | ⟨rest, hrest⟩)
    · exact List.prefix_rfl
    · refine ⟨Text.pieces '.' rest, ?_⟩
      rw [← hrest, List.append_assoc, ← Text.pieces_append]
      rfl
  · rintro ⟨rest, hrest⟩
    have hwanted := Text.joined_pieces '.' wanted.toList
    rw [← hrest] at hwanted
    rcases rest with _ | ⟨part, rest⟩
    · left
      rw [List.append_nil, hjoined] at hwanted
      exact String.toList_injective hwanted
    · right
      refine ⟨Text.joined '.' (part :: rest), ?_⟩
      rw [← hwanted, Text.joined_append (Text.pieces_ne_nil _ _) (List.cons_ne_nil _ _), hjoined,
        List.append_assoc]
      rfl

theorem importOutcome_of_isMissing {fault : Fault} {name : String}
    (hmissing : IsMissing fault name) :
    importOutcome name (.error fault) = .ok none := by
  obtain ⟨message, module, rfl, hparts⟩ := hmissing
  exact if_pos (isOnTheWay_iff.mpr hparts)

theorem importOutcome_of_not_isMissing {fault : Fault} {name : String}
    (hfault : ¬ IsMissing fault name) :
    importOutcome name (.error fault) = .error fault := by
  cases fault
  case moduleNotFound message missing =>
    cases missing with
    | none => rfl
    | some module =>
        exact if_neg fun hway => hfault ⟨message, module, rfl, isOnTheWay_iff.mp hway⟩
  all_goals rfl

/-! ## Names of modules -/

/-- A character of a scheme in the name of a module: letters and numbers of all scripts and
the low line stand for themselves, and a low line stands for every other one. -/
inductive Spells : Char → Char → Prop
  | same {c : Char} (hword : c = '_' ∨ Text.isAlphanumeric c = true) : Spells c c
  | lowLine {c : Char} (hlow : c ≠ '_') (hother : Text.isAlphanumeric c = false) : Spells c '_'

/-- The name of the module for a scheme below a package prefix: the prefix, a period, and the
characters of the scheme as a module name spells them. -/
def IsModuleName (start scheme name : String) : Prop :=
  ∃ last, List.Forall₂ Spells scheme.toList last ∧ name.toList = start.toList ++ '.' :: last

theorem spells_iff {c spelt : Char} :
    Spells c spelt ↔ spelt = if Text.isWordCharacter c then c else '_' := by
  rw [Text.isWordCharacter]
  constructor
  · rintro (⟨rfl | hword⟩ | ⟨hlow, hother⟩)
    · rfl
    · rw [hword, Bool.or_true, if_pos rfl]
    · rw [hother, Bool.or_false, if_neg (by simpa using hlow)]
  · rintro rfl
    by_cases hlow : c = '_'
    · rw [hlow]
      exact .same (.inl rfl)
    · cases halpha : Text.isAlphanumeric c with
      | true =>
          rw [Bool.or_true, if_pos rfl]
          exact .same (.inr halpha)
      | false =>
          rw [Bool.or_false, if_neg (by simpa using hlow)]
          exact .lowLine hlow halpha

theorem isModuleName_iff {start scheme name : String} :
    IsModuleName start scheme name ↔ name = moduleName start scheme := by
  have hlast (last : List Char) :
      List.Forall₂ Spells scheme.toList last ↔ last = (schemeModule scheme).toList := by
    have hspells : Spells = fun c spelt =>
        (if Text.isWordCharacter c then c else '_') = spelt := by
      funext c spelt
      exact propext (spells_iff.trans eq_comm)
    rw [schemeModule, String.toList_ofList, hspells, ← List.forall₂_map_left_iff,
      List.forall₂_eq_eq_eq]
    exact eq_comm
  have hname : (moduleName start scheme).toList =
      start.toList ++ '.' :: (schemeModule scheme).toList := by
    rw [moduleName, String.toList_append, String.toList_append, List.append_assoc]
    rfl
  rw [← String.toList_inj, hname]
  constructor
  · rintro ⟨last, hscheme, hlist⟩
    rw [hlist, (hlast last).mp hscheme]
  · intro hlist
    exact ⟨_, (hlast _).mpr rfl, hlist⟩

/-! ## One candidate -/

/-- What comes of importing a module by its name: one that starts with a period is refused at
once. -/
inductive Imports (name : String) : List Event → Except Fault (Option UrlFactory) → Prop
  | relative (hperiod : name.toList.head? = some '.') :
      Imports name [] (.error (.relativeModule name))
  | asked (hperiod : name.toList.head? ≠ some '.') (answer : Except Fault (Option UrlFactory)) :
      Imports name [.asked (.importModule name) answer] answer

/-- What comes of trying a candidate: a context, a fault, or nothing, and then the candidate
is passed over.  A package prefix is passed over when its module is missing, when it has no
function, and when its function makes nothing. -/
inductive Tries (scheme : String) (env : Environment) :
    Candidate → List Event → Except Fault (Option Context) → Prop
  | registered {factory : UrlFactory} (answer : Except Fault (Option Context)) :
      Tries scheme env (.registered factory) [.asked (.urlContext factory scheme env) answer] answer
  | missing {start name : String} {events : List Event} {fault : Fault}
      (hname : IsModuleName start scheme name) (himport : Imports name events (.error fault))
      (hmissing : IsMissing fault name) :
      Tries scheme env (.below start) events (.ok none)
  | broken {start name : String} {events : List Event} {fault : Fault}
      (hname : IsModuleName start scheme name) (himport : Imports name events (.error fault))
      (hfault : ¬ IsMissing fault name) :
      Tries scheme env (.below start) events (.error fault)
  | noFunction {start name : String} {events : List Event}
      (hname : IsModuleName start scheme name) (himport : Imports name events (.ok none)) :
      Tries scheme env (.below start) events (.ok none)
  | called {start name : String} {events : List Event} {factory : UrlFactory}
      (hname : IsModuleName start scheme name)
      (himport : Imports name events (.ok (some factory)))
      (answer : Except Fault (Option Context)) :
      Tries scheme env (.below start)
        (events ++ [.asked (.urlContext factory scheme env) answer]) answer

/-- What is told when a candidate made a context. -/
def notice (scheme : String) : Candidate → List Event
  | .registered _ => []
  | .below start => [.told (.record (foundTrace start scheme))]

section Candidate

variable {env : Environment} {start : String} {events : List Event}
  {outcome : Except Fault (Option Context)}

theorem yields_candidate_iff {found : Except Fault (Option UrlFactory)} :
    (candidate start scheme).Yields events found ↔ ∃ answer,
      Imports (moduleName start scheme) events answer ∧
        found = importOutcome (moduleName start scheme) answer := by
  rw [candidate]
  by_cases hperiod : (moduleName start scheme).toList.head? = some '.'
  · rw [if_pos hperiod, Program.yields_fail_iff]
    constructor
    · rintro ⟨rfl, rfl⟩
      exact ⟨_, .relative hperiod, rfl⟩
    · rintro ⟨answer, himport, rfl⟩
      cases himport with
      | relative => exact ⟨rfl, rfl⟩
      | asked hother => exact absurd hperiod hother
  · rw [if_neg hperiod, Program.yields_ask_iff]
    constructor
    · rintro ⟨answer, rest, rfl, hrest⟩
      obtain ⟨rfl, rfl⟩ := Program.yields_done_iff.mp hrest
      exact ⟨answer, .asked hperiod answer, rfl⟩
    · rintro ⟨answer, himport, rfl⟩
      cases himport with
      | relative hother => exact absurd hother hperiod
      | asked => exact ⟨answer, [], rfl, .done _⟩

/-- A package prefix is tried by importing its module and calling the function in it. -/
theorem yields_below_iff :
    (candidate start scheme >>= fun factory => made factory scheme env).Yields events outcome ↔
      Tries scheme env (.below start) events outcome := by
  have hname : IsModuleName start scheme (moduleName start scheme) := isModuleName_iff.mpr rfl
  rw [Program.yields_bind_iff]
  constructor
  · rintro (⟨fault, hfault, rfl⟩ | ⟨factory, before, after, rfl, hfactory, hmade⟩)
    · obtain ⟨answer, himport, houtcome⟩ := yields_candidate_iff.mp hfault
      rcases answer with given | found
      · by_cases hmissing : IsMissing given (moduleName start scheme)
        · rw [importOutcome_of_isMissing hmissing] at houtcome
          cases houtcome
        · rw [importOutcome_of_not_isMissing hmissing] at houtcome
          cases houtcome
          exact .broken hname himport hmissing
      · cases houtcome
    · obtain ⟨answer, himport, houtcome⟩ := yields_candidate_iff.mp hfactory
      rcases answer with given | found
      · by_cases hmissing : IsMissing given (moduleName start scheme)
        · rw [importOutcome_of_isMissing hmissing] at houtcome
          cases houtcome
          obtain ⟨rfl, rfl⟩ := Program.yields_pure_iff.mp hmade
          rw [List.append_nil]
          exact .missing hname himport hmissing
        · rw [importOutcome_of_not_isMissing hmissing] at houtcome
          cases houtcome
      · cases houtcome
        cases factory with
        | none =>
            obtain ⟨rfl, rfl⟩ := Program.yields_pure_iff.mp hmade
            rw [List.append_nil]
            exact .noFunction hname himport
        | some factory =>
            obtain rfl := Program.yields_request_iff.mp hmade
            exact .called hname himport outcome
  · intro htry
    cases htry with
    | @missing _ _ _ fault hother himport hmissing =>
        obtain rfl := isModuleName_iff.mp hother
        refine .inr ⟨none, events, [], (List.append_nil events).symm, ?_, .done _⟩
        exact yields_candidate_iff.mpr
          ⟨.error fault, himport, (importOutcome_of_isMissing hmissing).symm⟩
    | @broken _ _ _ fault hother himport hfault =>
        obtain rfl := isModuleName_iff.mp hother
        refine .inl ⟨fault, ?_, rfl⟩
        exact yields_candidate_iff.mpr
          ⟨.error fault, himport, (importOutcome_of_not_isMissing hfault).symm⟩
    | noFunction hother himport =>
        obtain rfl := isModuleName_iff.mp hother
        refine .inr ⟨none, events, [], (List.append_nil events).symm, ?_, .done _⟩
        exact yields_candidate_iff.mpr ⟨.ok none, himport, rfl⟩
    | @called _ _ before factory hother himport =>
        obtain rfl := isModuleName_iff.mp hother
        refine .inr ⟨some factory, before, _, rfl, ?_, Program.yields_request_iff.mpr rfl⟩
        exact yields_candidate_iff.mpr ⟨.ok (some factory), himport, rfl⟩

end Candidate

/-! ## The whole search -/

section Search

variable (scheme : String) (env : Environment)

/-- How a search can go: every candidate is passed over, or one of them decides, and then no
later one is tried. -/
inductive Course : List Candidate → List Event → Except Fault (Option Context) → Prop
  | exhausted : Course [] [] (.ok none)
  | pass {candidate : Candidate} {rest : List Candidate} {events later : List Event}
      {outcome : Except Fault (Option Context)} (htry : Tries scheme env candidate events (.ok none))
      (hrest : Course rest later outcome) : Course (candidate :: rest) (events ++ later) outcome
  | found {candidate : Candidate} {events : List Event} {context : Context}
      (htry : Tries scheme env candidate events (.ok (some context))) (rest : List Candidate) :
      Course (candidate :: rest) (events ++ notice scheme candidate) (.ok (some context))
  | failed {candidate : Candidate} {events : List Event} {fault : Fault}
      (htry : Tries scheme env candidate events (.error fault)) (rest : List Candidate) :
      Course (candidate :: rest) events (.error fault)

/-- Candidates that were all passed over, with the events of each. -/
def PassesAll (passed : List Candidate) (events : List Event) : Prop :=
  ∃ parts, List.Forall₂ (fun candidate part => Tries scheme env candidate part (.ok none)) passed
    parts ∧ events = parts.flatten

/-- A candidate made a context after all in front of it were passed over, and nothing
happened after that. -/
def Finds (tried : List Candidate) (events : List Event) (context : Context) : Prop :=
  ∃ passed candidate later before last, tried = passed ++ candidate :: later ∧
    PassesAll scheme env passed before ∧ Tries scheme env candidate last (.ok (some context)) ∧
      events = before ++ last ++ notice scheme candidate

/-- A candidate failed after all in front of it were passed over, and nothing happened after
that. -/
def Fails (tried : List Candidate) (events : List Event) (fault : Fault) : Prop :=
  ∃ passed candidate later before last, tried = passed ++ candidate :: later ∧
    PassesAll scheme env passed before ∧ Tries scheme env candidate last (.error fault) ∧
      events = before ++ last

variable {scheme env} {tried : List Candidate} {events : List Event}
  {outcome : Except Fault (Option Context)}

theorem passesAll_nil_iff : PassesAll scheme env [] events ↔ events = [] := by
  simp [PassesAll]

theorem passesAll_cons_iff {candidate : Candidate} {rest : List Candidate} :
    PassesAll scheme env (candidate :: rest) events ↔
      ∃ part later, Tries scheme env candidate part (.ok none) ∧
        PassesAll scheme env rest later ∧ events = part ++ later := by
  constructor
  · rintro ⟨parts, hparts, rfl⟩
    obtain ⟨part, others, htry, hothers, rfl⟩ := List.forall₂_cons_left_iff.mp hparts
    exact ⟨part, others.flatten, htry, ⟨others, hothers, rfl⟩, List.flatten_cons⟩
  · rintro ⟨part, _, htry, ⟨parts, hparts, rfl⟩, rfl⟩
    exact ⟨part :: parts, .cons htry hparts, List.flatten_cons.symm⟩

theorem course_append {passed : List Candidate} {before : List Event}
    (hpassed : PassesAll scheme env passed before) (hrest : Course scheme env tried events outcome) :
    Course scheme env (passed ++ tried) (before ++ events) outcome := by
  induction passed generalizing before with
  | nil =>
      rw [passesAll_nil_iff.mp hpassed]
      exact hrest
  | cons candidate passed ih =>
      obtain ⟨part, later, htry, hlater, rfl⟩ := passesAll_cons_iff.mp hpassed
      rw [List.append_assoc]
      exact .pass htry (ih hlater)

theorem course_none_iff :
    Course scheme env tried events (.ok none) ↔ PassesAll scheme env tried events := by
  constructor
  · intro hcourse
    generalize houtcome : (.ok none : Except Fault (Option Context)) = outcome at hcourse
    induction hcourse with
    | exhausted => exact passesAll_nil_iff.mpr rfl
    | pass htry _ ih => exact passesAll_cons_iff.mpr ⟨_, _, htry, ih houtcome, rfl⟩
    | found => cases houtcome
    | failed => cases houtcome
  · intro hpassed
    have hcourse := course_append hpassed .exhausted
    rwa [List.append_nil, List.append_nil] at hcourse

theorem course_some_iff {context : Context} :
    Course scheme env tried events (.ok (some context)) ↔
      Finds scheme env tried events context := by
  constructor
  · intro hcourse
    generalize houtcome : (.ok (some context) : Except Fault (Option Context)) = outcome at hcourse
    induction hcourse with
    | exhausted => cases houtcome
    | pass htry _ ih =>
        obtain ⟨passed, candidate, later, before, last, rfl, hpassed, hlast, rfl⟩ := ih houtcome
        refine ⟨_ :: passed, candidate, later, _, last, rfl,
          passesAll_cons_iff.mpr ⟨_, before, htry, hpassed, rfl⟩, hlast, ?_⟩
        simp
    | @found candidate events _ htry rest =>
        cases houtcome
        exact ⟨[], candidate, rest, [], events, rfl, passesAll_nil_iff.mpr rfl, htry, rfl⟩
    | failed => cases houtcome
  · rintro ⟨passed, candidate, later, before, last, rfl, hpassed, hlast, rfl⟩
    rw [List.append_assoc]
    exact course_append hpassed (.found hlast later)

theorem course_error_iff {fault : Fault} :
    Course scheme env tried events (.error fault) ↔ Fails scheme env tried events fault := by
  constructor
  · intro hcourse
    generalize houtcome : (.error fault : Except Fault (Option Context)) = outcome at hcourse
    induction hcourse with
    | exhausted => cases houtcome
    | pass htry _ ih =>
        obtain ⟨passed, candidate, later, before, last, rfl, hpassed, hlast, rfl⟩ := ih houtcome
        refine ⟨_ :: passed, candidate, later, _, last, rfl,
          passesAll_cons_iff.mpr ⟨_, before, htry, hpassed, rfl⟩, hlast, ?_⟩
        simp
    | found => cases houtcome
    | @failed candidate events _ htry rest =>
        cases houtcome
        exact ⟨[], candidate, rest, [], events, rfl, passesAll_nil_iff.mpr rfl, htry, rfl⟩
  · rintro ⟨passed, candidate, later, before, last, rfl, hpassed, hlast, rfl⟩
    exact course_append hpassed (.failed hlast later)

/-- A candidate is tried, and the search goes on or ends with what came of it. -/
theorem course_cons_iff {candidate : Candidate} {rest : List Candidate} :
    Course scheme env (candidate :: rest) events outcome ↔
      (∃ part later, Tries scheme env candidate part (.ok none) ∧
        Course scheme env rest later outcome ∧ events = part ++ later) ∨
      (∃ part context, Tries scheme env candidate part (.ok (some context)) ∧
        events = part ++ notice scheme candidate ∧ outcome = .ok (some context)) ∨
      ∃ fault, Tries scheme env candidate events (.error fault) ∧ outcome = .error fault := by
  constructor
  · intro hcourse
    cases hcourse with
    | pass htry hrest => exact .inl ⟨_, _, htry, hrest, rfl⟩
    | found htry => exact .inr (.inl ⟨_, _, htry, rfl, rfl⟩)
    | failed htry => exact .inr (.inr ⟨_, htry, rfl⟩)
  · rintro (⟨part, later, htry, hrest, rfl⟩ | ⟨part, context, htry, rfl, rfl⟩ | ⟨fault, htry, rfl⟩)
    · exact .pass htry hrest
    · exact .found htry rest
    · exact .failed htry rest

/-- A program that tries a candidate and goes on if it is passed over yields what the search
over the candidate and the later ones can come to. -/
theorem yields_step_iff {program rest : Program (Option Context)}
    {finish : Context → Program (Option Context)} {candidate : Candidate} {later : List Candidate}
    (hprogram : ∀ {events outcome}, program.Yields events outcome ↔
      Tries scheme env candidate events outcome)
    (hfinish : ∀ {context events outcome}, (finish context).Yields events outcome ↔
      events = notice scheme candidate ∧ outcome = .ok (some context))
    (hrest : ∀ {events outcome}, rest.Yields events outcome ↔
      Course scheme env later events outcome) :
    (program >>= fun found => found.elim rest finish).Yields events outcome ↔
      Course scheme env (candidate :: later) events outcome := by
  rw [Program.yields_bind_iff, course_cons_iff]
  constructor
  · rintro (⟨fault, hfault, rfl⟩ | ⟨_ | context, before, after, rfl, htry, hnext⟩)
    · exact .inr (.inr ⟨fault, hprogram.mp hfault, rfl⟩)
    · exact .inl ⟨before, after, hprogram.mp htry, hrest.mp hnext, rfl⟩
    · obtain ⟨rfl, rfl⟩ := hfinish.mp hnext
      exact .inr (.inl ⟨before, context, hprogram.mp htry, rfl, rfl⟩)
  · rintro (⟨part, after, htry, hcourse, rfl⟩ | ⟨part, context, htry, rfl, rfl⟩ |
      ⟨fault, htry, rfl⟩)
    · exact .inr ⟨none, part, after, rfl, hprogram.mpr htry, hrest.mpr hcourse⟩
    · exact .inr ⟨some context, part, _, rfl, hprogram.mpr htry, hfinish.mpr ⟨rfl, rfl⟩⟩
    · exact .inl ⟨fault, hprogram.mpr htry, rfl⟩

theorem yields_search_iff {starts : List String} {events : List Event}
    {outcome : Except Fault (Option Context)} :
    (search scheme env starts).Yields events outcome ↔
      Course scheme env (starts.map .below) events outcome := by
  induction starts generalizing events outcome with
  | nil =>
      rw [search, Program.yields_pure_iff]
      constructor
      · rintro ⟨rfl, rfl⟩
        exact .exhausted
      · rintro ⟨⟩
        exact ⟨rfl, rfl⟩
  | cons start rest ih =>
      have hsearch : search scheme env (start :: rest) =
          candidate start scheme >>= (made · scheme env) >>= fun found =>
            found.elim (search scheme env rest) fun context =>
              Program.log (foundTrace start scheme) >>= fun _ => pure (some context) := by
        rw [Program.bind_assoc, search]
        refine congrArg (_ >>= ·) (funext fun factory => ?_)
        refine congrArg (_ >>= ·) (funext fun found => ?_)
        cases found <;> rfl
      have hfinish {context : Context} {events : List Event}
          {outcome : Except Fault (Option Context)} :
          (Program.log (foundTrace start scheme) >>= fun _ => pure (some context)).Yields events
            outcome ↔ events = notice scheme (.below start) ∧ outcome = .ok (some context) := by
        rw [Program.yields_map_iff]
        simp [notice, Except.map]
      rw [hsearch, List.map_cons]
      exact yields_step_iff yields_below_iff hfinish ih

theorem yields_resolve_iff {registry : Registry} :
    (registry.resolve scheme env).Yields events outcome ↔
      Course scheme env (candidates registry scheme env.properties) events outcome := by
  have hresolve : registry.resolve scheme env =
      made (registry.factory? scheme) scheme env >>= fun found =>
        found.elim (search scheme env (packagePrefixes env.properties)) (pure <| some ·) := by
    rw [Registry.resolve]
    refine congrArg (_ >>= ·) (funext fun found => ?_)
    cases found <;> rfl
  rw [hresolve, candidates]
  cases registry.factory? scheme with
  | none => exact yields_search_iff
  | some factory =>
      have hprogram {events : List Event} {outcome : Except Fault (Option Context)} :
          (made (some factory) scheme env).Yields events outcome ↔
            Tries scheme env (.registered factory) events outcome := by
        rw [made, Program.yields_request_iff]
        constructor
        · rintro rfl
          exact .registered outcome
        · rintro ⟨⟩
          rfl
      exact yields_step_iff hprogram Program.yields_pure_iff yields_search_iff

end Search

/-- The URL context for a scheme is the first one that a candidate makes: the function that
is registered for the scheme and was not unregistered since, and then the modules below the
package prefixes, in order.  There is none exactly if every candidate is passed over.  The
first fault ends the search as the first context does, and nothing is tried after either. -/
theorem resolve_searches (history : List Registration) (scheme : String) (env : Environment)
    {σ : Type} (host : Host σ) (state : σ) :
    let run := ((Registry.after history).resolve scheme env).run host state
    ∃ tried, AreCandidates history scheme env.properties tried ∧
      (∀ others, AreCandidates history scheme env.properties others → others = tried) ∧
      (run.outcome = .ok none ↔ PassesAll scheme env tried run.events) ∧
      (∀ context, run.outcome = .ok (some context) ↔
        Finds scheme env tried run.events context) ∧
      ∀ fault, run.outcome = .error fault ↔ Fails scheme env tried run.events fault := by
  intro run
  have hyields : ((Registry.after history).resolve scheme env).Yields run.events run.outcome :=
    Program.yields_run host _ state
  -- The events of the run hold all answers, so they leave one outcome.
  have houtcome (outcome : Except Fault (Option Context)) : run.outcome = outcome ↔
      Course scheme env (candidates (.after history) scheme env.properties) run.events outcome := by
    rw [← yields_resolve_iff]
    constructor
    · rintro rfl
      exact hyields
    · exact hyields.outcome_unique
  refine ⟨_, areCandidates_iff.mpr rfl, fun others => areCandidates_iff.mp, ?_, ?_, ?_⟩
  · exact (houtcome _).trans course_none_iff
  · exact fun context => (houtcome _).trans course_some_iff
  · exact fun fault => (houtcome _).trans course_error_iff

/-- An environment with the package prefix `pkg`. -/
def prefixed : Environment :=
  ⟨0, Table.empty.insert Property.urlPackages (.text " pkg :")⟩

/-- A package `pkg` with one module, which offers contexts. -/
def offeringPackage : Scripted.Stage :=
  { Scripted.Stage.empty with
    urlFactories := [some ⟨.own "ScriptedContext", none, false, none, none, [], []⟩]
    modules := [("pkg.remote_http", .offering ⟨0⟩)] }

/-- The module for a scheme with a plus sign has a low line in its name. -/
theorem plusScheme_found :
    let context : Context := ⟨.own "ScriptedContext", 0, some 0⟩
    let run := (Registry.empty.resolve "remote+http" prefixed).run Scripted.host offeringPackage
    (∃ tried, AreCandidates [] "remote+http" prefixed.properties tried ∧
        Finds "remote+http" prefixed tried run.events context) ∧
      run.events =
        [.asked (.importModule "pkg.remote_http") (.ok (some ⟨0⟩)),
          .asked (.urlContext ⟨0⟩ "remote+http" prefixed) (.ok (some context)),
          .told (.record (foundTrace "pkg" "remote+http"))] := by
  intro context run
  obtain ⟨tried, htried, -, -, hfound, -⟩ :=
    resolve_searches [] "remote+http" prefixed Scripted.host offeringPackage
  exact ⟨⟨tried, htried, (hfound context).mp rfl⟩, rfl⟩

end NameRouting.UrlContext
