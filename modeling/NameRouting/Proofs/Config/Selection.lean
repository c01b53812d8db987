import NameRouting.Config.Load
import NameRouting.Proofs.Log.Outcome

/-!
# The selected configuration

A configuration is looked for at several paths, and the first file that is there is selected.
What comes of it depends on the document in this file alone: it may not be opened or not be
read, it may be something else than a mapping, or its entries are flattened, unless the
interpreter stops that.
-/

namespace NameRouting.Config

/-- The paths at which a configuration is looked for, in order. -/
def searched (interpreter : Interpreter) (process : Table String) (path : Option String) :
    List String :=
  (candidates process path).map (expandHome interpreter process)

/-- The first of the paths at which a file is there, and what opening it gives. -/
def firstFile? (open? : String → Option (Option ByteArray)) (paths : List String) :
    Option (String × Option ByteArray) :=
  paths.findSome? fun found => (open? found).map fun content => (found, content)

/-- The selected file, which is the first that is there. -/
def selected? (interpreter : Interpreter) (open? : String → Option (Option ByteArray))
    (process : Table String) (path : Option String) : Option (String × Option ByteArray) :=
  firstFile? open? (searched interpreter process path)

/-- What comes of opening and reading the selected file, if there is one. -/
def document? (interpreter : Interpreter) (open? : String → Option (Option ByteArray))
    (process : Table String) (path : Option String) : Option (Except Fault Value) :=
  (selected? interpreter open? process path).map fun (found, content) =>
    readOpened interpreter found content

/-- The entries of a document that is a mapping; a document that is empty counts as a mapping
without entries. -/
inductive IsMapping : List (Value × Value) → Value → Prop
  | empty : IsMapping [] .null
  | entries (entries : List (Value × Value)) : IsMapping entries (.map entries)

theorem IsMapping.unique {value : Value} {entries others : List (Value × Value)}
    (hentries : IsMapping entries value) (hothers : IsMapping others value) :
    entries = others := by
  cases hentries <;> cases hothers <;> rfl

/-- The properties that are configured: the flattened entries of the document, or none when no
file is there. -/
inductive Gives (interpreter : Interpreter) : Option (Except Fault Value) → Table Value → Prop
  | nothing : Gives interpreter none .empty
  | document {value : Value} {entries : List (Value × Value)} (hvalue : IsMapping entries value)
      (hlimit : interpreter.flattening entries = none) :
      Gives interpreter (some (.ok value)) (flatten entries "")

/-- The interpreter stops the flattening of the document. -/
inductive Stops (interpreter : Interpreter) : Option (Except Fault Value) → Raised → Prop
  | document {value : Value} {entries : List (Value × Value)} {cause : Raised}
      (hvalue : IsMapping entries value)
      (hlimit : interpreter.flattening entries = some cause) :
      Stops interpreter (some (.ok value)) cause

variable {interpreter : Interpreter}

theorem Gives.unique {document : Option (Except Fault Value)} {env other : Table Value}
    (henv : Gives interpreter document env) (hother : Gives interpreter document other) :
    env = other := by
  cases henv with
  | nothing =>
      cases hother
      rfl
  | document hvalue _ =>
      cases hother with
      | document hvalue' _ => rw [hvalue.unique hvalue']

theorem Gives.not_stops {document : Option (Except Fault Value)} {env : Table Value}
    {cause : Raised} (henv : Gives interpreter document env) :
    ¬ Stops interpreter document cause := by
  rintro ⟨hvalue, hlimit⟩
  cases henv with
  | document hvalue' hnone =>
      rw [hvalue.unique hvalue', hnone] at hlimit
      cases hlimit

theorem Stops.unique {document : Option (Except Fault Value)} {cause other : Raised}
    (hcause : Stops interpreter document cause) (hother : Stops interpreter document other) :
    cause = other := by
  obtain ⟨hvalue, hlimit⟩ := hcause
  obtain ⟨hvalue', hlimit'⟩ := hother
  rw [hvalue.unique hvalue', hlimit'] at hlimit
  cases hlimit
  rfl

/-- What is flattened was read. -/
theorem Stops.document_ne {document : Option (Except Fault Value)} {cause : Raised}
    (hstops : Stops interpreter document cause) (fault : Fault) :
    document ≠ some (.error fault) := by
  rintro rfl
  cases hstops

theorem readEntries_eq_ok_iff {path : String} {content : Option ByteArray}
    {entries : List (Value × Value)} :
    readEntries interpreter path content = .ok entries ↔
      ∃ value, readOpened interpreter path content = .ok value ∧ IsMapping entries value := by
  rw [readEntries]
  constructor
  · intro hentries
    split at hentries
    case h_1 fault hread => cases hentries
    case h_2 hread =>
      cases hentries
      exact ⟨_, hread, .empty⟩
    case h_3 inner hread =>
      cases hentries
      exact ⟨_, hread, .entries _⟩
    case h_4 value _ _ hread => cases hentries
  · rintro ⟨value, hread, hvalue⟩
    rw [hread]
    cases hvalue <;> rfl

theorem readEntries_eq_error_iff {path : String} {content : Option ByteArray} {fault : Fault} :
    readEntries interpreter path content = .error fault ↔
      readOpened interpreter path content = .error fault ∨
        ∃ value, readOpened interpreter path content = .ok value ∧
          (∀ entries, ¬ IsMapping entries value) ∧ fault = .config (.notAMapping path) := by
  rw [readEntries]
  constructor
  · intro hfault
    split at hfault
    case h_1 cause hread =>
      cases hfault
      exact .inl hread
    case h_2 hread => cases hfault
    case h_3 inner hread => cases hfault
    case h_4 value hnull hmap hread =>
      cases hfault
      refine .inr ⟨value, hread, ?_, rfl⟩
      rintro entries (_ | _)
      · exact hnull rfl
      · exact hmap _ rfl
  · rintro (hread | ⟨value, hread, hvalue, rfl⟩)
    · rw [hread]
    · rw [hread]
      cases value
      case null => exact absurd .empty (hvalue [])
      case map entries => exact absurd (.entries entries) (hvalue entries)
      all_goals rfl

/-- The first file that is there decides; the others are not looked at. -/
theorem outcome_loadFirst (open? : String → Option (Option ByteArray)) (process : Table String)
    (asked : Bool) (paths : List String) :
    (loadFirst interpreter open? process asked paths).outcome =
      match firstFile? open? (paths.map (expandHome interpreter process)) with
      | none => .ok .empty
      | some (found, content) =>
        (readEntries interpreter found content).bind (properties interpreter) := by
  induction paths with
  | nil => rfl
  | cons first rest ih =>
      rw [loadFirst, List.map_cons, firstFile?, List.findSome?_cons]
      cases open? (expandHome interpreter process first) with
      | none =>
          dsimp only [Option.map_none]
          cases asked with
          | false => exact ih
          | true =>
              rw [if_pos rfl, Logged.outcome_bind]
              exact ih
      | some content =>
          dsimp only [Option.map_some]
          rw [Logged.outcome_bind, Logged.outcome_ofExcept]
          cases readEntries interpreter (expandHome interpreter process first) content <;> rfl

variable {open? : String → Option (Option ByteArray)} {process : Table String}
  {path : Option String}

theorem outcome_environment :
    (environment interpreter open? process path).outcome =
      match selected? interpreter open? process path with
      | none => .ok .empty
      | some (found, content) =>
        (readEntries interpreter found content).bind (properties interpreter) :=
  outcome_loadFirst open? process _ _

theorem properties_eq_ok_iff {entries : List (Value × Value)} {env : Table Value} :
    properties interpreter entries = .ok env ↔
      interpreter.flattening entries = none ∧ env = flatten entries "" := by
  rw [properties]
  cases interpreter.flattening entries <;> simp [eq_comm]

theorem properties_eq_error_iff {entries : List (Value × Value)} {fault : Fault} :
    properties interpreter entries = .error fault ↔
      ∃ cause, interpreter.flattening entries = some cause ∧ fault = .foreign cause := by
  rw [properties]
  cases interpreter.flattening entries <;> simp [eq_comm]

/-- The environment is made of the properties that are configured. -/
theorem outcome_environment_eq_ok_iff {env : Table Value} :
    (environment interpreter open? process path).outcome = .ok env ↔
      Gives interpreter (document? interpreter open? process path) env := by
  rw [outcome_environment, document?]
  rcases selected? interpreter open? process path with _ | ⟨found, content⟩
  · constructor
    · rintro ⟨⟩
      exact .nothing
    · rintro ⟨⟩
      rfl
  · dsimp only [Option.map_some]
    constructor
    · intro hload
      obtain ⟨entries, hread, hflat⟩ := Outcome.bind_eq_ok_iff.mp hload
      obtain ⟨value, hopened, hvalue⟩ := readEntries_eq_ok_iff.mp hread
      obtain ⟨hlimit, rfl⟩ := properties_eq_ok_iff.mp hflat
      rw [hopened]
      exact .document hvalue hlimit
    · intro hgives
      generalize hopened : some (readOpened interpreter found content) = document at hgives
      cases hgives with
      | nothing => cases hopened
      | document hvalue hlimit =>
          have hread := readEntries_eq_ok_iff.mpr ⟨_, Option.some.inj hopened, hvalue⟩
          exact Outcome.bind_eq_ok_iff.mpr ⟨_, hread, properties_eq_ok_iff.mpr ⟨hlimit, rfl⟩⟩

/-- There is no environment when the document cannot be read, when it is no mapping, or when the
interpreter stops its flattening. -/
theorem outcome_environment_eq_error_iff {fault : Fault} :
    (environment interpreter open? process path).outcome = .error fault ↔
      document? interpreter open? process path = some (.error fault) ∨
        (∃ value found content, document? interpreter open? process path = some (.ok value) ∧
          (∀ entries, ¬ IsMapping entries value) ∧
          selected? interpreter open? process path = some (found, content) ∧
          fault = .config (.notAMapping found)) ∨
        ∃ cause, Stops interpreter (document? interpreter open? process path) cause ∧
          fault = .foreign cause := by
  rw [outcome_environment, document?]
  rcases selected? interpreter open? process path with _ | ⟨found, content⟩
  · constructor
    · rintro ⟨⟩
    · rintro (⟨⟨⟩⟩ | ⟨_, _, _, ⟨⟩, -⟩ | ⟨_, ⟨⟩, -⟩)
  · dsimp only [Option.map_some]
    constructor
    · intro hload
      rcases Outcome.bind_eq_error_iff.mp hload with hread | ⟨entries, hread, hflat⟩
      · rcases readEntries_eq_error_iff.mp hread with hopened | ⟨value, hopened, hvalue, rfl⟩
        · rw [hopened]
          exact .inl rfl
        · rw [hopened]
          exact .inr (.inl ⟨value, found, content, rfl, hvalue, rfl, rfl⟩)
      · obtain ⟨value, hopened, hvalue⟩ := readEntries_eq_ok_iff.mp hread
        obtain ⟨cause, hlimit, rfl⟩ := properties_eq_error_iff.mp hflat
        rw [hopened]
        exact .inr (.inr ⟨cause, .document hvalue hlimit, rfl⟩)
    · rintro (hopened | ⟨value, found', content', hopened, hvalue, hselected, rfl⟩ |
        ⟨cause, hstops, rfl⟩)
      · exact Outcome.bind_eq_error_iff.mpr
          (.inl (readEntries_eq_error_iff.mpr (.inl (Option.some.inj hopened))))
      · cases hselected
        exact Outcome.bind_eq_error_iff.mpr (.inl (readEntries_eq_error_iff.mpr
          (.inr ⟨value, Option.some.inj hopened, hvalue, rfl⟩)))
      · generalize hopened : some (readOpened interpreter found content) = document at hstops
        obtain ⟨hvalue, hlimit⟩ := hstops
        have hread := readEntries_eq_ok_iff.mpr ⟨_, Option.some.inj hopened, hvalue⟩
        exact Outcome.bind_eq_error_iff.mpr
          (.inr ⟨_, hread, properties_eq_error_iff.mpr ⟨cause, hlimit, rfl⟩⟩)

end NameRouting.Config
