import NameRouting.Command.Task
import NameRouting.Proofs.Config.Selection
import NameRouting.Proofs.Table.Update
import NameRouting.Proofs.Text.Separators

/-!
# The environment of an invocation

An invocation works in the environment that is configured, with the settings of its command
line on top.  The settings are carried out one after the other, so the last one of a key
counts.  There is no environment when the document of the configuration cannot be used, or
when a setting is faulty.  Whoever reads the document is prepared for failures of values
and of the operating system.  Any other exception balks the invocation.
-/

namespace NameRouting.Command

/-! ## Settings of the form `KEY=VALUE` -/

/-- What a setting assigns: its key is the text in front of the first equals sign, without
blanks around it, and its value is all the text behind that sign. -/
def Assigns (item : String) (entry : String × Value) : Prop :=
  ∃ front rest, '=' ∉ front ∧ item.toList = front ++ '=' :: rest ∧ Text.trim front ≠ [] ∧
    entry = (String.ofList (Text.trim front), .text (String.ofList rest))

/-- A setting without an equals sign, or with nothing but blanks in front of the first one. -/
def IsFaulty (item : String) : Prop :=
  '=' ∉ item.toList ∨
    ∃ front rest, '=' ∉ front ∧ item.toList = front ++ '=' :: rest ∧ Text.trim front = []

/-- Reads a setting. -/
def assignment (item : String) : Except Fault (String × Value) :=
  match Text.cutAt '=' item.toList with
  | (_, none) => .error (.config (.invalidOverride item))
  | (key, some value) =>
    if (Text.trim key).isEmpty then .error (.config (.invalidOverride item))
    else .ok (String.ofList (Text.trim key), .text (String.ofList value))

theorem assignment_eq_ok_iff {item : String} {entry : String × Value} :
    assignment item = .ok entry ↔ Assigns item entry := by
  rw [assignment, Assigns]
  constructor
  · intro hentry
    split at hentry
    case h_1 => cases hentry
    case h_2 front rest hcut =>
      obtain ⟨hfront, hitem⟩ := Text.cutAt_eq_some_iff.mp hcut
      split at hentry
      case isTrue => cases hentry
      case isFalse hkey =>
        cases hentry
        exact ⟨front, rest, hfront, hitem, by simpa using hkey, rfl⟩
  · rintro ⟨front, rest, hfront, hitem, hkey, rfl⟩
    rw [Text.cutAt_eq_some_iff.mpr ⟨hfront, hitem⟩]
    exact if_neg (by simpa using hkey)

theorem assignment_eq_error_iff {item : String} {fault : Fault} :
    assignment item = .error fault ↔ IsFaulty item ∧ fault = .config (.invalidOverride item) := by
  rw [assignment, IsFaulty]
  constructor
  · intro hfault
    split at hfault
    case h_1 front hcut =>
      cases hfault
      exact ⟨.inl (Text.cutAt_eq_none_iff.mp hcut).2, rfl⟩
    case h_2 front rest hcut =>
      obtain ⟨hfront, hitem⟩ := Text.cutAt_eq_some_iff.mp hcut
      split at hfault
      case isTrue hkey =>
        cases hfault
        exact ⟨.inr ⟨front, rest, hfront, hitem, by simpa using hkey⟩, rfl⟩
      case isFalse => cases hfault
  · rintro ⟨hfree | ⟨front, rest, hfront, hitem, hkey⟩, rfl⟩
    · rw [Text.cutAt_of_not_mem hfree]
    · rw [Text.cutAt_eq_some_iff.mpr ⟨hfront, hitem⟩]
      exact if_pos (by simpa using hkey)

theorem override_cons (env : Table Value) (item : String) (rest : List String) :
    override env (item :: rest) =
      assignment item >>= fun entry => override (env.insert entry.1 entry.2) rest := by
  rw [override, assignment]
  rcases Text.cutAt '=' item.toList with ⟨key, _ | value⟩
  · rfl
  · dsimp only
    split <;> rfl

/-- What the settings assign is put on top in their order. -/
theorem override_eq_map_mapM (env : Table Value) (items : List String) :
    override env items = (items.mapM assignment).map fun entries => env.update ⟨entries⟩ := by
  induction items generalizing env with
  | nil => rfl
  | cons item rest ih =>
      rw [override_cons, List.mapM_cons]
      cases assignment item with
      | error fault => rfl
      | ok entry =>
          change override (env.insert entry.1 entry.2) rest = _
          rw [ih]
          cases List.mapM assignment rest <;> rfl

theorem mapM_assignment_eq_ok_iff {items : List String} {assigned : List (String × Value)} :
    items.mapM assignment = .ok assigned ↔ List.Forall₂ Assigns items assigned := by
  simp only [Outcome.mapM_eq_ok_iff, assignment_eq_ok_iff]

theorem override_eq_ok_iff {env env' : Table Value} {items : List String} :
    override env items = .ok env' ↔
      ∃ assigned, List.Forall₂ Assigns items assigned ∧ env' = env.update ⟨assigned⟩ := by
  simp only [← mapM_assignment_eq_ok_iff, override_eq_map_mapM]
  cases items.mapM assignment <;> simp [Except.map, eq_comm]

/-- The first faulty setting is told. -/
theorem override_eq_error_iff {env : Table Value} {items : List String} {fault : Fault} :
    override env items = .error fault ↔
      ∃ before item after, items = before ++ item :: after ∧
        (∀ other ∈ before, ∃ entry, Assigns other entry) ∧ IsFaulty item ∧
          fault = .config (.invalidOverride item) := by
  simp only [← assignment_eq_ok_iff, ← assignment_eq_error_iff, ← Outcome.mapM_eq_error_iff,
    override_eq_map_mapM]
  cases items.mapM assignment <;> simp [Except.map]

/-! ## The environment -/

/-- The environment that a document and settings give: the properties that are configured,
with what the settings assign put on top from left to right. -/
def Provides (interpreter : Interpreter) (document : Option (Except Fault Value))
    (overrides : List String) (env : Table Value) : Prop :=
  ∃ configured assigned, Config.Gives interpreter document configured ∧
    List.Forall₂ Assigns overrides assigned ∧ env = configured.update ⟨assigned⟩

/-- A failure of a value or of the operating system. -/
inductive IsOrdinary : Raised → Prop
  | value (kind message : String) : IsOrdinary (.value kind message)
  | system (kind message : String) : IsOrdinary (.system kind message)

/-- A document is not read for an ordinary reason: its file may not be opened, it does not
follow its format, or its reader raises an ordinary exception. -/
inductive IsUnread : Fault → Prop
  | denied (path : String) : IsUnread (.config (.denied path))
  | malformed (path reason : String) : IsUnread (.config (.unreadable path reason))
  | raised {cause : Raised} (hcause : IsOrdinary cause) : IsUnread (.foreign cause)

/-- Why a document and settings give no environment: the document is not read or not
flattened, for an ordinary reason, or it is no mapping, or a setting is faulty. -/
inductive IsUnusable (interpreter : Interpreter) (document : Option (Except Fault Value))
    (overrides : List String) : Prop
  | unread {fault : Fault} (hdocument : document = some (.error fault))
      (hfault : IsUnread fault)
  | stopped {cause : Raised} (hstops : Config.Stops interpreter document cause)
      (hcause : IsOrdinary cause)
  | noMapping {value : Value} (hdocument : document = some (.ok value))
      (hvalue : ∀ entries, ¬ Config.IsMapping entries value)
  | faulty {item : String} (hitem : item ∈ overrides) (hfaulty : IsFaulty item)

/-- An exception that is not ordinary stops the reading or the flattening of a document. -/
inductive Balks (interpreter : Interpreter) (document : Option (Except Fault Value)) :
    Raised → Prop
  | reading {cause : Raised} (hdocument : document = some (.error (.foreign cause)))
      (hcause : ¬ IsOrdinary cause) : Balks interpreter document cause
  | flattening {cause : Raised} (hstops : Config.Stops interpreter document cause)
      (hcause : ¬ IsOrdinary cause) : Balks interpreter document cause

theorem isExpected_iff {cause : Raised} : cause.isExpected = true ↔ IsOrdinary cause := by
  constructor
  · intro hcause
    cases cause with
    | value kind message => exact .value kind message
    | system kind message => exact .system kind message
    | other kind message => cases hcause
  · rintro ⟨⟩ <;> rfl

theorem not_isFaulty_of_assigns {item : String} {entry : String × Value}
    (hassigns : Assigns item entry) : ¬ IsFaulty item := by
  intro hfaulty
  have hok := assignment_eq_ok_iff.mpr hassigns
  rw [assignment_eq_error_iff.mpr ⟨hfaulty, rfl⟩] at hok
  cases hok

section Document

variable {interpreter : Interpreter} {document : Option (Except Fault Value)}
  {overrides : List String} {env other : Table Value} {cause : Raised}

/-- A document and settings give one environment at most. -/
theorem Provides.unique (henv : Provides interpreter document overrides env)
    (hother : Provides interpreter document overrides other) : env = other := by
  obtain ⟨configured, assigned, hgives, hassigned, rfl⟩ := henv
  obtain ⟨configured', assigned', hgives', hassigned', rfl⟩ := hother
  have hsame : (.ok assigned : Except Fault _) = .ok assigned' := by
    rw [← mapM_assignment_eq_ok_iff.mpr hassigned, mapM_assignment_eq_ok_iff.mpr hassigned']
  rw [hgives.unique hgives', Except.ok.inj hsame]

/-- Whoever has an environment read the document of it. -/
theorem Provides.document_ne (henv : Provides interpreter document overrides env)
    (fault : Fault) : document ≠ some (.error fault) := by
  rintro rfl
  obtain ⟨configured, assigned, hgives, -⟩ := henv
  cases hgives

theorem Provides.not_stops (henv : Provides interpreter document overrides env) :
    ¬ Config.Stops interpreter document cause := by
  obtain ⟨configured, assigned, hgives, -⟩ := henv
  exact hgives.not_stops

/-- A document and settings that are unusable give no environment. -/
theorem Provides.not_isUnusable (henv : Provides interpreter document overrides env) :
    ¬ IsUnusable interpreter document overrides := by
  intro hunusable
  have ⟨configured, assigned, hgives, hassigned, _⟩ := henv
  cases hunusable with
  | unread hdocument _ => exact henv.document_ne _ hdocument
  | stopped hstops _ => exact henv.not_stops hstops
  | noMapping hdocument hvalue =>
      rw [hdocument] at hgives
      cases hgives with
      | document hmapping _ => exact hvalue _ hmapping
  | faulty hitem hfaulty =>
      obtain ⟨entry, hok⟩ := Outcome.exists_ok_of_mem_of_mapM_eq_ok
        (mapM_assignment_eq_ok_iff.mpr hassigned) hitem
      exact not_isFaulty_of_assigns (assignment_eq_ok_iff.mp hok) hfaulty

theorem Balks.not_isOrdinary (hbalks : Balks interpreter document cause) :
    ¬ IsOrdinary cause := by
  cases hbalks <;> assumption

theorem Balks.not_gives (hbalks : Balks interpreter document cause) :
    ¬ Config.Gives interpreter document env := by
  intro hgives
  rcases hbalks with ⟨hdocument, -⟩ | ⟨hstops, -⟩
  · rw [hdocument] at hgives
    cases hgives
  · exact hgives.not_stops hstops

theorem Provides.not_balks (henv : Provides interpreter document overrides env) :
    ¬ Balks interpreter document cause := by
  obtain ⟨configured, assigned, hgives, -⟩ := henv
  exact fun hbalks => hbalks.not_gives hgives

/-- One exception at most stops the reading or the flattening. -/
theorem Balks.unique {raised : Raised} (hbalks : Balks interpreter document cause)
    (hraised : Balks interpreter document raised) : cause = raised := by
  rcases hbalks with ⟨hdocument, -⟩ | ⟨hstops, -⟩ <;>
    rcases hraised with ⟨hdocument', -⟩ | ⟨hstops', -⟩
  · cases hdocument.symm.trans hdocument'
    rfl
  · rw [hdocument] at hstops'
    cases hstops'
  · rw [hdocument'] at hstops
    cases hstops
  · exact hstops.unique hstops'

theorem IsUnread.isReadFailure {fault : Fault} (hfault : IsUnread fault) :
    fault.isReadFailure = true := by
  cases hfault with
  | denied path => rfl
  | malformed path reason => rfl
  | raised hcause => exact isExpected_iff.mpr hcause

theorem IsUnread.not_balks {fault : Fault} (hfault : IsUnread fault) :
    ¬ Balks interpreter (some (.error fault)) cause := by
  rintro (⟨hdocument, hcause⟩ | ⟨hstops, -⟩)
  · cases hdocument
    cases hfault with
    | raised hordinary => exact hcause hordinary
  · cases hstops

/-- Nothing of a document that is no mapping is flattened. -/
theorem not_balks_of_noMapping {value : Value}
    (hvalue : ∀ entries, ¬ Config.IsMapping entries value) :
    ¬ Balks interpreter (some (.ok value)) cause := by
  rintro (⟨hdocument, -⟩ | ⟨⟨hmapping, -⟩, -⟩)
  · cases hdocument
  · exact hvalue _ hmapping

end Document

section

variable {interpreter : Interpreter} {open? : String → Option (Option ByteArray)}
  {process : Table String} {settings : Settings} {cause : Raised}

theorem outcome_environment :
    (environment interpreter open? process settings).outcome =
      (Config.environment interpreter open? process settings.config).outcome >>= fun env =>
        override env settings.overrides := by
  rw [environment, Logged.outcome_bind]
  rfl

theorem outcome_environment_eq_ok_iff {env : Table Value} :
    (environment interpreter open? process settings).outcome = .ok env ↔
      Provides interpreter (Config.document? interpreter open? process settings.config)
        settings.overrides env := by
  rw [outcome_environment, Outcome.bind_eq_ok_iff]
  simp only [Config.outcome_environment_eq_ok_iff, override_eq_ok_iff]
  constructor
  · rintro ⟨configured, hgives, assigned, hassigned, rfl⟩
    exact ⟨configured, assigned, hgives, hassigned, rfl⟩
  · rintro ⟨configured, assigned, hgives, hassigned, rfl⟩
    exact ⟨configured, hgives, assigned, hassigned, rfl⟩

/-- A document is not read for an ordinary reason, or an exception that is not ordinary stops
its reader. -/
theorem isUnread_or_foreign {fault : Fault}
    (hdocument : Config.document? interpreter open? process settings.config =
      some (.error fault)) :
    IsUnread fault ∨ ∃ cause, fault = .foreign cause ∧ ¬ IsOrdinary cause := by
  obtain ⟨⟨path, content⟩, -, hread⟩ := Option.map_eq_some_iff.mp hdocument
  cases content with
  | none =>
      cases hread
      exact .inl (.denied path)
  | some bytes =>
      dsimp only [Config.readOpened] at hread
      rcases hbytes : interpreter.read (Config.isJson path) bytes with (reason | cause) | value <;>
        rw [hbytes] at hread
      · cases hread
        exact .inl (.malformed path reason)
      · cases hread
        by_cases hcause : IsOrdinary cause
        · exact .inl (.raised hcause)
        · exact .inr ⟨cause, rfl, hcause⟩
      · cases hread

/-- Without an environment the command line tells of a failure, unless it was balked. -/
theorem isUnusable_or_balks {fault : Fault}
    (houtcome : (environment interpreter open? process settings).outcome = .error fault) :
    let document := Config.document? interpreter open? process settings.config
    (fault.isReadFailure = true ∧ IsUnusable interpreter document settings.overrides ∧
        ∀ cause, ¬ Balks interpreter document cause) ∨
      ∃ cause, fault = .foreign cause ∧ Balks interpreter document cause := by
  dsimp only
  rw [outcome_environment] at houtcome
  rcases Outcome.bind_eq_error_iff.mp houtcome with hconfig | ⟨configured, hconfig, hoverride⟩
  · rcases Config.outcome_environment_eq_error_iff.mp hconfig with
      hdocument | ⟨value, path, content, hdocument, hvalue, -, rfl⟩ | ⟨cause, hstops, rfl⟩
    · rcases isUnread_or_foreign hdocument with hfault | ⟨cause, rfl, hcause⟩
      · rw [hdocument]
        exact .inl ⟨hfault.isReadFailure, .unread rfl hfault, fun cause => hfault.not_balks⟩
      · exact .inr ⟨cause, rfl, .reading hdocument hcause⟩
    · rw [hdocument]
      exact .inl ⟨rfl, .noMapping rfl hvalue, fun cause => not_balks_of_noMapping hvalue⟩
    · by_cases hcause : IsOrdinary cause
      · refine .inl ⟨isExpected_iff.mpr hcause, .stopped hstops hcause, ?_⟩
        rintro other (⟨hdocument, -⟩ | ⟨hother, hordinary⟩)
        · exact hstops.document_ne _ hdocument
        · rw [hstops.unique hother] at hcause
          exact hordinary hcause
      · exact .inr ⟨cause, rfl, .flattening hstops hcause⟩
  · obtain ⟨before, item, after, hitems, -, hfaulty, rfl⟩ := override_eq_error_iff.mp hoverride
    have hitem : item ∈ settings.overrides := by
      rw [hitems]
      exact List.mem_append_right before List.mem_cons_self
    refine .inl ⟨rfl, .faulty hitem hfaulty, fun cause hbalks => ?_⟩
    exact hbalks.not_gives (Config.outcome_environment_eq_ok_iff.mp hconfig)

end

end NameRouting.Command
