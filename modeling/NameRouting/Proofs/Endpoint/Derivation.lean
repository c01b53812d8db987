import NameRouting.Proofs.Endpoint.Padding
import NameRouting.Proofs.Text.SmallLetters

/-!
# Endpoints derived from names

Environments of earlier times name connections in one property, and the endpoints are
derived from the names in order.  A name without a host or without a port is passed over,
whatever else is said about it, and the first name whose endpoint cannot be read decides
the fault.  An environment that names nothing at all has no list of endpoints, which
differs from an empty one.
-/

namespace NameRouting.Endpoint

/-! ## Names in a text -/

/-- The text of the property that names connections.  A value that counts as not given has
none. -/
def namesText (env : Table Value) : List Char :=
  match env.get? Property.connections with
  | none => []
  | some value => if value.isBare then [] else value.toText.toList

/-- A text lists names: it is cut at the commas, and each name stands in its piece with
blanks around.  The last name is not empty, and the pieces behind it are blank. -/
def Lists (text : List Char) (names : List String) : Prop :=
  ∃ (pieces : List (List Char)) (blanks : Nat),
    text = Text.joined ',' pieces ∧ pieces ≠ [] ∧ (∀ piece ∈ pieces, ',' ∉ piece) ∧
      pieces.map Text.trim = names.map String.toList ++ List.replicate blanks [] ∧
      names.getLast? ≠ some ""

theorem listedNames_eq_trim (env : Table Value) :
    listedNames env = Text.trim (namesText env) := by
  rw [listedNames, namesText]
  cases env.get? Property.connections with
  | none => rfl
  | some value =>
      dsimp only
      split <;> rfl

theorem listedNames_eq_nil_iff {env : Table Value} :
    listedNames env = [] ↔ ∀ c ∈ namesText env, Text.isBlank c = true := by
  rw [listedNames_eq_trim, Text.trim_eq_nil_iff]

/-- The names are the same whether or not the text is trimmed as a whole. -/
theorem connectionNames_listedNames (env : Table Value) :
    connectionNames (listedNames env) = connectionNames (namesText env) := by
  rw [listedNames_eq_trim, connectionNames, connectionNames,
    Text.map_trim_pieces_trim (by decide)]

theorem connectionNames_eq_of_lists {text : List Char} {names : List String}
    (hlists : Lists text names) :
    connectionNames text = names := by
  obtain ⟨pieces, blanks, rfl, hne, hfree, htrim, hlast⟩ := hlists
  have hfront : ∀ hne : names.map String.toList ≠ [],
      (names.map String.toList).getLast hne ≠ [] := by
    intro hne hnil
    apply hlast
    have hmap := List.getLast?_eq_some_getLast hne
    rw [hnil, List.getLast?_map, Option.map_eq_some_iff] at hmap
    obtain ⟨name, hname, hempty⟩ := hmap
    rw [hname, String.toList_eq_nil_iff.mp hempty]
  have hblanks : dropTrailingEmpty (List.replicate blanks []) = [] :=
    dropTrailingEmpty_eq_nil_iff.mpr fun token htoken => List.eq_of_mem_replicate htoken
  rw [connectionNames, Text.pieces_joined hne hfree, htrim, dropTrailingEmpty_append hfront,
    hblanks, List.append_nil, List.map_map]
  exact (List.map_congr_left fun name _ => String.ofList_toList).trans (List.map_id names)

theorem lists_connectionNames (text : List Char) : Lists text (connectionNames text) := by
  obtain ⟨blanks, hblanks⟩ :=
    exists_dropTrailingEmpty_append ((Text.pieces ',' text).map Text.trim)
  have hnames : (connectionNames text).map String.toList =
      dropTrailingEmpty ((Text.pieces ',' text).map Text.trim) := by
    rw [connectionNames, List.map_map]
    exact (List.map_congr_left fun name _ => String.toList_ofList).trans (List.map_id _)
  refine ⟨Text.pieces ',' text, blanks, (Text.joined_pieces ',' text).symm,
    Text.pieces_ne_nil ',' text, fun piece => Text.not_mem_of_mem_pieces, ?_, ?_⟩
  · rw [hnames, hblanks]
  · intro hlast
    have hmap : ((connectionNames text).map String.toList).getLast? = some [] := by
      rw [List.getLast?_map, hlast]
      rfl
    rw [hnames] at hmap
    exact getLast?_dropTrailingEmpty _ hmap

theorem lists_iff {text : List Char} {names : List String} :
    Lists text names ↔ connectionNames text = names := by
  constructor
  · exact connectionNames_eq_of_lists
  · rintro rfl
    exact lists_connectionNames text

/-! ## The choice of a protocol -/

/-- A text that switches encryption on: the word "true" in any mixture of small letters and
capitals of ASCII, with blanks around. -/
def SaysTrue (text : String) : Prop :=
  (Text.trim text.toList).map Char.toLower = ['t', 'r', 'u', 'e']

theorem isTrue_iff {text : String} : isTrue text = true ↔ SaysTrue text := by
  rw [isTrue, beq_iff_eq]
  exact Text.lowercase_eq_iff (by simp [Text.IsPlainSmall]) _

section Environment

variable (expansion : Expansion) (env : Table Value)

/-- The text of a property of a connection. -/
def propertyOf (name key : String) : Option String :=
  textOf? env (Property.connectionPrefix ++ name ++ "." ++ key)

/-- Encryption is switched on for a connection, or for all of them where its own flag is
missing. -/
def IsEncrypted (name : String) : Prop :=
  match propertyOf env name (Property.optionPrefix ++ Property.encrypted) with
  | some flag => SaysTrue flag
  | none =>
    ∃ flag, textOf? env (Property.allConnectionsPrefix ++ Property.encrypted) = some flag ∧
      SaysTrue flag

/-- The protocol of a connection: the one it names, or else one of two, by encryption. -/
inductive HasProtocol (name : String) : String → Prop
  | named {protocol : String} (hprotocol : propertyOf env name Property.protocol = some protocol) :
      HasProtocol name protocol
  | encrypted (hnone : propertyOf env name Property.protocol = none)
      (hencrypted : IsEncrypted env name) : HasProtocol name Property.secureProtocol
  | plain (hnone : propertyOf env name Property.protocol = none)
      (hplain : ¬ IsEncrypted env name) : HasProtocol name Property.plainProtocol

theorem isEncrypted_iff (name : String) :
    IsEncrypted env name ↔
      ((propertyOf env name (Property.optionPrefix ++ Property.encrypted)).or
        (textOf? env (Property.allConnectionsPrefix ++ Property.encrypted))).any isTrue = true := by
  rw [IsEncrypted]
  cases propertyOf env name (Property.optionPrefix ++ Property.encrypted) with
  | some flag => exact isTrue_iff.symm
  | none => simp [Option.any_eq_true, isTrue_iff]

theorem protocol_ofName (name : String) :
    (Connection.ofName env name).protocol =
      (propertyOf env name Property.protocol).getD
        (if ((propertyOf env name (Property.optionPrefix ++ Property.encrypted)).or
            (textOf? env (Property.allConnectionsPrefix ++ Property.encrypted))).any isTrue
          then Property.secureProtocol else Property.plainProtocol) := by
  have hkey : Property.connectionPrefix ++ name ++ "." ++ Property.optionPrefix ++
      Property.encrypted = Property.connectionPrefix ++ name ++ "." ++
        (Property.optionPrefix ++ Property.encrypted) :=
    String.append_assoc
  rw [propertyOf, propertyOf, ← hkey]
  rfl

theorem hasProtocol_iff {name protocol : String} :
    HasProtocol env name protocol ↔ (Connection.ofName env name).protocol = protocol := by
  rw [protocol_ofName]
  constructor
  · rintro (hprotocol | ⟨hnone, hencrypted⟩ | ⟨hnone, hplain⟩)
    · rw [hprotocol, Option.getD_some]
    · rw [hnone, Option.getD_none, if_pos ((isEncrypted_iff env name).mp hencrypted)]
    · rw [hnone, Option.getD_none, if_neg (mt (isEncrypted_iff env name).mpr hplain)]
  · rintro rfl
    cases hprotocol : propertyOf env name Property.protocol with
    | some protocol => exact .named hprotocol
    | none =>
        rw [Option.getD_none]
        by_cases hencrypted : IsEncrypted env name
        · rw [if_pos ((isEncrypted_iff env name).mp hencrypted)]
          exact .encrypted hprotocol hencrypted
        · rw [if_neg (mt (isEncrypted_iff env name).mpr hencrypted)]
          exact .plain hprotocol hencrypted

/-! ## What a name stands for -/

/-- A name is passed over: there is no host or no port. -/
def IsSkipped (name : String) : Prop :=
  propertyOf env name Property.host = none ∨ propertyOf env name Property.port = none

/-- The fields of a connection with a host and a port, the host with its templates
expanded. -/
inductive HasFields (name : String) : Fields → Prop
  | intro {template port protocol : String}
      (hhost : propertyOf env name Property.host = some template)
      (hport : propertyOf env name Property.port = some port)
      (hprotocol : HasProtocol env name protocol) :
      HasFields name ⟨protocol, expansion.expand env template, port⟩

theorem ofName?_eq (name : String) :
    Fields.ofName? expansion env name =
      match propertyOf env name Property.host, propertyOf env name Property.port with
      | some host, some port =>
        some ⟨(Connection.ofName env name).protocol, expansion.expand env host, port⟩
      | _, _ => none :=
  rfl

theorem ofName?_eq_none_iff {name : String} :
    Fields.ofName? expansion env name = none ↔ IsSkipped env name := by
  rw [ofName?_eq, IsSkipped]
  cases propertyOf env name Property.host <;> cases propertyOf env name Property.port <;> simp

theorem ofName?_eq_some_iff {name : String} {fields : Fields} :
    Fields.ofName? expansion env name = some fields ↔ HasFields expansion env name fields := by
  rw [ofName?_eq]
  constructor
  · intro hfields
    split at hfields
    case h_1 host port hhost hport =>
      cases hfields
      exact .intro hhost hport ((hasProtocol_iff env).mpr rfl)
    case h_2 => cases hfields
  · rintro ⟨hhost, hport, hprotocol⟩
    rw [hhost, hport, (hasProtocol_iff env).mp hprotocol]

/-! ## Names in order -/

/-- The endpoints that are derived from names, one after the other. -/
inductive Derives : List String → List Endpoint → Prop
  | nil : Derives [] []
  | skip {name : String} {names : List String} {endpoints : List Endpoint}
      (hskipped : IsSkipped env name) (hrest : Derives names endpoints) :
      Derives (name :: names) endpoints
  | take {name : String} {names : List String} {fields : Fields} {endpoint : Endpoint}
      {endpoints : List Endpoint} (hfields : HasFields expansion env name fields)
      (hendpoint : fields.endpoint = .ok endpoint) (hrest : Derives names endpoints) :
      Derives (name :: names) (endpoint :: endpoints)

/-- A name is refused: its fields make no endpoint, and the fault tells their address. -/
def Refuses (name : String) (fault : Fault) : Prop :=
  ∃ fields reason, HasFields expansion env name fields ∧ fields.endpoint = .error fault ∧
    fault = .invalidEndpoint
      (address fields.protocol (bracketed fields.host) fields.port) (some reason)

variable {expansion env}

theorem outcome_ofConnections_of_isSkipped {name : String} (hskipped : IsSkipped env name)
    (names : List String) :
    (ofConnections expansion env (name :: names)).outcome =
      (ofConnections expansion env names).outcome := by
  rw [outcome_ofConnections, outcome_ofConnections,
    List.filterMap_cons_none ((ofName?_eq_none_iff expansion env).mpr hskipped)]

theorem outcome_ofConnections_of_hasFields {name : String} {fields : Fields}
    (hfields : HasFields expansion env name fields) (names : List String) :
    (ofConnections expansion env (name :: names)).outcome =
      fields.endpoint >>= fun endpoint =>
        (ofConnections expansion env names).outcome >>= fun endpoints =>
          .ok (endpoint :: endpoints) := by
  rw [outcome_ofConnections, outcome_ofConnections,
    List.filterMap_cons_some ((ofName?_eq_some_iff expansion env).mpr hfields), List.mapM_cons]
  rfl

theorem isSkipped_or_hasFields (expansion : Expansion) (env : Table Value) (name : String) :
    IsSkipped env name ∨ ∃ fields, HasFields expansion env name fields := by
  cases hfields : Fields.ofName? expansion env name with
  | none => exact .inl ((ofName?_eq_none_iff expansion env).mp hfields)
  | some fields => exact .inr ⟨fields, (ofName?_eq_some_iff expansion env).mp hfields⟩

theorem outcome_of_derives {names : List String} {endpoints : List Endpoint}
    (hderives : Derives expansion env names endpoints) :
    (ofConnections expansion env names).outcome = .ok endpoints := by
  induction hderives with
  | nil => rfl
  | skip hskipped _ ih => rw [outcome_ofConnections_of_isSkipped hskipped, ih]
  | take hfields hendpoint _ ih =>
      rw [outcome_ofConnections_of_hasFields hfields, hendpoint, ih]
      rfl

theorem derives_of_outcome {names : List String} {endpoints : List Endpoint}
    (houtcome : (ofConnections expansion env names).outcome = .ok endpoints) :
    Derives expansion env names endpoints := by
  induction names generalizing endpoints with
  | nil =>
      cases houtcome
      exact .nil
  | cons name names ih =>
      rcases isSkipped_or_hasFields expansion env name with hskipped | ⟨fields, hfields⟩
      · rw [outcome_ofConnections_of_isSkipped hskipped] at houtcome
        exact .skip hskipped (ih houtcome)
      · rw [outcome_ofConnections_of_hasFields hfields] at houtcome
        obtain ⟨endpoint, hendpoint, hrest⟩ := Outcome.bind_eq_ok_iff.mp houtcome
        obtain ⟨others, hothers, hcons⟩ := Outcome.bind_eq_ok_iff.mp hrest
        cases hcons
        exact .take hfields hendpoint (ih hothers)

theorem outcome_of_refuses {before after : List String} {name : String}
    {endpoints : List Endpoint} {fault : Fault} (hbefore : Derives expansion env before endpoints)
    (hrefuses : Refuses expansion env name fault) :
    (ofConnections expansion env (before ++ name :: after)).outcome = .error fault := by
  induction hbefore with
  | nil =>
      obtain ⟨fields, -, hfields, hfault, -⟩ := hrefuses
      rw [List.nil_append, outcome_ofConnections_of_hasFields hfields, hfault]
      rfl
  | skip hskipped _ ih => rw [List.cons_append, outcome_ofConnections_of_isSkipped hskipped, ih]
  | take hfields hendpoint _ ih =>
      rw [List.cons_append, outcome_ofConnections_of_hasFields hfields, hendpoint, ih]
      rfl

/-- The names in front of the one that is refused derive endpoints, which are lost. -/
theorem exists_refuses_of_outcome {names : List String} {fault : Fault}
    (houtcome : (ofConnections expansion env names).outcome = .error fault) :
    ∃ before name after endpoints, names = before ++ name :: after ∧
      Derives expansion env before endpoints ∧ Refuses expansion env name fault := by
  induction names with
  | nil => cases houtcome
  | cons name names ih =>
      rcases isSkipped_or_hasFields expansion env name with hskipped | ⟨fields, hfields⟩
      · rw [outcome_ofConnections_of_isSkipped hskipped] at houtcome
        obtain ⟨before, refused, after, endpoints, rfl, hbefore, hrefuses⟩ := ih houtcome
        exact ⟨name :: before, refused, after, endpoints, rfl, .skip hskipped hbefore, hrefuses⟩
      · rw [outcome_ofConnections_of_hasFields hfields, Outcome.bind_eq_error_iff] at houtcome
        rcases houtcome with hfault | ⟨endpoint, hendpoint, hrest⟩
        · obtain ⟨reason, htold⟩ := endpoint_eq_error hfault
          exact ⟨[], name, names, [], rfl, .nil, fields, reason, hfields, hfault, htold⟩
        · rcases Outcome.bind_eq_error_iff.mp hrest with hrest | ⟨others, -, hcons⟩
          · obtain ⟨before, refused, after, endpoints, rfl, hbefore, hrefuses⟩ := ih hrest
            exact ⟨name :: before, refused, after, endpoint :: endpoints, rfl,
              .take hfields hendpoint hbefore, hrefuses⟩
          · cases hcons

/-! ## Warnings -/

theorem level_of_mem_records_endpoint? {connection : Connection} {record : Log.Record}
    (hrecord : record ∈ (connection.endpoint? expansion env).records) :
    record.level = Log.debug := by
  rw [Connection.endpoint?] at hrecord
  split at hrecord
  · rcases Logged.mem_records_bind_iff.mp hrecord with hrecord | ⟨endpoint, -, hrecord⟩ <;>
      cases hrecord
  · rcases Logged.mem_records_bind_iff.mp hrecord with hrecord | ⟨_, -, hrecord⟩
    · rw [List.mem_singleton.mp hrecord]
      rfl
    · cases hrecord

theorem level_of_mem_records_ofConnections {names : List String} {record : Log.Record}
    (hrecord : record ∈ (ofConnections expansion env names).records) :
    record.level = Log.debug := by
  induction names with
  | nil => cases hrecord
  | cons name names ih =>
      rw [ofConnections] at hrecord
      rcases Logged.mem_records_bind_iff.mp hrecord with hrecord | ⟨endpoint, -, hrecord⟩
      · exact level_of_mem_records_endpoint? hrecord
      · rcases Logged.mem_records_bind_iff.mp hrecord with hrecord | ⟨others, -, hrecord⟩
        · exact ih hrecord
        · cases hrecord

theorem connectionEndpoints_of_eq_nil (hnames : listedNames env = []) :
    connectionEndpoints expansion env = pure none := by
  have hempty : (listedNames env).isEmpty = true := by
    simpa using hnames
  rw [connectionEndpoints]
  exact if_pos hempty

theorem connectionEndpoints_of_ne_nil (hnames : listedNames env ≠ []) :
    connectionEndpoints expansion env = do
      Logged.write deprecation
      let endpoints ← ofConnections expansion env (connectionNames (listedNames env))
      return some endpoints := by
  have hempty : ¬ (listedNames env).isEmpty = true := by
    simpa using hnames
  rw [connectionEndpoints]
  exact if_neg hempty

theorem warnings_connectionEndpoints (hnames : listedNames env ≠ []) :
    Log.warnings (connectionEndpoints expansion env).records = [deprecation] := by
  have hrecords : (connectionEndpoints expansion env).records = deprecation ::
      (do
        let endpoints ← ofConnections expansion env (connectionNames (listedNames env))
        return some endpoints : Logged (Option (List Endpoint))).records := by
    rw [connectionEndpoints_of_ne_nil hnames]
    rfl
  rw [hrecords, Log.warnings, List.filter_cons_of_pos rfl, List.cons_inj_right,
    List.filter_eq_nil_iff]
  intro record hrecord
  have hlevel : record.level = Log.debug := by
    rcases Logged.mem_records_bind_iff.mp hrecord with hrecord | ⟨endpoints, -, hrecord⟩
    · exact level_of_mem_records_ofConnections hrecord
    · cases hrecord
  rw [hlevel]
  decide

/-! ## The outcome -/

theorem outcome_connectionEndpoints_of_ne_nil (hnames : listedNames env ≠ []) :
    (connectionEndpoints expansion env).outcome =
      (ofConnections expansion env (connectionNames (namesText env))).outcome >>= fun endpoints =>
        .ok (some endpoints) := by
  rw [outcome_connectionEndpoints, if_neg hnames, listedFields, connectionNames_listedNames,
    outcome_ofConnections]

theorem outcome_connectionEndpoints_eq_none_iff :
    (connectionEndpoints expansion env).outcome = .ok none ↔ listedNames env = [] := by
  constructor
  · intro houtcome
    by_contra hnames
    rw [outcome_connectionEndpoints_of_ne_nil hnames] at houtcome
    obtain ⟨endpoints, -, hsome⟩ := Outcome.bind_eq_ok_iff.mp houtcome
    cases hsome
  · intro hnames
    rw [connectionEndpoints_of_eq_nil hnames]
    rfl

theorem outcome_connectionEndpoints_eq_some_iff (hnames : listedNames env ≠ [])
    {endpoints : List Endpoint} :
    (connectionEndpoints expansion env).outcome = .ok (some endpoints) ↔
      Derives expansion env (connectionNames (namesText env)) endpoints := by
  rw [outcome_connectionEndpoints_of_ne_nil hnames, Outcome.bind_eq_ok_iff]
  constructor
  · rintro ⟨found, hfound, hsome⟩
    cases hsome
    exact derives_of_outcome hfound
  · intro hderives
    exact ⟨endpoints, outcome_of_derives hderives, rfl⟩

theorem outcome_connectionEndpoints_eq_error_iff (hnames : listedNames env ≠ []) {fault : Fault} :
    (connectionEndpoints expansion env).outcome = .error fault ↔
      ∃ before name after endpoints,
        connectionNames (namesText env) = before ++ name :: after ∧
          Derives expansion env before endpoints ∧ Refuses expansion env name fault := by
  rw [outcome_connectionEndpoints_of_ne_nil hnames, Outcome.bind_eq_error_iff]
  constructor
  · rintro (hfault | ⟨endpoints, -, hfault⟩)
    · exact exists_refuses_of_outcome hfault
    · cases hfault
  · rintro ⟨before, name, after, endpoints, hsplit, hbefore, hrefuses⟩
    rw [hsplit]
    exact .inl (outcome_of_refuses hbefore hrefuses)

end Environment

/-- Endpoints are derived from the names that an environment lists, in order: names without
a host or a port are passed over, and the first name that is refused decides the fault.
There is no list of endpoints exactly if the text of the names is blank.  Otherwise one
warning is told, also when a name is refused. -/
theorem configured_derives {expansion : Expansion} {env : Table Value}
    (hconnections : UsesConnections expansion env) :
    let text := namesText env
    let run := configured expansion env
    (run.outcome = .ok none ↔ ∀ c ∈ text, Text.isBlank c = true) ∧
      ((∀ c ∈ text, Text.isBlank c = true) → run.records = []) ∧
      (¬ (∀ c ∈ text, Text.isBlank c = true) → Log.warnings run.records = [deprecation] ∧
        ∃ names, Lists text names ∧ (∀ others, Lists text others → others = names) ∧
          (∀ endpoints, run.outcome = .ok (some endpoints) ↔
            Derives expansion env names endpoints) ∧
          ∀ fault, run.outcome = .error fault ↔
            ∃ before name after endpoints, names = before ++ name :: after ∧
              Derives expansion env before endpoints ∧ Refuses expansion env name fault) := by
  intro text run
  have hrun : run = connectionEndpoints expansion env :=
    configured_eq_connectionEndpoints expansion env hconnections
  rw [hrun, ← listedNames_eq_nil_iff]
  refine ⟨outcome_connectionEndpoints_eq_none_iff, ?_, ?_⟩
  · intro hnames
    rw [connectionEndpoints_of_eq_nil hnames]
    rfl
  · intro hnames
    exact ⟨warnings_connectionEndpoints hnames, connectionNames text, lists_connectionNames text,
      fun others hothers => (lists_iff.mp hothers).symm,
      fun endpoints => outcome_connectionEndpoints_eq_some_iff hnames,
      fun fault => outcome_connectionEndpoints_eq_error_iff hnames⟩

/-- Connections of which one has no port, one has no name, and one is named twice and
encrypted like all others. -/
def namedTwice : Table Value :=
  ⟨[("remote.connections", .text " b ,a,, b,, "),
    ("remote.connection.a.host", .text "a.example"),
    ("remote.connection.a.protocol", .text "http"),
    ("remote.connection.b.host", .text "b.example"),
    ("remote.connection.b.port", .int 80),
    ("remote.connectionprovider.create.options.ssl_enabled", .bool true)]⟩

theorem namedTwice_derives :
    let expansion : Expansion := ⟨none, .empty⟩
    let endpoint : Endpoint :=
      ⟨"remote+https://b.example:80", some "remote+https", some "b.example", some 80, ""⟩
    UsesConnections expansion namedTwice ∧ Lists (namesText namedTwice) ["b", "a", "", "b"] ∧
      Derives expansion namedTwice ["b", "a", "", "b"] [endpoint, endpoint] ∧
      Log.warnings (configured expansion namedTwice).records = [deprecation] := by
  intro expansion endpoint
  have hconnections : UsesConnections expansion namedTwice := nofun
  have hlists : Lists (namesText namedTwice) ["b", "a", "", "b"] := by
    rw [lists_iff]
    decide +kernel
  have houtcome : (configured expansion namedTwice).outcome = .ok (some [endpoint, endpoint]) := by
    decide +kernel
  have htext : ¬ ∀ c ∈ namesText namedTwice, Text.isBlank c = true := by
    intro hblank
    exact absurd (hblank 'a' (by decide +kernel)) (by decide)
  obtain ⟨-, -, hnamed⟩ := configured_derives hconnections
  obtain ⟨hwarnings, names, -, hunique, hderives, -⟩ := hnamed htext
  rw [← hunique _ hlists] at hderives
  exact ⟨hconnections, hlists, (hderives _).mp houtcome, hwarnings⟩

end NameRouting.Endpoint
