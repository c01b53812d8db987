import NameRouting.Endpoint.Configured
import NameRouting.Proofs.Endpoint.Reading

/-!
# Endpoints of connections

A connection becomes an endpoint by a detour: its protocol, its host and its port are
written as an address, and the address is read.  Every field is found again in the
endpoint unless the protocol or the host holds a delimiter of addresses.  Then some
field is lost or changed, or the address is refused.
-/

namespace NameRouting.Endpoint

/-! ## The fields of a connection -/

/-- What a connection with a host and a port says about its endpoint, the host with its
templates expanded. -/
structure Fields where
  protocol : String
  host : String
  port : String
deriving DecidableEq

namespace Fields

/-- The endpoint that the fields are made into. -/
def endpoint (fields : Fields) : Except Fault Endpoint :=
  ofConnection fields.protocol fields.host fields.port

/-- The text of a port is the decimal form of a number; a sign may stand in front and
blanks on both sides. -/
def IsPort (text : String) (n : Nat) : Prop :=
  ∃ sign digits, Text.trim text.toList = sign ++ digits ∧
    (sign = [] ∨ sign = ['+'] ∨ sign = ['-'] ∧ n = 0) ∧ Text.natural? digits = some n

/-- An endpoint has the fields of a connection and nothing else. -/
structure AreKept (fields : Fields) (endpoint : Endpoint) : Prop where
  scheme : endpoint.scheme = some fields.protocol
  host : endpoint.host =
    some (String.ofList (Uri.hostName (Uri.unbracketed fields.host.toList)))
  port : ∃ n, IsPort fields.port n ∧ endpoint.port = some n
  path : endpoint.path = ""

/-- Neither the protocol nor the host holds a delimiter that an address divides it at. -/
structure ArePlain (fields : Fields) : Prop where
  protocol : ∀ c ∈ [':', '/', '?', '#'], c ∉ fields.protocol.toList
  host : ∀ c ∈ ['/', '?', '#', '@'], c ∉ fields.host.toList

instance (fields : Fields) : Decidable fields.ArePlain :=
  decidable_of_iff
    (([':', '/', '?', '#'].all fun c => decide (c ∉ fields.protocol.toList)) = true ∧
      (['/', '?', '#', '@'].all fun c => decide (c ∉ fields.host.toList)) = true)
    (by
      simp only [List.all_eq_true, decide_eq_true_eq]
      exact ⟨fun hfree => ⟨hfree.1, hfree.2⟩, fun hplain => ⟨hplain.protocol, hplain.host⟩⟩)

end Fields

/-! ## Ports and hosts as they are written -/

theorem isPort_of_readPort {text : String} {n : Nat} (hread : readPort text = .ok n) :
    Fields.IsPort text n := by
  rw [readPort] at hread
  split at hread
  case h_1 negative digits hsigned =>
    have hsign : ∃ sign, Text.trim text.toList = sign ++ digits ∧
        (sign = [] ∨ sign = ['+'] ∨ sign = ['-'] ∧ negative = true) := by
      split at hsigned
      case h_1 rest htext =>
        cases hsigned
        exact ⟨['-'], htext, .inr (.inr ⟨rfl, rfl⟩)⟩
      case h_2 rest htext =>
        cases hsigned
        exact ⟨['+'], htext, .inr (.inl rfl)⟩
      case h_3 =>
        cases hsigned
        exact ⟨[], rfl, .inl rfl⟩
    obtain ⟨sign, htext, hsign⟩ := hsign
    split at hread
    case h_1 => cases hread
    case h_2 m hnumber =>
      split at hread
      · cases hread
      · split at hread
        case isTrue => cases hread
        case isFalse hnonzero =>
          cases hread
          refine ⟨sign, digits, htext, ?_, hnumber⟩
          rcases hsign with hsign | hsign | ⟨hsign, rfl⟩
          · exact .inl hsign
          · exact .inr (.inl hsign)
          · exact .inr (.inr ⟨hsign, by simpa using hnonzero⟩)

theorem bracketed_cases (host : String) :
    ((bracketed host).toList = '[' :: (host.toList ++ [']']) ∧
        Uri.unbracketed host.toList = host.toList) ∨
      ((bracketed host).toList = host.toList ∧
        (':' ∈ host.toList → '[' ∈ host.toList ∨ ']' ∈ host.toList)) := by
  rw [bracketed]
  by_cases hbare : (host.toList.contains ':' && host.toList.head? != some '[' &&
      host.toList.getLast? != some ']') = true
  · rw [if_pos hbare]
    simp only [Bool.and_eq_true, bne_iff_ne] at hbare
    refine .inl ⟨by simp, if_neg fun hends => hbare.1.2 hends.1⟩
  · rw [if_neg hbare]
    simp only [Bool.and_eq_true, bne_iff_ne, List.contains_iff_mem, not_and_or, not_not] at hbare
    refine .inr ⟨rfl, fun hcolon => ?_⟩
    rcases hbare with (hnone | hhead) | hlast
    · exact absurd hcolon hnone
    · exact .inl (List.mem_of_head? hhead)
    · exact .inr (List.mem_of_getLast? hlast)

theorem unbracketed_bracketed (host : String) :
    Uri.unbracketed (bracketed host).toList = Uri.unbracketed host.toList := by
  rcases bracketed_cases host with ⟨hwritten, hhost⟩ | ⟨hwritten, -⟩
  · rw [hwritten, Uri.unbracketed_of_brackets, hhost]
  · rw [hwritten]

theorem mem_brackets_of_mem_bracketed {host : String} (hcolon : ':' ∈ (bracketed host).toList) :
    '[' ∈ (bracketed host).toList ∨ ']' ∈ (bracketed host).toList := by
  rcases bracketed_cases host with ⟨hwritten, -⟩ | ⟨hwritten, hhost⟩
  · exact .inl (by rw [hwritten]; exact List.mem_cons_self)
  · rw [hwritten] at hcolon ⊢
    exact hhost hcolon

theorem mem_bracketed_iff {c : Char} (hopen : c ≠ '[') (hclose : c ≠ ']') (host : String) :
    c ∈ (bracketed host).toList ↔ c ∈ host.toList := by
  rw [← Uri.mem_unbracketed_iff hopen hclose, unbracketed_bracketed,
    Uri.mem_unbracketed_iff hopen hclose]

/-! ## The address of a connection -/

theorem toList_address (protocol host port : String) :
    (address protocol host port).toList =
      protocol.toList ++ ':' :: '/' :: '/' :: (host.toList ++ ':' :: port.toList) := by
  simp [address]

theorem endpoint_eq_ok {fields : Fields} {endpoint : Endpoint}
    (hendpoint : fields.endpoint = .ok endpoint) :
    bracketed fields.host ≠ "" ∧ ∃ n, readPort fields.port = .ok n ∧
      parse (address fields.protocol (bracketed fields.host) (toString n)) = .ok endpoint := by
  rw [Fields.endpoint, ofConnection] at hendpoint
  by_cases hhost : (bracketed fields.host).isEmpty = true
  · rw [if_pos hhost] at hendpoint
    cases hendpoint
  · rw [if_neg hhost] at hendpoint
    refine ⟨by simpa using hhost, ?_⟩
    split at hendpoint
    case h_1 hread =>
      cases hendpoint
      exact Outcome.bind_eq_ok_iff.mp hread
    case h_2 => cases hendpoint

theorem endpoint_eq_ok_iff {fields : Fields} {endpoint : Endpoint} :
    fields.endpoint = .ok endpoint ↔ bracketed fields.host ≠ "" ∧
      ∃ n, readPort fields.port = .ok n ∧
        parse (address fields.protocol (bracketed fields.host) (toString n)) = .ok endpoint := by
  constructor
  · exact endpoint_eq_ok
  · rintro ⟨hhost, n, hn, hparse⟩
    have hread : (readPort fields.port >>= fun n =>
        parse (address fields.protocol (bracketed fields.host) (toString n))) = .ok endpoint :=
      Outcome.bind_eq_ok_iff.mpr ⟨n, hn, hparse⟩
    rw [Fields.endpoint, ofConnection, if_neg (by simpa using hhost), hread]

theorem endpoint_eq_error {fields : Fields} {fault : Fault}
    (hendpoint : fields.endpoint = .error fault) :
    ∃ reason, fault = .invalidEndpoint
      (address fields.protocol (bracketed fields.host) fields.port) (some reason) := by
  rw [Fields.endpoint, ofConnection] at hendpoint
  split at hendpoint
  · cases hendpoint
    exact ⟨_, rfl⟩
  · split at hendpoint <;> cases hendpoint
    exact ⟨_, rfl⟩

/-! ## What is kept -/

theorem endsScheme_iff {c : Char} : EndsScheme c ↔ c ∈ [':', '/', '?', '#'] := by
  simp [EndsScheme, Uri.endsAuthority, or_assoc]

theorem eq_or_endsAuthority_iff {c : Char} :
    c = '@' ∨ Uri.endsAuthority c = true ↔ c ∈ ['/', '?', '#', '@'] := by
  simp [Uri.endsAuthority]
  tauto

theorem isSign_of_mem_delimiters {c : Char} (hc : c ∈ ['/', '?', '#', '@']) :
    Text.IsSign c ∧ c ≠ '[' ∧ c ≠ ']' := by
  simp only [List.mem_cons, List.not_mem_nil, or_false] at hc
  rcases hc with rfl | rfl | rfl | rfl <;> decide

/-- The host that is found holds none of the characters that end it. -/
theorem not_mem_of_isRead {text : List Char} {scheme : Option (List Char)} {parts : Uri.Parts}
    {endpoint : Endpoint} (hread : IsRead text scheme parts endpoint) {c : Char}
    (hc : c ∈ ['/', '?', '#', '@']) :
    c ∉ (Uri.hostAndPort parts.authority).1 := by
  intro hmem
  have hinfo := Uri.fst_hostAndPort_subset _ hmem
  rcases eq_or_endsAuthority_iff.mpr hc with rfl | hends
  · exact Text.not_mem_cutAtLast '@' _ hinfo
  · obtain ⟨rest, hauthority, -, -⟩ := Uri.split_eq_ok hread.visible hread.split
    have hauthority' : c ∈ (Uri.takeAuthority (Uri.takeScheme text).2).1 := by
      rw [hauthority]
      exact (Text.cutAtLast_suffix '@' _).subset hinfo
    rw [Uri.endsAuthority_of_mem_takeAuthority hauthority'] at hends
    cases hends

theorem arePlain_of_areKept {fields : Fields} {endpoint : Endpoint}
    (hendpoint : fields.endpoint = .ok endpoint) (hkept : fields.AreKept endpoint) :
    fields.ArePlain := by
  obtain ⟨-, n, -, hparse⟩ := endpoint_eq_ok hendpoint
  obtain ⟨scheme, parts, hread⟩ := exists_isRead_of_parse hparse
  refine ⟨fun c hc hmem => ?_, fun c hc hmem => ?_⟩
  · have hscheme : scheme = some fields.protocol.toList := by
      have hmap := hread.scheme_eq.symm.trans hkept.scheme
      obtain ⟨s, hs, hprotocol⟩ := Option.map_eq_some_iff.mp hmap
      rw [hs, ← hprotocol, String.toList_ofList]
    have hcandidate := (schemeCandidate?_of_scheme? hread.scheme?).1.trans hscheme
    exact not_endsScheme_of_schemeCandidate? hcandidate c hmem (endsScheme_iff.mpr hc)
  · obtain ⟨hsign, hopen, hclose⟩ := isSign_of_mem_delimiters hc
    have hname : Uri.hostName (Uri.hostAndPort parts.authority).1 =
        Uri.hostName (Uri.unbracketed fields.host.toList) := by
      have hmap := hread.host_eq.symm.trans hkept.host
      obtain ⟨name, hfound, hname⟩ := Option.map_eq_some_iff.mp hmap
      rw [Uri.host?_eq] at hfound
      split at hfound <;> cases hfound
      exact String.ofList_injective hname
    refine not_mem_of_isRead hread hc ?_
    rw [← Uri.mem_hostName_iff hsign, hname, Uri.mem_hostName_iff hsign,
      Uri.mem_unbracketed_iff hopen hclose]
    exact hmem

theorem not_mem_bracketed {fields : Fields} (hplain : fields.ArePlain) {c : Char}
    (hc : c ∈ ['/', '?', '#', '@']) :
    c ∉ (bracketed fields.host).toList := by
  obtain ⟨-, hopen, hclose⟩ := isSign_of_mem_delimiters hc
  rw [mem_bracketed_iff hopen hclose]
  exact hplain.host c hc

theorem endsAuthority_of_arePlain {fields : Fields} (hplain : fields.ArePlain) (n : Nat) :
    ∀ c ∈ (bracketed fields.host).toList ++ ':' :: (toString n).toList,
      Uri.endsAuthority c = false := by
  intro c hmem
  rw [List.mem_append, List.mem_cons] at hmem
  rcases hmem with hhost | rfl | hdigit
  · by_contra hends
    rw [Bool.not_eq_false] at hends
    exact not_mem_bracketed hplain (eq_or_endsAuthority_iff.mp (.inr hends)) hhost
  · rfl
  · exact Uri.endsAuthority_of_isDigit (Text.isDigit_of_mem_toString hdigit)

theorem areKept_of_arePlain {fields : Fields} {endpoint : Endpoint}
    (hendpoint : fields.endpoint = .ok endpoint) (hplain : fields.ArePlain) :
    fields.AreKept endpoint := by
  obtain ⟨hhost, n, hn, hparse⟩ := endpoint_eq_ok hendpoint
  obtain ⟨scheme, parts, hread⟩ := exists_isRead_of_parse hparse
  -- The address is divided where it was put together, so the authority is host and port.
  obtain ⟨rfl, hauthority, hpath⟩ := hread.divided (toList_address _ _ _)
    (fun c hmem hc => hplain.protocol c (endsScheme_iff.mp hc) hmem)
    (endsAuthority_of_arePlain hplain n)
  obtain ⟨-, -, hcheck, -⟩ := Uri.split_eq_ok hread.visible hread.split
  rw [hauthority] at hcheck
  obtain ⟨hne, hdigits⟩ := Text.natural?_eq_some (Text.natural?_toString n)
  obtain ⟨hfound, hinner⟩ := Uri.hostAndPort_append (by simpa using hhost)
    (not_mem_bracketed hplain (by decide)) mem_brackets_of_mem_bracketed hne hdigits hcheck
    (hauthority ▸ Uri.isDigit_of_port? hread.port?)
  rw [unbracketed_bracketed] at hfound hinner
  rw [← hauthority] at hfound
  have hport : endpoint.port = some n := by
    refine Uri.port?_of_natural? ?_ hread.port?
    rw [hfound, Text.natural?_toString]
  refine ⟨hread.scheme_eq.trans ?_, hread.host_eq.trans ?_, ⟨n, isPort_of_readPort hn, hport⟩,
    hread.path_eq.trans ?_⟩
  · rw [Option.map_some, String.ofList_toList]
  · rw [Uri.host?_eq, hfound, if_neg hinner, Option.map_some]
  · rw [hpath, String.ofList_nil]

/-! ## All connections of an environment -/

/-- The names of connections as an environment lists them, without blanks around. -/
def listedNames (env : Table Value) : List Char :=
  match env.get? Property.connections with
  | none => []
  | some value => if value.isBare then [] else Text.trim value.toText.toList

section Environment

variable (expansion : Expansion) (env : Table Value)

/-- The fields of a connection, when it has a host and a port. -/
def Fields.ofName? (name : String) : Option Fields :=
  let connection := Connection.ofName env name
  match connection.host, connection.port with
  | some host, some port => some ⟨connection.protocol, expansion.expand env host, port⟩
  | _, _ => none

/-- The fields of the listed connections that have a host and a port, in order. -/
def listedFields : List Fields :=
  (connectionNames (listedNames env)).filterMap (Fields.ofName? expansion env)

/-- The environment leaves the list of endpoints open, so that connections are looked
at. -/
def UsesConnections : Prop :=
  ∀ template ∈ textOf? env Property.providerUrl, expansion.expand env template = ""

theorem outcome_endpoint? (name : String) :
    ((Connection.ofName env name).endpoint? expansion env).outcome =
      match Fields.ofName? expansion env name with
      | none => .ok none
      | some fields => fields.endpoint >>= fun endpoint => .ok (some endpoint) := by
  rw [Connection.endpoint?, Fields.ofName?]
  rcases (Connection.ofName env name).host with _ | host
  · rfl
  · rcases (Connection.ofName env name).port with _ | port
    · rfl
    · dsimp only [Fields.endpoint]
      rw [Logged.outcome_bind, Logged.outcome_ofExcept]
      rfl

theorem outcome_ofConnections (names : List String) :
    (ofConnections expansion env names).outcome =
      (names.filterMap (Fields.ofName? expansion env)).mapM Fields.endpoint := by
  induction names with
  | nil => rfl
  | cons name names ih =>
      rw [ofConnections, Logged.outcome_bind, outcome_endpoint?]
      simp only [Logged.outcome_bind, ih]
      cases hfields : Fields.ofName? expansion env name with
      | none =>
          rw [List.filterMap_cons_none hfields]
          cases (names.filterMap (Fields.ofName? expansion env)).mapM Fields.endpoint <;> rfl
      | some fields =>
          rw [List.filterMap_cons_some hfields, List.mapM_cons]
          dsimp only
          cases fields.endpoint with
          | error fault => rfl
          | ok endpoint =>
              cases (names.filterMap (Fields.ofName? expansion env)).mapM Fields.endpoint <;> rfl

theorem outcome_connectionEndpoints :
    (connectionEndpoints expansion env).outcome =
      if listedNames env = [] then .ok none
      else (listedFields expansion env).mapM Fields.endpoint >>= fun endpoints =>
        .ok (some endpoints) := by
  rw [connectionEndpoints]
  change (if (listedNames env).isEmpty then _ else _ : Logged _).outcome = _
  by_cases hnames : listedNames env = []
  · rw [if_pos (by simpa using hnames), if_pos hnames]
    rfl
  · rw [if_neg (by simpa using hnames), if_neg hnames]
    simp only [Logged.outcome_bind, outcome_ofConnections]
    rfl

theorem configured_eq_connectionEndpoints (hconnections : UsesConnections expansion env) :
    configured expansion env = connectionEndpoints expansion env := by
  have hlist : ((textOf? env Property.providerUrl).map (expansion.expand env)).getD "" = "" := by
    cases htext : textOf? env Property.providerUrl with
    | none => rfl
    | some template => exact hconnections template htext
  rw [configured, hlist]
  rfl

end Environment

/-- Connections are turned into endpoints one by one, in order.  An endpoint has the
fields of its connection exactly when they hold no delimiter; when one connection is
refused, there are no endpoints at all. -/
theorem configured_areKept_iff {expansion : Expansion} {env : Table Value}
    (hconnections : UsesConnections expansion env) :
    match (configured expansion env).outcome with
    | .ok none => listedFields expansion env = []
    | .ok (some endpoints) =>
      List.Forall₂ (fun fields endpoint => fields.AreKept endpoint ↔ fields.ArePlain)
        (listedFields expansion env) endpoints
    | .error fault =>
      ∃ fields ∈ listedFields expansion env, ∃ reason,
        fault = .invalidEndpoint
          (address fields.protocol (bracketed fields.host) fields.port) (some reason) := by
  rw [configured_eq_connectionEndpoints expansion env hconnections,
    outcome_connectionEndpoints]
  by_cases hnames : listedNames env = []
  · rw [if_pos hnames, listedFields, hnames]
    rfl
  · rw [if_neg hnames]
    cases houtcome : (listedFields expansion env).mapM Fields.endpoint with
    | ok endpoints =>
        refine (Outcome.mapM_eq_ok_iff.mp houtcome).imp ?_
        intro fields endpoint hendpoint
        exact ⟨arePlain_of_areKept hendpoint, areKept_of_arePlain hendpoint⟩
    | error fault =>
        obtain ⟨fields, hfields, hendpoint⟩ := Outcome.exists_of_mapM_eq_error houtcome
        exact ⟨fields, hfields, endpoint_eq_error hendpoint⟩

/-- Two connections, one of them without a port and the other one encrypted. -/
def encryptedOnce : Table Value :=
  ⟨[("remote.connections", .text " a , b,"),
    ("remote.connection.a.host", .text "a.example"),
    ("remote.connection.b.host", .text "FE80::1"),
    ("remote.connection.b.port", .text " +080 "),
    ("remote.connection.b.connect.options.ssl_enabled", .bool true)]⟩

theorem encryptedOnce_areKept :
    UsesConnections ⟨none, .empty⟩ encryptedOnce ∧
      listedFields ⟨none, .empty⟩ encryptedOnce = [⟨"remote+https", "FE80::1", " +080 "⟩] ∧
      ∃ endpoint, (configured ⟨none, .empty⟩ encryptedOnce).outcome = .ok (some [endpoint]) ∧
        (⟨"remote+https", "FE80::1", " +080 "⟩ : Fields).AreKept endpoint := by
  have hconnections : UsesConnections ⟨none, .empty⟩ encryptedOnce := nofun
  have hfields : listedFields ⟨none, .empty⟩ encryptedOnce =
      [⟨"remote+https", "FE80::1", " +080 "⟩] := by
    decide +kernel
  have houtcome : (configured ⟨none, .empty⟩ encryptedOnce).outcome =
      .ok (some [⟨"remote+https://[FE80::1]:80", some "remote+https", some "fe80::1", some 80,
        ""⟩]) := by
    decide +kernel
  have hplain : (⟨"remote+https", "FE80::1", " +080 "⟩ : Fields).ArePlain := by
    decide +kernel
  have hkept := configured_areKept_iff hconnections
  rw [houtcome, hfields] at hkept
  obtain ⟨hkept, -⟩ := List.forall₂_cons.mp hkept
  exact ⟨hconnections, hfields, _, houtcome, hkept.mpr hplain⟩

/-- A connection whose host starts with a slash. -/
def slashedHost : Table Value :=
  ⟨[("remote.connections", .text "c"), ("remote.connection.c.host", .text "/x"),
    ("remote.connection.c.port", .text "80")]⟩

/-- A host with a slash is no reason to refuse a connection, and neither the host nor
the port is kept. -/
theorem slashedHost_loses_fields :
    UsesConnections ⟨none, .empty⟩ slashedHost ∧
      listedFields ⟨none, .empty⟩ slashedHost = [⟨"remote+http", "/x", "80"⟩] ∧
      ∃ endpoint, (configured ⟨none, .empty⟩ slashedHost).outcome = .ok (some [endpoint]) ∧
        endpoint.host = none ∧ endpoint.port = none ∧ endpoint.path = "/x:80" ∧
        ¬ (⟨"remote+http", "/x", "80"⟩ : Fields).AreKept endpoint := by
  have hfields : listedFields ⟨none, .empty⟩ slashedHost = [⟨"remote+http", "/x", "80"⟩] := by
    decide +kernel
  have houtcome : (configured ⟨none, .empty⟩ slashedHost).outcome =
      .ok (some [⟨"remote+http:///x:80", some "remote+http", none, none, "/x:80"⟩]) := by
    decide +kernel
  refine ⟨nofun, hfields, _, houtcome, rfl, rfl, rfl, ?_⟩
  intro hkept
  cases hkept.host

end NameRouting.Endpoint
