import NameRouting.Proofs.Endpoint.Decomposition
import NameRouting.Proofs.Endpoint.Masking
import NameRouting.Proofs.Endpoint.Padding
import Mathlib.Data.Nat.Digits.Defs

/-!
# Ports of connections

The port of a connection is a whole number with an optional sign and blanks around.  It is
written anew in plain digits before the address is read, and the reader bounds it.  On a
host without delimiters a connection becomes an endpoint exactly if its port is a number
from 0 to 65535, and the endpoint has this number, however it was written.
-/

namespace NameRouting.Endpoint

/-! ## Whole numbers as they are written -/

/-- Digits of ASCII, at least one, with their value. -/
structure IsNumeral (digits : List Char) (n : Nat) : Prop where
  ne_nil : digits ≠ []
  isDigit : ∀ c ∈ digits, c.isDigit = true
  value : Nat.ofDigitChars 10 digits 0 = n

/-- A text writes a whole number: a numeral behind at most one sign. -/
inductive Writes : List Char → Int → Prop
  | bare {digits : List Char} {n : Nat} (hdigits : IsNumeral digits n) : Writes digits n
  | plus {digits : List Char} {n : Nat} (hdigits : IsNumeral digits n) : Writes ('+' :: digits) n
  | minus {digits : List Char} {n : Nat} (hdigits : IsNumeral digits n) :
      Writes ('-' :: digits) (-n)

theorem isNumeral_iff {digits : List Char} {n : Nat} :
    IsNumeral digits n ↔ Text.natural? digits = some n := by
  have hvalue : Text.ofDigits (digits.map fun c => c.toNat - 0x30) =
      Nat.ofDigitChars 10 digits 0 := by
    rw [Text.ofDigits, List.foldl_map]
    rfl
  constructor
  · rintro ⟨hne, hdigits, hn⟩
    obtain ⟨m, hm⟩ := Text.exists_natural? hne hdigits
    rw [Text.natural?] at hm ⊢
    split at hm
    case isTrue hall => rw [if_pos hall, hvalue, hn]
    case isFalse => cases hm
  · intro hn
    obtain ⟨hne, hdigits⟩ := Text.natural?_eq_some hn
    refine ⟨hne, hdigits, ?_⟩
    rw [Text.natural?] at hn
    split at hn
    case isTrue => rw [← hvalue, Option.some.inj hn]
    case isFalse => cases hn

/-- Takes the sign off a number; a missing one counts as plus. -/
def signed (text : List Char) : Bool × List Char :=
  match text with
  | '-' :: digits => (true, digits)
  | '+' :: digits => (false, digits)
  | _ => (false, text)

theorem signed_of_isNumeral {digits : List Char} {n : Nat} (hdigits : IsNumeral digits n) :
    signed digits = (false, digits) := by
  rw [signed.eq_def]
  split
  case h_1 => exact absurd (hdigits.isDigit '-' List.mem_cons_self) (by decide)
  case h_2 => exact absurd (hdigits.isDigit '+' List.mem_cons_self) (by decide)
  case h_3 => rfl

theorem writes_iff {text : List Char} {z : Int} :
    Writes text z ↔ ∃ n : Nat, IsNumeral (signed text).2 n ∧
      z = if (signed text).1 then -(n : Int) else n := by
  constructor
  · rintro (hdigits | hdigits | hdigits)
    · rw [signed_of_isNumeral hdigits]
      exact ⟨_, hdigits, rfl⟩
    · exact ⟨_, hdigits, rfl⟩
    · exact ⟨_, hdigits, rfl⟩
  · rintro ⟨n, hdigits, rfl⟩
    revert hdigits
    rw [signed.eq_def]
    split
    · exact .minus
    · exact .plus
    · exact .bare

/-- The digits behind the sign are among those of the whole text. -/
theorem length_signed_le {text : List Char} {n : Nat} (hdigits : IsNumeral (signed text).2 n) :
    (signed text).2.length ≤ text.countP Char.isDigit := by
  have hall : (signed text).2.countP Char.isDigit = (signed text).2.length :=
    List.countP_eq_length.mpr hdigits.isDigit
  have hsuffix : (signed text).2 <:+ text := by
    rw [signed.eq_def]
    split
    · exact List.suffix_cons _ _
    · exact List.suffix_cons _ _
    · exact List.suffix_refl _
  rw [← hall]
  exact hsuffix.sublist.countP_le

/-! ## Reading a port -/

theorem countP_trim_le (text : List Char) :
    (Text.trim text).countP Char.isDigit ≤ text.countP Char.isDigit := by
  obtain ⟨before, after, -, -, htext⟩ := Text.exists_eq_append_trim text
  rw [htext, List.countP_append, List.countP_append]
  conv_lhs => rw [← htext]
  omega

theorem readPort_eq (port : String) :
    readPort port =
      match Text.natural? (signed (Text.trim port.toList)).2 with
      | none => .error (.illegalPort port)
      | some n =>
        if (signed (Text.trim port.toList)).2.length > Text.digitLimit then
          .error (.tooManyDigits (signed (Text.trim port.toList)).2.length)
        else if (signed (Text.trim port.toList)).1 && n ≠ 0 then .error (.illegalPort port)
        else .ok n :=
  rfl

/-- A port is read exactly if it writes a number that is not negative. -/
theorem readPort_eq_ok_iff {port : String} {n : Nat}
    (hlimit : port.toList.countP Char.isDigit ≤ Text.digitLimit) :
    readPort port = .ok n ↔ Writes (Text.trim port.toList) n := by
  rw [readPort_eq, writes_iff]
  cases hnumber : Text.natural? (signed (Text.trim port.toList)).2 with
  | none =>
      refine iff_of_false nofun ?_
      rintro ⟨m, hdigits, -⟩
      rw [isNumeral_iff, hnumber] at hdigits
      cases hdigits
  | some m =>
      have hdigits := isNumeral_iff.mpr hnumber
      have hlength := (length_signed_le hdigits).trans ((countP_trim_le _).trans hlimit)
      have hvalue : (∃ k : Nat, IsNumeral (signed (Text.trim port.toList)).2 k ∧
          (n : Int) = if (signed (Text.trim port.toList)).1 then -(k : Int) else k) ↔
            (n : Int) = if (signed (Text.trim port.toList)).1 then -(m : Int) else m := by
        constructor
        · rintro ⟨k, hk, hn⟩
          rw [isNumeral_iff, hnumber] at hk
          rwa [Option.some.inj hk]
        · exact fun hn => ⟨m, hdigits, hn⟩
      rw [hvalue]
      dsimp only
      -- The limit on digits is met by the whole text, so it never applies to a part of it.
      rw [if_neg (Nat.not_lt.mpr hlength)]
      cases (signed (Text.trim port.toList)).1 with
      | false => simp [eq_comm]
      | true =>
          by_cases hzero : m = 0
          · simp [hzero, eq_comm]
          · simp [hzero]

/-! ## Addresses of plain hosts -/

/-- A host of letters, digits, hyphens and periods of ASCII. -/
structure IsPlainHost (host : String) : Prop where
  ne_empty : host ≠ ""
  plain : ∀ c ∈ host.toList, c.isAlphanum = true ∨ c = '-' ∨ c = '.'

namespace IsPlainHost

variable {host : String} (hhost : IsPlainHost host)

include hhost

theorem isSchemeChar : ∀ c ∈ host.toList, Uri.isSchemeChar c = true := by
  intro c hc
  rcases hhost.plain c hc with hletter | rfl | rfl
  · rw [Uri.isSchemeChar, hletter]
    rfl
  · decide
  · decide

theorem not_mem {c : Char} (hc : Uri.isSchemeChar c = false) : c ∉ host.toList := by
  intro hmem
  rw [hhost.isSchemeChar c hmem] at hc
  cases hc

theorem bracketed_eq : bracketed host = host := by
  rw [bracketed]
  refine if_neg ?_
  simp [hhost.not_mem (c := ':') rfl]

/-- There are no templates in a plain host. -/
theorem expand_eq (expansion : Expansion) (env : Table Value) :
    expansion.expand env host = host := by
  rw [Expansion.expand, Template.expand, Template.meaning_of_not_mem _ (hhost.not_mem rfl),
    String.ofList_toList]

end IsPlainHost

theorem isSchemeChar_of_isDigit {c : Char} (hc : c.isDigit = true) :
    Uri.isSchemeChar c = true := by
  rw [Uri.isSchemeChar, Char.isAlphanum, hc, Bool.or_true]
  rfl

/-- A protocol, a plain host and the number of a port. -/
structure PlainAddress where
  protocol : String
  host : String
  port : Nat
  isScheme : Uri.isScheme protocol.toList = true
  isPlain : IsPlainHost host

namespace PlainAddress

variable (plain : PlainAddress)

/-- The address in full. -/
def text : String :=
  address plain.protocol plain.host (toString plain.port)

theorem isSchemeChar_of_mem {c : Char}
    (hc : c ∈ plain.host.toList ++ ':' :: (toString plain.port).toList) :
    Uri.isSchemeChar c = true ∨ c = ':' := by
  rw [List.mem_append, List.mem_cons] at hc
  rcases hc with hhost | rfl | hdigit
  · exact .inl (plain.isPlain.isSchemeChar c hhost)
  · exact .inr rfl
  · exact .inl (isSchemeChar_of_isDigit (Text.isDigit_of_mem_toString hdigit))

theorem endsAuthority_of_mem {c : Char}
    (hc : c ∈ plain.host.toList ++ ':' :: (toString plain.port).toList) :
    Uri.endsAuthority c = false := by
  by_contra hends
  simp only [Bool.not_eq_false, Uri.endsAuthority, Bool.or_eq_true, beq_iff_eq] at hends
  have hscheme := plain.isSchemeChar_of_mem hc
  rcases hends with (rfl | rfl) | rfl <;> exact absurd hscheme (by decide)

/-- The address as a reference. -/
def reference : Uri.Reference where
  scheme := some plain.protocol.toList
  authority := some (plain.host.toList ++ ':' :: (toString plain.port).toList)
  path := []
  query := none
  fragment := none
  isScheme := by
    rintro scheme hscheme
    rw [← Option.some.inj hscheme]
    exact plain.isScheme
  authority_free := by
    rintro authority hauthority c hc
    rw [← Option.some.inj hauthority] at hc
    exact plain.endsAuthority_of_mem hc
  path_free := ⟨List.not_mem_nil, List.not_mem_nil⟩
  query_free := nofun
  path_slash := fun _ => .inl rfl
  path_bare := nofun
  path_colon := nofun

/-- The host and the port as a site. -/
def site : Uri.Site where
  userInfo := none
  form := .plain
  host := plain.host.toList
  port := some (toString plain.port).toList
  host_free := plain.isPlain.not_mem rfl
  port_digits := by
    rintro port hport c hc
    rw [← Option.some.inj hport] at hc
    exact Text.isDigit_of_mem_toString hc
  plain_free := fun _ => ⟨plain.isPlain.not_mem rfl, plain.isPlain.not_mem rfl⟩
  bracket_free := fun hform => absurd rfl hform
  opened_port := nofun

theorem isWrittenAs : IsWrittenAs plain.text.toList plain.reference plain.site := by
  constructor
  · rw [text, toList_address]
    simp [reference, Uri.Reference.text, Uri.Reference.tail]
  · simp [reference, site, Uri.Site.text, Uri.Site.place, Uri.HostForm.text]

theorem isSchemeChar_of_mem_text {c : Char} (hc : c ∈ plain.reference.text) :
    Uri.isSchemeChar c = true ∨ c = ':' ∨ c = '/' := by
  rw [plain.isWrittenAs.text_eq, text, toList_address, List.mem_append, List.mem_cons,
    List.mem_cons, List.mem_cons] at hc
  rcases hc with hprotocol | rfl | rfl | rfl | hauthority
  · refine .inl ?_
    by_contra hscheme
    rw [Bool.not_eq_true] at hscheme
    exact Uri.not_mem_of_isScheme plain.isScheme hscheme hprotocol
  · exact .inr (.inl rfl)
  · exact .inr (.inr rfl)
  · exact .inr (.inr rfl)
  · rcases plain.isSchemeChar_of_mem hauthority with hscheme | hcolon
    · exact .inl hscheme
    · exact .inr (.inl hcolon)

theorem not_mem_text {c : Char} (hc : ¬ (Uri.isSchemeChar c = true ∨ c = ':' ∨ c = '/')) :
    c ∉ plain.reference.text :=
  fun hmem => hc (plain.isSchemeChar_of_mem_text hmem)

theorem isAddressText : IsAddressText plain.reference.text := by
  refine isAddressText_of_not_mem (plain.not_mem_text (by decide)) ?_
  intro c hc
  rcases plain.isSchemeChar_of_mem_text hc with hscheme | rfl | rfl
  · exact isAllowed_of_isSchemeChar hscheme
  · decide
  · decide

theorem text_site_subset : plain.site.text ⊆ plain.reference.text := by
  rw [← plain.isWrittenAs.authority_eq, plain.isWrittenAs.text_eq, text, toList_address]
  intro c hc
  have hbehind : c ∈ ':' :: '/' :: '/' ::
      (plain.host.toList ++ ':' :: (toString plain.port).toList) :=
    List.mem_cons_of_mem _ (List.mem_cons_of_mem _ (List.mem_cons_of_mem _ hc))
  exact List.mem_append_right _ hbehind

theorem number?_site : plain.site.number? = some plain.port :=
  Text.natural?_toString plain.port

theorem hasPort_iff : plain.site.HasPort ↔ plain.port ≤ 65535 := by
  constructor
  · intro hport
    exact hport.2 plain.port plain.number?_site
  · intro hrange
    refine ⟨?_, ?_⟩
    · rintro digits hdigits
      rw [← Option.some.inj hdigits]
      have hlength : (toString plain.port).length ≤ 5 :=
        Nat.repr_length plain.port 5 (by decide) (Nat.lt_of_le_of_lt hrange (by decide))
      exact Nat.le_trans hlength (by decide)
    · intro n hn
      rwa [← Option.some.inj (plain.number?_site.symm.trans hn)]

theorem hasFitBrackets : plain.site.HasFitBrackets := by
  refine ⟨fun _ => ⟨?_, ?_⟩, fun hform => absurd rfl hform, fun hform => absurd rfl hform⟩
  · exact fun hmem => plain.not_mem_text (by decide) (plain.text_site_subset hmem)
  · exact fun hmem => plain.not_mem_text (by decide) (plain.text_site_subset hmem)

/-- Nothing but the number of the port can be wrong with such an address. -/
theorem isAccepted_iff : IsAccepted plain.reference plain.site ↔ plain.port ≤ 65535 := by
  rw [← plain.hasPort_iff]
  constructor
  · exact IsAccepted.port
  · intro hport
    have hcount {c : Char} (hc : ¬ (Uri.isSchemeChar c = true ∨ c = ':' ∨ c = '/')) :
        plain.reference.text.count c = 0 ∧ plain.site.text.count c = 0 :=
      ⟨List.count_eq_zero.mpr (plain.not_mem_text hc),
        List.count_eq_zero.mpr fun hmem => plain.not_mem_text hc (plain.text_site_subset hmem)⟩
    have hopen := hcount (c := '[') (by decide)
    have hclose := hcount (c := ']') (by decide)
    refine ⟨plain.isAddressText, ?_, hopen.1.trans hopen.2.symm, hclose.1.trans hclose.2.symm,
      ?_, plain.hasFitBrackets, hport⟩
    · rw [(hcount (by decide)).1]
      exact Nat.zero_le 1
    · intro c hc
      apply Uri.hidesDelimiter_of_lt
      rcases plain.isSchemeChar_of_mem_text (plain.text_site_subset hc) with hscheme | rfl | rfl
      · exact lt_of_isUriChar (isUriChar_of_isSchemeChar hscheme)
      · decide
      · decide

/-- The endpoint that the address stands for. -/
def endpoint : Endpoint :=
  ⟨plain.text, some plain.protocol, some (String.ofList (Text.lowercase plain.host.toList)),
    some plain.port, ""⟩

theorem ofReference_eq : ofReference plain.reference plain.site = plain.endpoint := by
  have hne : plain.host.toList ≠ [] := by
    simpa using plain.isPlain.ne_empty
  have hname : plain.site.name? = some (Text.lowercase plain.host.toList) := by
    rw [Uri.Site.name?]
    exact (if_neg hne).trans (congrArg some (Uri.hostName_of_not_mem (plain.isPlain.not_mem rfl)))
  rw [ofReference, plain.isWrittenAs.text_eq, hname, plain.number?_site, String.ofList_toList]
  simp [reference, endpoint]

theorem parse_text_iff {endpoint : Endpoint} :
    parse plain.text = .ok endpoint ↔ plain.port ≤ 65535 ∧ endpoint = plain.endpoint := by
  rw [parse_eq_ok_iff_isAccepted plain.isWrittenAs, isAccepted_iff, ofReference_eq]

end PlainAddress

/-! ## Connections with a plain host -/

theorem outcome_endpoint?_of_some {connection : Connection} {template port : String}
    (htemplate : connection.host = some template) (hport : connection.port = some port)
    (expansion : Expansion) (env : Table Value) :
    (connection.endpoint? expansion env).outcome =
      (⟨connection.protocol, expansion.expand env template, port⟩ : Fields).endpoint >>=
        fun endpoint => .ok (some endpoint) := by
  rw [Connection.endpoint?, htemplate, hport]
  dsimp only
  rw [Logged.outcome_bind, Logged.outcome_ofExcept]
  rfl

/-- The port is the only thing that can be wrong with a connection that has a plain host
and a correct protocol. -/
theorem endpoint_eq_ok_iff_of_isPlainHost {fields : Fields} {endpoint : Endpoint}
    (hhost : IsPlainHost fields.host) (hprotocol : Uri.isScheme fields.protocol.toList = true)
    (hlimit : fields.port.toList.countP Char.isDigit ≤ Text.digitLimit) :
    fields.endpoint = .ok endpoint ↔ ∃ n : Nat, Writes (Text.trim fields.port.toList) n ∧
      n ≤ 65535 ∧ endpoint = PlainAddress.endpoint ⟨fields.protocol, fields.host, n, hprotocol,
        hhost⟩ := by
  rw [endpoint_eq_ok_iff, hhost.bracketed_eq]
  refine (and_iff_right hhost.ne_empty).trans (exists_congr fun n => ?_)
  rw [readPort_eq_ok_iff hlimit]
  exact and_congr_right fun _ =>
    PlainAddress.parse_text_iff ⟨fields.protocol, fields.host, n, hprotocol, hhost⟩

theorem exists_writes_iff {text : List Char} :
    (∃ z, Writes text z ∧ 0 ≤ z ∧ z ≤ 65535) ↔ ∃ n : Nat, Writes text n ∧ n ≤ 65535 := by
  constructor
  · rintro ⟨z, hz, hlow, hhigh⟩
    obtain ⟨n, rfl⟩ := Int.eq_ofNat_of_zero_le hlow
    exact ⟨n, hz, by omega⟩
  · rintro ⟨n, hn, hrange⟩
    exact ⟨n, hn, by omega, by omega⟩

/-- A connection with a plain host and a correct protocol becomes an endpoint exactly if its
port writes a number from 0 to 65535.  The endpoint has this number, which its text shows in
plain digits; otherwise the fault shows the port as it is configured. -/
theorem endpoint?_port {connection : Connection} {template port : String} {expansion : Expansion}
    {env : Table Value} (htemplate : connection.host = some template)
    (hport : connection.port = some port)
    (hhost : IsPlainHost (expansion.expand env template))
    (hprotocol : Uri.isScheme connection.protocol.toList = true)
    (hlimit : port.toList.countP Char.isDigit ≤ Text.digitLimit) :
    let host := expansion.expand env template
    let outcome := (connection.endpoint? expansion env).outcome
    ((∃ endpoint, outcome = .ok (some endpoint)) ↔
        ∃ z, Writes (Text.trim port.toList) z ∧ 0 ≤ z ∧ z ≤ 65535) ∧
      (∀ z, Writes (Text.trim port.toList) z → 0 ≤ z → z ≤ 65535 →
        outcome = .ok (some ⟨address connection.protocol host (toString z),
          some connection.protocol, some (String.ofList (Text.lowercase host.toList)),
          some z.toNat, ""⟩)) ∧
      ((¬ ∃ z, Writes (Text.trim port.toList) z ∧ 0 ≤ z ∧ z ≤ 65535) →
        ∃ reason, outcome = .error
          (.invalidEndpoint (address connection.protocol host port) (some reason))) ∧
      (IsPlainHost template → host = template) := by
  intro host outcome
  let fields : Fields := ⟨connection.protocol, host, port⟩
  have houtcome : outcome = fields.endpoint >>= fun endpoint => .ok (some endpoint) :=
    outcome_endpoint?_of_some htemplate hport expansion env
  have hok (endpoint : Endpoint) : outcome = .ok (some endpoint) ↔
      ∃ n : Nat, Writes (Text.trim port.toList) n ∧ n ≤ 65535 ∧
        endpoint = PlainAddress.endpoint ⟨connection.protocol, host, n, hprotocol, hhost⟩ := by
    have hread : fields.endpoint = .ok endpoint ↔ _ :=
      endpoint_eq_ok_iff_of_isPlainHost hhost hprotocol hlimit
    rw [houtcome, Outcome.bind_eq_ok_iff, ← hread]
    simp
  have hiff : (∃ endpoint, outcome = .ok (some endpoint)) ↔
      ∃ z, Writes (Text.trim port.toList) z ∧ 0 ≤ z ∧ z ≤ 65535 := by
    rw [exists_writes_iff]
    constructor
    · rintro ⟨endpoint, hendpoint⟩
      obtain ⟨n, hn, hrange, -⟩ := (hok endpoint).mp hendpoint
      exact ⟨n, hn, hrange⟩
    · rintro ⟨n, hn, hrange⟩
      exact ⟨_, (hok _).mpr ⟨n, hn, hrange, rfl⟩⟩
  refine ⟨hiff, ?_, ?_, fun hplain => hplain.expand_eq expansion env⟩
  · intro z hz hlow hhigh
    -- A whole number that is not negative is written like the natural number that it is.
    obtain ⟨n, rfl⟩ := Int.eq_ofNat_of_zero_le hlow
    exact (hok _).mpr ⟨n, hz, by omega, rfl⟩
  · intro hnone
    cases hfields : fields.endpoint with
    | ok endpoint =>
        rw [hfields] at houtcome
        exact absurd (hiff.mp ⟨endpoint, houtcome⟩) hnone
    | error fault =>
        obtain ⟨reason, htold⟩ := endpoint_eq_error hfields
        rw [hfields, htold, hhost.bracketed_eq] at houtcome
        exact ⟨reason, houtcome⟩

/-- A port with a sign, leading zeros and blanks is written anew. -/
theorem signedPort_read :
    let connection : Connection := ⟨"c", some "A.example", some " +0080 ", "http"⟩
    IsPlainHost "A.example" ∧ Uri.isScheme connection.protocol.toList = true ∧
      " +0080 ".toList.countP Char.isDigit ≤ Text.digitLimit ∧
      Writes (Text.trim " +0080 ".toList) 80 ∧
      (connection.endpoint? ⟨none, .empty⟩ .empty).outcome =
        .ok (some ⟨"http://A.example:80", some "http", some "a.example", some 80, ""⟩) := by
  intro connection
  have hplain : IsPlainHost "A.example" := by
    have hall :
        ("A.example".toList.all fun c => c.isAlphanum || (c == '-' || c == '.')) = true := by
      decide +kernel
    refine ⟨by decide, fun c hc => ?_⟩
    simpa only [Bool.or_eq_true, beq_iff_eq] using List.all_eq_true.mp hall c hc
  have hhost : IsPlainHost ((⟨none, .empty⟩ : Expansion).expand .empty "A.example") := by
    rwa [hplain.expand_eq]
  have hprotocol : Uri.isScheme connection.protocol.toList = true := by
    decide +kernel
  have hlimit : " +0080 ".toList.countP Char.isDigit ≤ Text.digitLimit := by
    decide +kernel
  have hwrites : Writes (Text.trim " +0080 ".toList) 80 := by
    have htrim : Text.trim " +0080 ".toList = ['+', '0', '0', '8', '0'] := by
      decide +kernel
    rw [htrim]
    exact .plus ⟨by decide, List.all_eq_true.mp (by decide), by decide⟩
  obtain ⟨-, hread, -, hself⟩ :=
    @endpoint?_port connection "A.example" " +0080 " ⟨none, .empty⟩ .empty rfl rfl hhost hprotocol
      hlimit
  have houtcome := hread 80 hwrites (by decide) (by decide)
  rw [hself hplain] at houtcome
  exact ⟨hplain, hprotocol, hlimit, hwrites, houtcome⟩

end NameRouting.Endpoint
