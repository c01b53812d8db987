import NameRouting.Proofs.Uri.Address
import NameRouting.Proofs.Uri.Host

/-!
# Sites

An authority names a site: a host and a port, with user information in front.  The host may
stand in brackets.  When the brackets of an authority are accepted and its port is made of
digits, the authority is the text of a site, and the parts of the site are found in it.
-/

namespace NameRouting.Uri

/-- How a host is written: as it is, in brackets, or behind an opening bracket that a
bracket of the user information makes up for. -/
inductive HostForm
  | plain
  | bracketed
  | opened
deriving DecidableEq

/-- A host in its written form. -/
def HostForm.text : HostForm → List Char → List Char
  | plain, host => host
  | bracketed, host => '[' :: (host ++ [']'])
  | opened, host => '[' :: host

/-- The parts of an authority as they are written, the host without brackets. -/
structure Site where
  userInfo : Option (List Char)
  form : HostForm
  host : List Char
  port : Option (List Char)
  host_free : '@' ∉ host
  port_digits : ∀ p ∈ port, ∀ c ∈ p, c.isDigit = true
  plain_free : form = .plain → ':' ∉ host ∧ '[' ∉ host
  bracket_free : form ≠ .plain → ']' ∉ host
  opened_port : form = .opened → port = none

namespace Site

variable (site : Site)

/-- The host and the port as they are written. -/
def place : List Char :=
  site.form.text site.host ++ site.port.elim [] (':' :: ·)

/-- The text of a site. -/
def text : List Char :=
  site.userInfo.elim [] (· ++ ['@']) ++ site.place

theorem info_subset_text {info : List Char} (hinfo : info ∈ site.userInfo) :
    info ⊆ site.text := by
  intro c hc
  rw [text, Option.mem_def.mp hinfo]
  exact List.mem_append_left _ (List.mem_append_left _ hc)

theorem host_subset_text : site.host ⊆ site.text := by
  intro c hc
  apply List.mem_append_right
  apply List.mem_append_left
  cases site.form with
  | plain => exact hc
  | bracketed => exact List.mem_cons_of_mem _ (List.mem_append_left _ hc)
  | opened => exact List.mem_cons_of_mem _ hc

/-! ## Reading a site -/

theorem not_mem_port {c : Char} (hcolon : c ≠ ':') (hdigit : c.isDigit = false) :
    c ∉ site.port.elim [] (':' :: ·) := by
  cases hport : site.port with
  | none => exact List.not_mem_nil
  | some port =>
      rw [Option.elim_some, List.mem_cons, not_or]
      exact ⟨hcolon, not_mem_digits (site.port_digits port hport) hdigit⟩

theorem mem_formText_iff {c : Char} (hopen : c ≠ '[') (hclose : c ≠ ']') :
    c ∈ site.form.text site.host ↔ c ∈ site.host := by
  cases site.form <;> simp [HostForm.text, hopen, hclose]

theorem not_mem_place : '@' ∉ site.place := by
  rw [place, List.mem_append, not_or, mem_formText_iff site (by decide) (by decide)]
  exact ⟨site.host_free, not_mem_port site (by decide) rfl⟩

theorem count_text {c : Char} (hat : c ≠ '@') (hcolon : c ≠ ':') (hdigit : c.isDigit = false) :
    site.text.count c =
      (site.userInfo.getD []).count c + (site.form.text site.host).count c := by
  have hport := List.count_eq_zero.mpr (site.not_mem_port hcolon hdigit)
  have hinfo : (site.userInfo.elim [] (· ++ ['@'])).count c = (site.userInfo.getD []).count c := by
    cases site.userInfo with
    | none => rfl
    | some info =>
        have hsign : ['@'].count c = 0 :=
          List.count_eq_zero.mpr (mt List.mem_singleton.mp hat)
        rw [Option.elim_some, Option.getD_some, List.count_append, hsign, Nat.add_zero]
  rw [text, place, List.count_append, List.count_append, hport, hinfo, Nat.add_zero]

theorem cutAtLast_text : Text.cutAtLast '@' site.text = (site.userInfo, site.place) := by
  rw [text]
  cases site.userInfo with
  | none => exact Text.cutAtLast_of_not_mem site.not_mem_place
  | some info =>
      have htext : info ++ ['@'] ++ site.place = info ++ '@' :: site.place := by
        simp
      rw [Option.elim_some, htext]
      exact Text.cutAtLast_append site.not_mem_place info

theorem cutAt_port :
    (Text.cutAt ':' (site.port.elim [] (':' :: ·))).2.getD [] = site.port.getD [] := by
  cases site.port with
  | none => rfl
  | some port =>
      rw [Option.elim_some, Text.cutAt, if_pos rfl]

/-- The text behind the closing bracket of a host that starts with a bracket. -/
def afterClose : Option (List Char) :=
  if site.form = .bracketed then some (site.port.elim [] (':' :: ·)) else none

theorem cutAt_open_place (hform : site.form ≠ .plain) :
    Text.cutAt '[' site.place =
      ([], some (site.host ++ site.afterClose.elim [] (']' :: ·))) := by
  have hplace : site.place = '[' :: (site.host ++ site.afterClose.elim [] (']' :: ·)) := by
    rw [place, afterClose]
    cases hhost : site.form with
    | plain => exact absurd hhost hform
    | bracketed => simp [HostForm.text]
    | opened => simp [HostForm.text, site.opened_port hhost]
  rw [hplace, Text.cutAt, if_pos rfl]

theorem cutAt_close (hform : site.form ≠ .plain) :
    Text.cutAt ']' (site.host ++ site.afterClose.elim [] (']' :: ·)) =
      (site.host, site.afterClose) := by
  have hfree := site.bracket_free hform
  cases site.afterClose with
  | none =>
      rw [Option.elim_none, List.append_nil]
      exact Text.cutAt_of_not_mem hfree
  | some after => exact Text.cutAt_append hfree after

theorem cutAt_afterClose (hform : site.form ≠ .plain) :
    (Text.cutAt ':' (site.afterClose.getD [])).2.getD [] = site.port.getD [] := by
  rw [afterClose]
  cases hhost : site.form with
  | plain => exact absurd hhost hform
  | bracketed => exact site.cutAt_port
  | opened =>
      rw [site.opened_port hhost]
      rfl

theorem hostAndPort_text : hostAndPort site.text = (site.host, site.port.getD []) := by
  rw [hostAndPort, cutAtLast_text]
  dsimp only
  by_cases hform : site.form = .plain
  · obtain ⟨hcolon, hopen⟩ := site.plain_free hform
    have hplace : site.place = site.host ++ site.port.elim [] (':' :: ·) := by
      rw [place, hform, HostForm.text]
    have hnone : '[' ∉ site.place := by
      rw [hplace, List.mem_append, not_or]
      exact ⟨hopen, not_mem_port site (by decide) rfl⟩
    rw [Text.cutAt_of_not_mem hnone, hplace]
    cases site.port with
    | none => rw [Option.elim_none, List.append_nil, Text.cutAt_of_not_mem hcolon]
    | some port => rw [Option.elim_some, Text.cutAt_append hcolon]
  · rw [cutAt_open_place site hform]
    dsimp only
    rw [cutAt_close site hform]
    exact congrArg (Prod.mk site.host) (site.cutAt_afterClose hform)

/-! ## Fields of a site -/

/-- The host in small letters, without a value when the host is empty. -/
def name? : Option (List Char) :=
  if site.host = [] then none else some (hostName site.host)

/-- The number of the port, without a value when the port is missing or empty. -/
def number? : Option Nat :=
  site.port.bind Text.natural?

/-- The port can be read as a number of a port. -/
def HasPort : Prop :=
  (∀ p ∈ site.port, p.length ≤ Text.digitLimit) ∧ ∀ n ∈ site.number?, n ≤ 65535

section Fields

variable {site} {parts : Parts} (hauthority : parts.authority = site.text)

include hauthority

theorem userInfo?_eq : parts.userInfo? = site.userInfo := by
  rw [Parts.userInfo?, hauthority, cutAtLast_text]

theorem host?_eq : parts.host? = site.name? := by
  rw [Uri.host?_eq, hauthority, hostAndPort_text, name?]

theorem port?_eq_ok_iff {port : Option Nat} :
    parts.port? = .ok port ↔ port = site.number? ∧ site.HasPort := by
  have hok (number : Option Nat) :
      (Except.ok number : Except UriFault (Option Nat)) = .ok port ↔ port = number := by
    rw [Except.ok.injEq]
    exact eq_comm
  rw [Parts.port?, hauthority, hostAndPort_text, HasPort, number?]
  dsimp only
  cases hport : site.port with
  | none => simp [hok]
  | some digits =>
      by_cases hempty : digits = []
      · subst hempty
        have hnone : Text.natural? [] = none := rfl
        simp [hok, hnone]
      · obtain ⟨n, hn⟩ := Text.exists_natural? hempty (site.port_digits digits hport)
        rw [Option.getD_some, if_neg (by simpa using hempty), Option.bind_some, hn]
        dsimp only
        by_cases hlength : digits.length > Text.digitLimit
        · have hlong : ¬ digits.length ≤ Text.digitLimit := Nat.not_le.mpr hlength
          simp [if_pos hlength, hlong]
        · by_cases hrange : n ≤ 65535
          · simp [hok, if_neg hlength, hrange, Nat.not_lt.mp hlength]
          · simp [if_neg hlength, hrange]

end Fields

/-! ## Brackets of a site -/

theorem mem_open_text (hform : site.form ≠ .plain) : '[' ∈ site.text := by
  have hplace := (Text.cutAt_eq_some_iff.mp (site.cutAt_open_place hform)).2
  rw [text, hplace]
  simp

theorem checkBrackets_text (hform : site.form ≠ .plain) (hclose : ']' ∈ site.text) :
    checkBrackets site.text = checkBracketedHost site.host := by
  have hafter : site.afterClose.getD [] = [] ∨
      (site.afterClose.getD []).head? = some ':' := by
    rw [afterClose]
    cases site.form <;> cases site.port <;> simp
  rw [checkBrackets, List.contains_iff_mem.mpr (site.mem_open_text hform),
    List.contains_iff_mem.mpr hclose, cutAtLast_text]
  dsimp only
  rw [cutAt_open_place site hform]
  dsimp only
  rw [cutAt_close site hform]
  refine if_neg ?_
  simpa [Decidable.or_iff_not_imp_left] using hafter

/-- The brackets of a site belong to a host that is an address of eight groups, also in
small letters; without such a host there are none. -/
structure HasFitBrackets : Prop where
  plain : site.form = .plain → '[' ∉ site.text ∧ ']' ∉ site.text
  closed : site.form ≠ .plain → ']' ∈ site.text
  address : site.form ≠ .plain → isIpv6 site.host = true ∧ isIpv6 (hostName site.host) = true

theorem hasFitBrackets_iff :
    site.HasFitBrackets ↔ checkBrackets site.text = .ok () ∧
      ('[' ∈ site.text → isIpv6 (hostName site.host) = true) := by
  constructor
  · intro hfit
    by_cases hform : site.form = .plain
    · obtain ⟨hopen, hclose⟩ := hfit.plain hform
      refine ⟨?_, fun hmem => absurd hmem hopen⟩
      rw [checkBrackets]
      simp [hopen, hclose]
    · obtain ⟨hhost, hsmall⟩ := hfit.address hform
      rw [checkBrackets_text site hform (hfit.closed hform)]
      exact ⟨checkBracketedHost_of_isIpv6 hhost, fun _ => hsmall⟩
  · rintro ⟨hcheck, haddress⟩
    refine ⟨fun hform => ?_, fun hform => ?_, fun hform => ?_⟩
    · -- A plain host holds no colon, so it is no address of eight groups.
      have hopen : '[' ∉ site.text := by
        intro hopen
        have hcolon := mem_of_isIpv6 (haddress hopen)
        rw [mem_hostName_iff (by decide)] at hcolon
        exact (site.plain_free hform).1 hcolon
      exact ⟨hopen, (mem_brackets_iff hcheck).not.mp hopen⟩
    · exact (mem_brackets_iff hcheck).mp (site.mem_open_text hform)
    · have hopen := site.mem_open_text hform
      have hsmall := haddress hopen
      rw [checkBrackets_text site hform ((mem_brackets_iff hcheck).mp hopen)] at hcheck
      refine ⟨isIpv6_of_checkBracketedHost hcheck fun hhead => ?_, hsmall⟩
      exact head?_ne_of_isIpv6 hsmall (head?_hostName hhead)

/-- No bracket stands in the user information, and none opens in the host. -/
def HasNoStrayBracket : Prop :=
  (∀ info ∈ site.userInfo, '[' ∉ info ∧ ']' ∉ info) ∧ '[' ∉ site.host

theorem hasNoStrayBracket_of_not_mem (hopen : '[' ∉ site.text) (hclose : ']' ∉ site.text) :
    site.HasNoStrayBracket := by
  refine ⟨?_, fun hmem => hopen (site.host_subset_text hmem)⟩
  intro info hinfo
  have hsubset := site.info_subset_text hinfo
  exact ⟨fun hmem => hopen (hsubset hmem), fun hmem => hclose (hsubset hmem)⟩

/-- With one bracket of each kind, both are those of the host. -/
theorem hasNoStrayBracket_iff (hform : site.form ≠ .plain) (hclosed : ']' ∈ site.text) :
    site.HasNoStrayBracket ↔
      site.form = .bracketed ∧ site.text.count '[' = 1 ∧ site.text.count ']' = 1 := by
  have hinfo : (∀ info ∈ site.userInfo, '[' ∉ info ∧ ']' ∉ info) ↔
      (site.userInfo.getD []).count '[' = 0 ∧ (site.userInfo.getD []).count ']' = 0 := by
    cases site.userInfo <;> simp [List.count_eq_zero]
  have hopen := site.count_text (c := '[') (by decide) (by decide) rfl
  have hclose := site.count_text (c := ']') (by decide) (by decide) rfl
  have hfree := List.count_eq_zero.mpr (site.bracket_free hform)
  rw [← List.count_pos_iff, hclose] at hclosed
  rw [HasNoStrayBracket, hinfo, ← List.count_eq_zero, hopen, hclose]
  cases hhost : site.form with
  | plain => exact absurd hhost hform
  | bracketed =>
      have hcount : (HostForm.bracketed.text site.host).count '[' = site.host.count '[' + 1 ∧
          (HostForm.bracketed.text site.host).count ']' = 1 := by
        simp [HostForm.text, hfree]
      rw [hcount.1, hcount.2]
      constructor
      · rintro ⟨⟨hinfo, hinfo'⟩, hinner⟩
        rw [hinfo, hinfo', hinner]
        exact ⟨rfl, rfl, rfl⟩
      · rintro ⟨-, hone, hone'⟩
        omega
  | opened =>
      -- The bracket that closes the host is one of the user information.
      have hcount : (HostForm.opened.text site.host).count ']' = 0 := by
        simpa [HostForm.text] using hfree
      rw [hhost, hcount] at hclosed
      refine iff_of_false ?_ ?_
      · rintro ⟨⟨-, hinfo'⟩, -⟩
        omega
      · rintro ⟨hne, -⟩
        cases hne

/-! ## Authorities that are sites -/

theorem exists_of_not_mem (info : Option (List Char)) {place : List Char} (hat : '@' ∉ place)
    (hopen : '[' ∉ place) (hdigits : ∀ c ∈ (Text.cutAt ':' place).2.getD [], c.isDigit = true) :
    ∃ site : Site, site.userInfo = info ∧ site.place = place := by
  rcases hcut : Text.cutAt ':' place with ⟨host, port⟩
  rw [hcut] at hdigits
  obtain ⟨hcolon, rfl⟩ := Text.eq_append_of_cutAt hcut
  rw [List.mem_append, not_or] at hat hopen
  refine ⟨⟨info, .plain, host, port, hat.1, ?_, fun _ => ⟨hcolon, hopen.1⟩,
    fun hne => absurd rfl hne, ?_⟩, rfl, rfl⟩
  · intro p hp
    rw [Option.mem_def.mp hp] at hdigits
    exact hdigits
  · intro hform
    cases hform

theorem exists_opened (info : Option (List Char)) {host : List Char} (hat : '@' ∉ host)
    (hclose : ']' ∉ host) :
    ∃ site : Site, site.userInfo = info ∧ site.place = '[' :: host := by
  refine ⟨⟨info, .opened, host, none, hat, ?_, ?_, fun _ => hclose, fun _ => rfl⟩, rfl, ?_⟩
  · intro p hp
    cases hp
  · intro hform
    cases hform
  · exact List.append_nil _

theorem exists_bracketed (info : Option (List Char)) {host after : List Char} (hat : '@' ∉ host)
    (hclose : ']' ∉ host) (hafter : after = [] ∨ ∃ port, after = ':' :: port)
    (hdigits : ∀ c ∈ (Text.cutAt ':' after).2.getD [], c.isDigit = true) :
    ∃ site : Site, site.userInfo = info ∧ site.place = '[' :: (host ++ ']' :: after) := by
  obtain ⟨port, rfl, hport⟩ : ∃ port : Option (List Char),
      after = port.elim [] (':' :: ·) ∧ ∀ p ∈ port, ∀ c ∈ p, c.isDigit = true := by
    rcases hafter with rfl | ⟨port, rfl⟩
    · exact ⟨none, rfl, fun p hp => absurd hp (Option.not_mem_none p)⟩
    · refine ⟨some port, rfl, ?_⟩
      intro p hp
      obtain rfl := Option.some.inj hp
      rwa [Text.cutAt, if_pos rfl] at hdigits
  refine ⟨⟨info, .bracketed, host, port, hat, hport, ?_, fun _ => hclose, ?_⟩, rfl, ?_⟩
  · intro hform
    cases hform
  · intro hform
    cases hform
  · simp [place, HostForm.text]

/-- Every authority with accepted brackets and a port of digits names a site. -/
theorem exists_text_eq {authority : List Char} (hcheck : checkBrackets authority = .ok ())
    (hdigits : ∀ c ∈ (hostAndPort authority).2, c.isDigit = true) :
    ∃ site : Site, site.text = authority := by
  obtain ⟨info, place, rfl, hat, hcut⟩ : ∃ (info : Option (List Char)) (place : List Char),
      authority = info.elim [] (· ++ ['@']) ++ place ∧ '@' ∉ place ∧
        Text.cutAtLast '@' authority = (info, place) := by
    rcases Text.cutAtLast_cases '@' authority with ⟨hfree, hcut⟩ | ⟨before, after, rfl, hfree, hcut⟩
    · exact ⟨none, authority, rfl, hfree, hcut⟩
    · exact ⟨some before, after, by simp, hfree, hcut⟩
  obtain ⟨site, rfl, rfl⟩ : ∃ site : Site, site.userInfo = info ∧ site.place = place := by
    rw [hostAndPort, hcut] at hdigits
    dsimp only at hdigits
    by_cases hopen : '[' ∈ place
    · obtain ⟨host, after, hplace, hclose, -, hafter⟩ :=
        exists_place_of_checkBrackets hcheck (by rwa [hcut])
      rw [hcut] at hplace
      dsimp only at hplace
      subst hplace
      rw [List.mem_cons, List.mem_append, not_or, not_or] at hat
      rw [Text.cutAt, if_pos rfl] at hdigits
      dsimp only at hdigits
      cases after with
      | none =>
          rw [Option.elim_none, List.append_nil]
          exact exists_opened info hat.2.1 hclose
      | some after =>
          rw [Option.elim_some, Text.cutAt_append hclose] at hdigits
          exact exists_bracketed info hat.2.1 hclose hafter hdigits
    · rw [Text.cutAt_of_not_mem hopen] at hdigits
      exact exists_of_not_mem info hat hopen hdigits
  exact ⟨site, rfl⟩

end Site

end NameRouting.Uri
