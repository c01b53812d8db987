import NameRouting.Proofs.Endpoint.Acceptance
import NameRouting.Proofs.Uri.MaskedSite

/-!
# Endpoints with masked passwords

A text that is read as an endpoint can be read again when its password is masked.  Nothing
but the password changes: the scheme and the host go over to small letters, in which the
fields of the endpoint are compared anyway, and the port is written as its number.
-/

namespace NameRouting.Endpoint

/-! ## Characters of hosts -/

theorem isUriChar_of_isAlphanum {c : Char} (hc : c.isAlphanum = true) : isUriChar c = true := by
  rw [isUriChar, hc, Bool.true_or]

theorem isAllowed_of_isUriChar {c : Char} (hc : isUriChar c = true) : isAllowed c = true := by
  rw [isAllowed, hc, Bool.true_or]

theorem isAllowed_of_isDigit {c : Char} (hc : c.isDigit = true) : isAllowed c = true := by
  apply isAllowed_of_isUriChar
  apply isUriChar_of_isAlphanum
  rw [Char.isAlphanum, hc, Bool.or_true]

theorem isUriChar_of_isSchemeChar {c : Char} (hc : Uri.isSchemeChar c = true) :
    isUriChar c = true := by
  simp only [Uri.isSchemeChar, Bool.or_eq_true, beq_iff_eq] at hc
  rcases hc with ((halphanum | rfl) | rfl) | rfl
  · exact isUriChar_of_isAlphanum halphanum
  · decide
  · decide
  · decide

theorem isAllowed_of_isSchemeChar {c : Char} (hc : Uri.isSchemeChar c = true) :
    isAllowed c = true :=
  isAllowed_of_isUriChar (isUriChar_of_isSchemeChar hc)

theorem isAllowed_lowercase {cs : List Char} (hcs : ∀ c ∈ cs, isAllowed c = true) :
    ∀ c ∈ Text.lowercase cs, isAllowed c = true := by
  apply Text.forall_mem_lowercase hcs
  · intro c hlow hhigh
    have hletters : ∀ n < 0x7B, 0x61 ≤ n → isAllowed (Char.ofNat n) = true := by
      decide
    have hletter := hletters c.toNat (by omega) hlow
    rwa [Char.ofNat_toNat] at hletter
  · apply List.all_eq_true.mp
    decide +kernel
  · intro run hrun n hn hascii
    have hcode := Text.toNat_ofNat_of_isSmall hrun hn
    have hprintable := Text.isPrintable_ofNat_of_isSmall hrun hn hascii
    have hblank : Text.isBlank (Char.ofNat n) = false := by
      by_contra hblank
      rw [Bool.not_eq_false] at hblank
      rw [Text.isPrintable_eq_false_of_isBlank hblank (by rwa [hcode])] at hprintable
      cases hprintable
    rw [isAllowed, hcode, hprintable, hblank, decide_eq_true hascii, Bool.or_eq_true]
    exact .inr rfl

theorem isAddressText_hostName {host : List Char} (hhost : IsAddressText host) :
    IsAddressText (Uri.hostName host) := by
  have hlower {name : List Char} (hname : IsAddressText name) (hpercent : '%' ∉ name) :
      IsAddressText (Text.lowercase name) := by
    refine isAddressText_of_not_mem ?_ (isAllowed_lowercase hname.allowed)
    rwa [Text.mem_lowercase_iff (by decide)]
  rcases Uri.host_cases host with hfree | ⟨name, scope, rfl, hname⟩
  · rw [Uri.hostName_of_not_mem hfree]
    exact hlower hhost hfree
  · have hpercent : ∀ rest, ∀ c ∈ ('%' :: rest).head?, Uri.isHexDigit c = false := by
      rintro rest c hc
      obtain rfl := Option.some.inj hc
      decide
    rw [Uri.hostName_append hname]
    rw [isAddressText_append_iff (hpercent scope)] at hhost ⊢
    exact ⟨hlower hhost.1 hname, hhost.2⟩

/-! ## Characters of sites and references -/

theorem isAddressText_cons_of_ne {c : Char} {rest : List Char} (hc : isUriChar c = true)
    (hpercent : c ≠ '%') :
    IsAddressText (c :: rest) ↔ IsAddressText rest := by
  rw [isAddressText_cons_iff]
  simp [isAllowed_of_isUriChar hc, hpercent]

/-- A delimiter does not take part in escapes. -/
theorem isAddressText_append_cons_iff {cs rest : List Char} {c : Char} (hc : isUriChar c = true)
    (hpercent : c ≠ '%') (hhex : Uri.isHexDigit c = false) :
    IsAddressText (cs ++ c :: rest) ↔ IsAddressText cs ∧ IsAddressText rest := by
  have hhead : ∀ d ∈ (c :: rest).head?, Uri.isHexDigit d = false := by
    intro d hd
    obtain rfl := Option.some.inj hd
    exact hhex
  rw [isAddressText_append_iff hhead, isAddressText_cons_of_ne hc hpercent]

theorem isAddressText_of_forall_isDigit {cs : List Char} (hcs : ∀ c ∈ cs, c.isDigit = true) :
    IsAddressText cs := by
  refine isAddressText_of_not_mem ?_ fun c hc => isAllowed_of_isDigit (hcs c hc)
  intro hmem
  exact absurd (hcs '%' hmem) (by decide)

theorem isAddressText_site_iff (site : Uri.Site) :
    IsAddressText site.text ↔
      (∀ info ∈ site.userInfo, IsAddressText info) ∧ IsAddressText site.host := by
  have hport : IsAddressText (site.port.elim [] (':' :: ·)) ∧
      ∀ c ∈ (site.port.elim [] (':' :: ·)).head?, Uri.isHexDigit c = false := by
    cases hwritten : site.port with
    | none => exact ⟨isAddressText_nil, nofun⟩
    | some port =>
        refine ⟨?_, ?_⟩
        · rw [Option.elim_some, isAddressText_cons_of_ne (by decide) (by decide)]
          exact isAddressText_of_forall_isDigit (site.port_digits port hwritten)
        · intro c hc
          obtain rfl := Option.some.inj hc
          decide
  have hform : IsAddressText (site.form.text site.host) ↔ IsAddressText site.host := by
    cases site.form with
    | plain => exact Iff.rfl
    | bracketed =>
        rw [Uri.HostForm.text, isAddressText_cons_of_ne (by decide) (by decide),
          isAddressText_append_cons_iff (by decide) (by decide) (by decide)]
        exact and_iff_left isAddressText_nil
    | opened => exact isAddressText_cons_of_ne (by decide) (by decide)
  have hplace : IsAddressText site.place ↔ IsAddressText site.host := by
    rw [Uri.Site.place, isAddressText_append_iff hport.2, hform]
    exact and_iff_left hport.1
  rw [Uri.Site.text]
  cases site.userInfo with
  | none => simp [hplace]
  | some info =>
      have hinfo : (some info).elim [] (· ++ ['@']) ++ site.place = info ++ '@' :: site.place := by
        simp
      rw [hinfo, isAddressText_append_cons_iff (by decide) (by decide) (by decide), hplace]
      simp

theorem isAddressText_part_iff (part : Option (List Char)) {c : Char} (hc : isUriChar c = true)
    (hpercent : c ≠ '%') :
    IsAddressText (part.elim [] (c :: ·)) ↔ ∀ cs ∈ part, IsAddressText cs := by
  cases part with
  | none => simp [isAddressText_nil]
  | some cs => simp [isAddressText_cons_of_ne hc hpercent]

theorem isHexDigit_of_endsAuthority {c : Char} (hc : Uri.endsAuthority c = true) :
    Uri.isHexDigit c = false := by
  simp only [Uri.endsAuthority, Bool.or_eq_true, beq_iff_eq] at hc
  rcases hc with (rfl | rfl) | rfl <;> decide

theorem isAddressText_tail_iff (reference : Uri.Reference) :
    IsAddressText reference.tail ↔ IsAddressText reference.path ∧
      (∀ query ∈ reference.query, IsAddressText query) ∧
      ∀ fragment ∈ reference.fragment, IsAddressText fragment := by
  have hquery : ∀ c ∈ (reference.query.elim [] ('?' :: ·) ++
      reference.fragment.elim [] ('#' :: ·)).head?, Uri.isHexDigit c = false := by
    intro c hc
    exact isHexDigit_of_endsAuthority (reference.head?_query hc)
  have hfragment : ∀ c ∈ (reference.fragment.elim [] ('#' :: ·)).head?,
      Uri.isHexDigit c = false := by
    intro c hc
    exact isHexDigit_of_endsAuthority (reference.head?_fragment hc)
  rw [Uri.Reference.tail, isAddressText_append_iff hquery, isAddressText_append_iff hfragment,
    isAddressText_part_iff _ (by decide) (by decide),
    isAddressText_part_iff _ (by decide) (by decide)]

theorem isAddressText_reference_iff (reference : Uri.Reference)
    (hauthority : reference.authority ≠ none) :
    IsAddressText reference.text ↔
      IsAddressText (reference.authority.getD []) ∧ IsAddressText reference.tail := by
  have htail : ∀ c ∈ reference.tail.head?, Uri.isHexDigit c = false := by
    intro c hc
    exact isHexDigit_of_endsAuthority (reference.head?_tail hauthority hc)
  obtain ⟨authority, hwritten⟩ := Option.ne_none_iff_exists'.mp hauthority
  have hbehind : IsAddressText (reference.authority.elim [] ('/' :: '/' :: ·) ++ reference.tail) ↔
      IsAddressText (reference.authority.getD []) ∧ IsAddressText reference.tail := by
    rw [hwritten, Option.elim_some, Option.getD_some, List.cons_append, List.cons_append,
      isAddressText_cons_of_ne (by decide) (by decide),
      isAddressText_cons_of_ne (by decide) (by decide), isAddressText_append_iff htail]
  rw [Uri.Reference.text]
  cases hscheme : reference.scheme with
  | none => exact hbehind
  | some scheme =>
      have hcorrect := reference.isScheme scheme hscheme
      have htext : IsAddressText scheme := by
        refine isAddressText_of_not_mem (Uri.not_mem_of_isScheme hcorrect rfl) ?_
        intro c hc
        exact isAllowed_of_isSchemeChar (Uri.isSchemeChar_of_mem hcorrect hc)
      have hsplit : (some scheme).elim [] (· ++ [':']) ++
          (reference.authority.elim [] ('/' :: '/' :: ·) ++ reference.tail) =
            scheme ++ ':' :: (reference.authority.elim [] ('/' :: '/' :: ·) ++ reference.tail) := by
        simp
      rw [hsplit, isAddressText_append_cons_iff (by decide) (by decide) (by decide), hbehind]
      exact and_iff_right htext

/-! ## Masked texts -/

section Masked

variable {reference : Uri.Reference} {site : Uri.Site}

theorem hidesDelimiter_of_isDigit {c : Char} (hc : c.isDigit = true) :
    Uri.hidesDelimiter c = false := by
  apply Uri.hidesDelimiter_of_lt
  apply Text.lt_of_isAlphanum
  rw [Char.isAlphanum, hc, Bool.or_true]

theorem hidesDelimiter_maskedAuthority {parts : Uri.Parts} (port : Option Nat)
    (hauthority : ∀ c ∈ parts.authority, Uri.hidesDelimiter c = false) :
    ∀ c ∈ parts.maskedAuthority port, Uri.hidesDelimiter c = false := by
  refine parts.forall_mem_maskedAuthority port hauthority ?_ (by simp [Uri.hidesDelimiter]) ?_
  · apply Uri.hidesDelimiter_hostName
    intro c hc
    exact hauthority c (parts.fst_hostAndPort_subset_authority hc)
  · intro c hc
    exact hidesDelimiter_of_isDigit hc

/-- An endpoint and the parts of its text as they are after the password was masked. -/
structure KeepsRest (endpoint endpoint' : Endpoint) (parts parts' : Uri.Parts) : Prop where
  scheme_eq : endpoint'.scheme =
    endpoint.scheme.map fun scheme => String.ofList (scheme.toList.map Char.toLower)
  host_eq : endpoint'.host = endpoint.host
  port_eq : endpoint'.port = endpoint.port
  path_eq : endpoint'.path = endpoint.path
  userName_eq : parts'.userName = parts.userName
  password?_eq : parts'.password? = some Uri.mask
  query_eq : parts'.query = parts.query
  fragment_eq : parts'.fragment = parts.fragment
  bracketed : ∀ host ∈ endpoint.host, ':' ∈ host.toList →
    ∃ after, (Text.cutAtLast '@' parts'.authority).2 = '[' :: (host.toList ++ ']' :: after)

/-- What is known about a text whose password is masked: it is accepted as a reference and
a site, and there is a password in the authority. -/
structure IsMaskable (reference : Uri.Reference) (site : Uri.Site) (secret : List Char) :
    Prop where
  accepted : IsAccepted reference site
  authority_eq : reference.parts.authority = site.text
  password?_eq : reference.parts.password? = some secret

namespace IsMaskable

variable {secret : List Char} (hmaskable : IsMaskable reference site secret)

include hmaskable

theorem authority_ne : reference.authority ≠ none := by
  intro hnone
  apply Uri.authority_ne_of_password? hmaskable.password?_eq
  rw [Uri.Reference.parts, hnone]
  rfl

theorem text_site :
    (site.masked reference.parts.userName).text =
      reference.parts.maskedAuthority site.number? :=
  site.text_masked hmaskable.authority_eq hmaskable.accepted.brackets

theorem isWrittenAs :
    IsWrittenAs (reference.masked site.number? hmaskable.authority_ne).text
      (reference.masked site.number? hmaskable.authority_ne)
      (site.masked reference.parts.userName) :=
  ⟨rfl, hmaskable.text_site.symm⟩

theorem isAddressText_masked :
    IsAddressText (reference.masked site.number? hmaskable.authority_ne).text := by
  have hinfo := reference.parts.userInfo?_of_password? hmaskable.password?_eq
  rw [Uri.Site.userInfo?_eq hmaskable.authority_eq] at hinfo
  have hauthority : reference.authority.getD [] = site.text := hmaskable.authority_eq
  have htext := hmaskable.accepted.text
  rw [isAddressText_reference_iff _ hmaskable.authority_ne, hauthority, isAddressText_site_iff,
    isAddressText_tail_iff] at htext
  obtain ⟨⟨huserInfo, hhost⟩, hpath, hquery, hfragment⟩ := htext
  have huser : IsAddressText reference.parts.userName := by
    have hsplit := huserInfo _ hinfo
    rw [isAddressText_append_cons_iff (by decide) (by decide) (by decide)] at hsplit
    exact hsplit.1
  have hmask : IsAddressText Uri.mask :=
    isAddressText_of_not_mem (by decide) (List.all_eq_true.mp (by decide))
  have hsite : IsAddressText (site.masked reference.parts.userName).text := by
    rw [isAddressText_site_iff]
    refine ⟨?_, isAddressText_hostName hhost⟩
    intro info hinfo
    obtain rfl := Option.some.inj hinfo
    rw [isAddressText_append_cons_iff (by decide) (by decide) (by decide)]
    exact ⟨huser, hmask⟩
  rw [isAddressText_reference_iff _ (Option.some_ne_none _), isAddressText_tail_iff]
  refine ⟨?_, hpath, ?_, ?_⟩
  · rw [hmaskable.text_site] at hsite
    exact hsite
  · intro query hmem
    exact hquery query (Option.mem_filter_iff.mp hmem).1
  · intro fragment hmem
    exact hfragment fragment (Option.mem_filter_iff.mp hmem).1

theorem count_text_masked {c : Char} (hscheme : Uri.isSchemeChar c = false) (hcolon : c ≠ ':')
    (hslash : c ≠ '/') :
    ∃ n ≤ reference.tail.count c,
      (reference.masked site.number? hmaskable.authority_ne).text.count c =
        (site.masked reference.parts.userName).text.count c + n := by
  have htail := (Uri.Reference.tail_rebuilt_sublist
    (reference.parts.endsAuthority_maskedAuthority site.number? reference.endsAuthority_authority)
    (reference.path_slash hmaskable.authority_ne)).count_le c
  refine ⟨_, htail, ?_⟩
  rw [Uri.Reference.count_text _ hscheme hcolon hslash, hmaskable.isWrittenAs.authority_eq]
  rfl

/-- Brackets stand in the authority only, also in the masked text. -/
theorem count_masked_eq {c : Char} (hscheme : Uri.isSchemeChar c = false) (hcolon : c ≠ ':')
    (hslash : c ≠ '/') (hcount : reference.text.count c = site.text.count c) :
    (reference.masked site.number? hmaskable.authority_ne).text.count c =
      (site.masked reference.parts.userName).text.count c := by
  have hauthority : reference.authority.getD [] = site.text := hmaskable.authority_eq
  obtain ⟨n, hn, hmasked⟩ := hmaskable.count_text_masked hscheme hcolon hslash
  rw [reference.count_text hscheme hcolon hslash, hauthority] at hcount
  omega

theorem count_masked_le :
    (reference.masked site.number? hmaskable.authority_ne).text.count '#' ≤
      reference.text.count '#' := by
  obtain ⟨n, hn, hmasked⟩ := hmaskable.count_text_masked (c := '#') rfl (by decide) (by decide)
  have hnone : (site.masked reference.parts.userName).text.count '#' = 0 := by
    rw [List.count_eq_zero, hmaskable.text_site]
    intro hmem
    have hends := reference.parts.endsAuthority_maskedAuthority site.number?
      reference.endsAuthority_authority '#' hmem
    exact absurd hends (by decide)
  have htext := reference.count_text (c := '#') rfl (by decide) (by decide)
  omega

/-- A reference and a site with the password masked are accepted, too. -/
theorem isAccepted_masked :
    IsAccepted (reference.masked site.number? hmaskable.authority_ne)
      (site.masked reference.parts.userName) := by
  have haccepted := hmaskable.accepted
  refine ⟨hmaskable.isAddressText_masked, ?_, ?_, ?_, ?_, ?_, ?_⟩
  · exact Nat.le_trans hmaskable.count_masked_le haccepted.fragment
  · exact hmaskable.count_masked_eq rfl (by decide) (by decide) haccepted.opening
  · exact hmaskable.count_masked_eq rfl (by decide) (by decide) haccepted.closing
  · rw [hmaskable.text_site]
    apply hidesDelimiter_maskedAuthority
    rw [hmaskable.authority_eq]
    exact haccepted.visible
  · apply site.hasFitBrackets_masked _ haccepted.brackets
    have hsubset := reference.parts.userName_subset
    rwa [hmaskable.authority_eq] at hsubset
  · exact site.hasPort_masked _ haccepted.port

/-- What is masked can be masked again. -/
theorem masked :
    IsMaskable (reference.masked site.number? hmaskable.authority_ne)
      (site.masked reference.parts.userName) Uri.mask := by
  refine ⟨hmaskable.isAccepted_masked, hmaskable.isWrittenAs.authority_eq, ?_⟩
  rw [Uri.Reference.parts_masked]
  exact reference.parts.password?_masked site.number?

theorem masked_text :
    Uri.masked reference.text = (reference.masked site.number? hmaskable.authority_ne).text := by
  have hsplit := hmaskable.accepted.split hmaskable.authority_eq
  have hport := hmaskable.accepted.port? hmaskable.authority_eq
  rw [Uri.masked_eq_unsplit hsplit hport hmaskable.password?_eq, Uri.Reference.text_masked]

theorem masked_masked_text : Uri.masked (Uri.masked reference.text) = Uri.masked reference.text := by
  -- What is masked a second time has the host in small letters and the number of the port.
  have hparts := reference.parts_masked site.number? hmaskable.authority_ne
  have hhost := Uri.Site.host?_eq hmaskable.masked.authority_eq
  rw [site.name?_masked, ← Uri.Site.host?_eq hmaskable.authority_eq, hparts] at hhost
  have hauthority := reference.parts.maskedAuthority_masked site.number? hhost
  rw [hmaskable.masked_text, hmaskable.masked.masked_text, Uri.Reference.text_masked,
    site.number?_masked, hparts, hauthority, ← Uri.Reference.text_masked]

theorem keepsRest :
    (ofReference reference site).KeepsRest
      (ofReference (reference.masked site.number? hmaskable.authority_ne)
        (site.masked reference.parts.userName))
      reference.parts (reference.masked site.number? hmaskable.authority_ne).parts := by
  have hparts := reference.parts_masked site.number? hmaskable.authority_ne
  refine ⟨?_, ?_, ?_, rfl, ?_, ?_, ?_, ?_, ?_⟩
  · dsimp only [ofReference]
    rw [Option.map_map]
    change (reference.scheme.map _).map _ = _
    rw [Option.map_map]
    congr 1
    funext scheme
    simp
  · dsimp only [ofReference]
    rw [site.name?_masked]
  · exact site.number?_masked _
  · rw [hparts]
    exact reference.parts.userName_masked _
  · exact hmaskable.masked.password?_eq
  · rw [hparts]
  · rw [hparts]
  · intro host hhost hcolon
    obtain ⟨name, hname, rfl⟩ := Option.map_eq_some_iff.mp hhost
    rw [String.toList_ofList] at hcolon ⊢
    rw [← Uri.Site.host?_eq hmaskable.authority_eq] at hname
    rw [hparts, reference.parts.cutAtLast_maskedAuthority, Uri.Parts.shownPlace, hname,
      Option.getD_some, Uri.shownHost, if_pos (List.contains_iff_mem.mpr hcolon)]
    exact ⟨site.number?.elim [] fun n => ':' :: (toString n).toList, by simp⟩

end IsMaskable

end Masked

/-! ## Nothing but the password changes -/

/-- The text of an endpoint without a password is left as it is.  With a password the masked
text is read again, as an endpoint that differs in nothing but the password and the case of
the scheme.  Masking a second time changes nothing. -/
theorem masked_keepsRest {text : String} {endpoint : Endpoint}
    (hparse : parse text = .ok endpoint) :
    ∃ parts, Uri.split text.toList = .ok parts ∧
      (parts.password? = none → Uri.masked text.toList = text.toList) ∧
      (parts.password? ≠ none → ∃ endpoint' parts',
        parse (String.ofList (Uri.masked text.toList)) = .ok endpoint' ∧
          Uri.split (Uri.masked text.toList) = .ok parts' ∧
          endpoint.KeepsRest endpoint' parts parts') ∧
      Uri.masked (Uri.masked text.toList) = Uri.masked text.toList := by
  obtain ⟨reference, site, hwritten⟩ := exists_isWrittenAs_of_parse hparse
  obtain ⟨haccepted, rfl⟩ := (parse_eq_ok_iff_isAccepted hwritten).mp hparse
  have hauthority : reference.parts.authority = site.text := hwritten.authority_eq
  have hsplit := haccepted.split hauthority
  rw [hwritten.text_eq] at hsplit
  refine ⟨reference.parts, hsplit, ?_, ?_, ?_⟩
  · exact Uri.masked_eq_self_of_password? hsplit
  · intro hpassword
    obtain ⟨secret, hpassword⟩ := Option.ne_none_iff_exists'.mp hpassword
    have hmaskable : IsMaskable reference site secret := ⟨haccepted, hauthority, hpassword⟩
    have hmasked := hmaskable.masked_text
    rw [hwritten.text_eq] at hmasked
    have hwritten' := hmaskable.isWrittenAs
    rw [← hmasked, ← String.toList_ofList (l := Uri.masked text.toList)] at hwritten'
    refine ⟨_, _, (parse_eq_ok_iff_isAccepted hwritten').mpr ⟨hmaskable.isAccepted_masked, rfl⟩,
      ?_, hmaskable.keepsRest⟩
    rw [hmasked]
    exact hmaskable.isAccepted_masked.split hmaskable.masked.authority_eq
  · cases hpassword : reference.parts.password? with
    | none =>
        rw [Uri.masked_eq_self_of_password? hsplit hpassword,
          Uri.masked_eq_self_of_password? hsplit hpassword]
    | some secret =>
        have hmaskable : IsMaskable reference site secret := ⟨haccepted, hauthority, hpassword⟩
        have hmasked := hmaskable.masked_masked_text
        rwa [hwritten.text_eq] at hmasked

/-- A password in front of a host with capitals and a scope. -/
theorem scopedHost_masked :
    parse "A://u:p@[FE80::1%25Eth0]:080/x?" =
        .ok ⟨"A://u:p@[FE80::1%25Eth0]:080/x?", some "A", some "fe80::1%25Eth0", some 80, "/x"⟩ ∧
      ∃ endpoint', parse (String.ofList (Uri.masked "A://u:p@[FE80::1%25Eth0]:080/x?".toList)) =
          .ok endpoint' ∧ endpoint'.scheme = some "a" ∧
        endpoint'.host = some "fe80::1%25Eth0" ∧ endpoint'.port = some 80 := by
  have hparse : parse "A://u:p@[FE80::1%25Eth0]:080/x?" =
      .ok ⟨"A://u:p@[FE80::1%25Eth0]:080/x?", some "A", some "fe80::1%25Eth0", some 80, "/x"⟩ := by
    decide +kernel
  obtain ⟨parts, hsplit, -, hmasked, -⟩ := masked_keepsRest hparse
  have hpassword : parts.password? ≠ none := by
    have hparts : Uri.split "A://u:p@[FE80::1%25Eth0]:080/x?".toList =
        .ok ⟨['a'], "u:p@[FE80::1%25Eth0]:080".toList, ['/', 'x'], [], []⟩ := by
      decide +kernel
    rw [hsplit] at hparts
    rw [Except.ok.inj hparts]
    decide +kernel
  obtain ⟨endpoint', parts', hparse', -, hkeeps⟩ := hmasked hpassword
  refine ⟨hparse, endpoint', hparse', ?_, hkeeps.host_eq, hkeeps.port_eq⟩
  rw [hkeeps.scheme_eq]
  decide +kernel

end NameRouting.Endpoint
