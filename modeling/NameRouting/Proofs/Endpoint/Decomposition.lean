import NameRouting.Proofs.Endpoint.Acceptance

/-!
# The parts of an endpoint

The fields of an endpoint are the parts of the text that it was read from, all of them cut at
the same places.  Brackets stand in its authority only, where they go with an address of
eight groups; whether they do nothing but enclose it depends on the user information and on
the scope of the address.
-/

namespace NameRouting.Endpoint

/-! ## Allowed characters -/

theorem lt_of_isUriChar {c : Char} (hc : isUriChar c = true) : c.toNat < 0x80 := by
  have hsigns : ("-._~:/?#[]@!$&'()*+,;=%".toList.all fun d => decide (d.toNat < 0x80)) =
      true := by
    decide
  rw [isUriChar, Bool.or_eq_true, List.contains_iff_mem] at hc
  rcases hc with halphanum | hsign
  · exact Text.lt_of_isAlphanum halphanum
  · exact of_decide_eq_true (List.all_eq_true.mp hsigns c hsign)

theorem isUriChar_of_isAllowed {c : Char} (hc : isAllowed c = true) (hascii : c.toNat < 0x80) :
    isUriChar c = true := by
  rw [isAllowed, Bool.or_eq_true, Bool.and_eq_true, Bool.and_eq_true, decide_eq_true_eq] at hc
  rcases hc with huri | ⟨⟨hbehind, -⟩, -⟩
  · exact huri
  · omega

theorem isBlank_of_isAllowed {c : Char} (hc : isAllowed c = true) : Text.isBlank c = false := by
  by_cases hascii : c.toNat < 0x80
  · have hvisible := lt_toNat_of_isAllowed hc
    rw [Text.isBlank, Bool.eq_false_iff]
    simp only [ne_eq, Bool.or_eq_true, Bool.and_eq_true, decide_eq_true_eq, beq_iff_eq]
    omega
  · rw [isAllowed, Bool.or_eq_true, Bool.and_eq_true, Bool.and_eq_true, Bool.not_eq_true'] at hc
    rcases hc with huri | ⟨⟨-, hblank⟩, -⟩
    · exact absurd (lt_of_isUriChar huri) hascii
    · exact hblank

/-! ## The decomposition of an endpoint -/

/-- The fields of an endpoint are those of a reference and of the site of its authority. -/
structure Describes (endpoint : Endpoint) (reference : Uri.Reference) (site : Uri.Site) :
    Prop where
  scheme_eq : endpoint.scheme = reference.scheme.map String.ofList
  isScheme : ∀ scheme ∈ endpoint.scheme, Uri.isScheme scheme.toList = true
  host_eq : endpoint.host = site.name?.map String.ofList
  port_eq : endpoint.port = site.port.bind Text.natural?
  port_le : ∀ n ∈ endpoint.port, n ≤ 65535
  path_eq : endpoint.path = String.ofList reference.path

theorem describes_ofReference {reference : Uri.Reference} {site : Uri.Site}
    (haccepted : IsAccepted reference site) :
    (ofReference reference site).Describes reference site := by
  refine ⟨rfl, ?_, rfl, rfl, haccepted.port.2, rfl⟩
  intro scheme hscheme
  obtain ⟨cs, hcs, rfl⟩ := Option.map_eq_some_iff.mp hscheme
  rw [String.toList_ofList]
  exact reference.isScheme cs hcs

/-- An endpoint keeps its text, which can be written as a reference and a site, and however
it is written in this way, the fields are those of the reference and the site. -/
theorem parse_decomposes {text : String} {endpoint : Endpoint}
    (hparse : parse text = .ok endpoint) :
    endpoint.raw = text ∧
      (∃ reference site, IsWrittenAs text.toList reference site) ∧
      (∀ reference site, IsWrittenAs text.toList reference site →
        endpoint.Describes reference site) ∧
      (endpoint.scheme = none ↔ Uri.HasNoScheme text.toList) ∧
      (∀ c ∈ text.toList, c.toNat < 0x80 → isUriChar c = true) ∧
      (∀ before after, text.toList = before ++ '%' :: after → StartsEscape after) ∧
      text.toList.count '#' ≤ 1 ∧
      ∀ c ∈ text.toList, Text.isBlank c = false := by
  obtain ⟨reference, site, hwritten⟩ := exists_isWrittenAs_of_parse hparse
  obtain ⟨haccepted, hendpoint⟩ := (parse_eq_ok_iff_isAccepted hwritten).mp hparse
  have htext := haccepted.text
  rw [hwritten.text_eq] at htext
  have hraw : endpoint.raw = text := by
    rw [hendpoint, ofReference, hwritten.text_eq, String.ofList_toList]
  have hscheme : endpoint.scheme = none ↔ Uri.HasNoScheme text.toList := by
    have hcandidate := (schemeCandidate?_of_scheme? (scheme?_text reference)).1
    rw [hwritten.text_eq] at hcandidate
    rw [← schemeCandidate?_eq_none_iff, hcandidate, hendpoint]
    exact Option.map_eq_none_iff
  have hfragment : text.toList.count '#' ≤ 1 := by
    rw [← hwritten.text_eq]
    exact haccepted.fragment
  refine ⟨hraw, ⟨reference, site, hwritten⟩, ?_, hscheme, ?_, htext.escapes, hfragment, ?_⟩
  · intro reference' site' hwritten'
    obtain ⟨haccepted', hendpoint'⟩ := (parse_eq_ok_iff_isAccepted hwritten').mp hparse
    rw [hendpoint']
    exact describes_ofReference haccepted'
  · intro c hc hascii
    exact isUriChar_of_isAllowed (htext.allowed c hc) hascii
  · intro c hc
    exact isBlank_of_isAllowed (htext.allowed c hc)

/-- Capitals, user information, a scope and a zero in front of the port. -/
theorem scopedHost_decomposed :
    parse "Remote+HTTP://u:p@[FE80::1%25Eth0]:080/a%20b?q#f" =
        .ok ⟨"Remote+HTTP://u:p@[FE80::1%25Eth0]:080/a%20b?q#f", some "Remote+HTTP",
          some "fe80::1%25Eth0", some 80, "/a%20b"⟩ ∧
      ∃ reference site,
        IsWrittenAs "Remote+HTTP://u:p@[FE80::1%25Eth0]:080/a%20b?q#f".toList reference site ∧
          (⟨"Remote+HTTP://u:p@[FE80::1%25Eth0]:080/a%20b?q#f", some "Remote+HTTP",
            some "fe80::1%25Eth0", some 80, "/a%20b"⟩ : Endpoint).Describes reference site := by
  have hparse : parse "Remote+HTTP://u:p@[FE80::1%25Eth0]:080/a%20b?q#f" =
      .ok ⟨"Remote+HTTP://u:p@[FE80::1%25Eth0]:080/a%20b?q#f", some "Remote+HTTP",
        some "fe80::1%25Eth0", some 80, "/a%20b"⟩ := by
    decide +kernel
  obtain ⟨-, ⟨reference, site, hwritten⟩, hdescribes, -⟩ := parse_decomposes hparse
  exact ⟨hparse, reference, site, hwritten, hdescribes reference site hwritten⟩

/-! ## Brackets around hosts -/

/-- Brackets do nothing but enclose a host: there are none, or there is one of each, and
the host between them is an address of eight groups. -/
def BracketsEncloseHost (text : List Char) : Prop :=
  ('[' ∉ text ∧ ']' ∉ text) ∨
    text.count '[' = 1 ∧ text.count ']' = 1 ∧ ∃ reference site,
      IsWrittenAs text reference site ∧ site.form = .bracketed ∧ Uri.isIpv6 site.host = true

/-- The site is determined by the text up to the bracket that closes the host. -/
theorem site_unique {text : List Char} (hvisible : ∀ c ∈ text, 0x20 < c.toNat)
    {reference reference' : Uri.Reference} {site site' : Uri.Site}
    (hwritten : IsWrittenAs text reference site) (hwritten' : IsWrittenAs text reference' site') :
    site.text = site'.text ∧ site.userInfo = site'.userInfo ∧ site.host = site'.host := by
  have hparts {reference : Uri.Reference} (htext : reference.text = text) :
      Uri.divided text = reference.parts := by
    subst htext
    exact reference.divided_text (Uri.readable_of_visible hvisible)
  have hauthority : reference.parts.authority = reference'.parts.authority := by
    rw [← hparts hwritten.text_eq, ← hparts hwritten'.text_eq]
  have htext : site.text = site'.text := by
    rw [← hwritten.authority_eq, ← hwritten'.authority_eq]
    exact hauthority
  have hinfo := site.cutAtLast_text
  have hhost := site.hostAndPort_text
  rw [htext, site'.cutAtLast_text, Prod.mk.injEq] at hinfo
  rw [htext, site'.hostAndPort_text, Prod.mk.injEq] at hhost
  exact ⟨htext, hinfo.1.symm, hhost.1.symm⟩

/-- When all brackets of a text stand in its authority and fit the site there, the site alone
decides what they enclose. -/
theorem bracketsEncloseHost_iff_hasNoStrayBracket {text : List Char}
    (hvisible : ∀ c ∈ text, 0x20 < c.toNat) {reference : Uri.Reference} {site : Uri.Site}
    (hwritten : IsWrittenAs text reference site) (hfit : site.HasFitBrackets)
    (hopening : text.count '[' = site.text.count '[')
    (hclosing : text.count ']' = site.text.count ']') :
    BracketsEncloseHost text ↔ site.HasNoStrayBracket := by
  have hopen : '[' ∈ text ↔ '[' ∈ site.text := by
    rw [← List.count_pos_iff, hopening, List.count_pos_iff]
  have hclose : ']' ∈ text ↔ ']' ∈ site.text := by
    rw [← List.count_pos_iff, hclosing, List.count_pos_iff]
  constructor
  · rintro (⟨hnone, hnone'⟩ | ⟨hone, hone', reference', site', hwritten', hform, -⟩)
    · exact site.hasNoStrayBracket_of_not_mem (hopen.not.mp hnone) (hclose.not.mp hnone')
    · obtain ⟨htext, hinfo, hhost⟩ := site_unique hvisible hwritten hwritten'
      rw [hopening, htext] at hone
      rw [hclosing, htext] at hone'
      have hstray : site'.HasNoStrayBracket := by
        refine (site'.hasNoStrayBracket_iff ?_ ?_).mpr ⟨hform, hone, hone'⟩
        · rw [hform]
          decide
        · rw [← List.count_pos_iff, hone']
          decide
      rw [Uri.Site.HasNoStrayBracket, hinfo, hhost]
      exact hstray
  · intro hstray
    by_cases hform : site.form = .plain
    · obtain ⟨hnone, hnone'⟩ := hfit.plain hform
      exact .inl ⟨hopen.not.mpr hnone, hclose.not.mpr hnone'⟩
    · obtain ⟨hbracketed, hone, hone'⟩ :=
        (site.hasNoStrayBracket_iff hform (hfit.closed hform)).mp hstray
      exact .inr ⟨hopening.trans hone, hclosing.trans hone', reference, site, hwritten,
        hbracketed, (hfit.address hform).1⟩

/-- Brackets of an accepted text stand in its authority, and they come with a host that is an
address of eight groups.  They do nothing but enclose it exactly if there are none in the user
information and no further one opens in the host. -/
theorem bracketsEncloseHost_iff {text : String} {endpoint : Endpoint}
    (hparse : parse text = .ok endpoint) :
    (∃ reference site, IsWrittenAs text.toList reference site) ∧
      ∀ reference site, IsWrittenAs text.toList reference site →
        text.toList.count '[' = site.text.count '[' ∧
        text.toList.count ']' = site.text.count ']' ∧
        ('[' ∈ text.toList ∨ ']' ∈ text.toList → Uri.isIpv6 site.host = true) ∧
        (BracketsEncloseHost text.toList ↔ site.HasNoStrayBracket) := by
  refine ⟨exists_isWrittenAs_of_parse hparse, ?_⟩
  intro reference site hwritten
  obtain ⟨haccepted, -⟩ := (parse_eq_ok_iff_isAccepted hwritten).mp hparse
  have hvisible := haccepted.text.visible
  have hopening := haccepted.opening
  have hclosing := haccepted.closing
  rw [hwritten.text_eq] at hvisible hopening hclosing
  have hfit := haccepted.brackets
  refine ⟨hopening, hclosing, ?_,
    bracketsEncloseHost_iff_hasNoStrayBracket hvisible hwritten hfit hopening hclosing⟩
  intro hmem
  rw [← List.count_pos_iff, ← List.count_pos_iff, hopening, hclosing, List.count_pos_iff,
    List.count_pos_iff] at hmem
  have hform : site.form ≠ .plain := fun hform =>
    hmem.elim (hfit.plain hform).1 (hfit.plain hform).2
  exact (hfit.address hform).1

/-- User information in front of an address in brackets. -/
theorem userAtAddress_enclosed :
    parse "a://u@[::1]:80" = .ok ⟨"a://u@[::1]:80", some "a", some "::1", some 80, ""⟩ ∧
      BracketsEncloseHost "a://u@[::1]:80".toList := by
  have hparse :
      parse "a://u@[::1]:80" = .ok ⟨"a://u@[::1]:80", some "a", some "::1", some 80, ""⟩ := by
    decide +kernel
  obtain ⟨⟨reference, site, hwritten⟩, hsites⟩ := bracketsEncloseHost_iff hparse
  obtain ⟨-, -, -, hiff⟩ := hsites reference site hwritten
  have hparts : Uri.divided "a://u@[::1]:80".toList = reference.parts := by
    rw [← hwritten.text_eq]
    exact reference.divided_text (by rw [hwritten.text_eq]; decide)
  have hsite : site.text = "u@[::1]:80".toList := by
    rw [← hwritten.authority_eq]
    exact (congrArg Uri.Parts.authority hparts).symm
  have hinfo := site.cutAtLast_text
  have hhost := site.hostAndPort_text
  have hcut : Text.cutAtLast '@' "u@[::1]:80".toList = (some ['u'], "[::1]:80".toList) := by
    decide
  have hplace : Uri.hostAndPort "u@[::1]:80".toList = ("::1".toList, "80".toList) := by
    decide
  rw [hsite, hcut, Prod.mk.injEq] at hinfo
  rw [hsite, hplace, Prod.mk.injEq] at hhost
  refine ⟨hparse, hiff.mpr ?_⟩
  rw [Uri.Site.HasNoStrayBracket, ← hinfo.1, ← hhost.1]
  decide

/-- Brackets around the user information are accepted next to those of the host. -/
theorem bracketedUser_accepted :
    parse "a://[u]@[::1]:80" = .ok ⟨"a://[u]@[::1]:80", some "a", some "::1", some 80, ""⟩ ∧
      ¬ BracketsEncloseHost "a://[u]@[::1]:80".toList := by
  refine ⟨by decide +kernel, ?_⟩
  rintro (⟨hnone, -⟩ | ⟨hone, -⟩)
  · exact hnone (by decide)
  · exact absurd hone (by decide)

end NameRouting.Endpoint
