import NameRouting.Proofs.Endpoint.Reading
import NameRouting.Proofs.Uri.Reference
import NameRouting.Proofs.Uri.Site

/-!
# Accepted addresses

Three readings of a text have to agree before it becomes an endpoint: the characters are
scanned, the scheme is looked for in front of the first colon, and the text is divided into
parts.  A text that is accepted is the text of a reference, and its authority that of a site.
Conversely the conditions on a reference and a site are given under which their text is
accepted.
-/

namespace NameRouting.Endpoint

/-! ## Characters and escapes -/

/-- The text starts with the two digits of an escape. -/
def StartsEscape (cs : List Char) : Prop :=
  ∃ d e rest, cs = d :: e :: rest ∧ Uri.isHexDigit d = true ∧ Uri.isHexDigit e = true

/-- All characters are allowed, and every percent sign stands in front of two digits. -/
structure IsAddressText (cs : List Char) : Prop where
  allowed : ∀ c ∈ cs, isAllowed c = true
  escapes : ∀ before after, cs = before ++ '%' :: after → StartsEscape after

theorem IsAddressText.visible {cs : List Char} (hcs : IsAddressText cs) :
    ∀ c ∈ cs, 0x20 < c.toNat := by
  intro c hc
  exact lt_toNat_of_isAllowed (hcs.allowed c hc)

theorem isAddressText_nil : IsAddressText [] := by
  refine ⟨nofun, ?_⟩
  intro before after hsplit
  exact absurd hsplit (by simp)

theorem isAddressText_cons_iff {c : Char} {rest : List Char} :
    IsAddressText (c :: rest) ↔
      isAllowed c = true ∧ (c = '%' → StartsEscape rest) ∧ IsAddressText rest := by
  constructor
  · intro htext
    refine ⟨htext.allowed c List.mem_cons_self, ?_, ?_, ?_⟩
    · rintro rfl
      exact htext.escapes [] rest rfl
    · intro d hd
      exact htext.allowed d (List.mem_cons_of_mem c hd)
    · rintro before after rfl
      exact htext.escapes (c :: before) after rfl
  · rintro ⟨hc, hescape, hrest⟩
    refine ⟨List.forall_mem_cons.mpr ⟨hc, hrest.allowed⟩, ?_⟩
    rintro (_ | ⟨d, before⟩) after hsplit
    · obtain ⟨rfl, rfl⟩ := List.cons.inj hsplit
      exact hescape rfl
    · exact hrest.escapes before after (List.cons.inj hsplit).2

theorem isAddressText_of_not_mem {cs : List Char} (hpercent : '%' ∉ cs)
    (hallowed : ∀ c ∈ cs, isAllowed c = true) :
    IsAddressText cs := by
  refine ⟨hallowed, ?_⟩
  rintro before after rfl
  exact absurd (by simp) hpercent

theorem startsEscape_append_iff {cs rest : List Char}
    (hrest : ∀ c ∈ rest.head?, Uri.isHexDigit c = false) :
    StartsEscape (cs ++ rest) ↔ StartsEscape cs := by
  constructor
  · rintro ⟨d, e, more, hsplit, hd, he⟩
    rcases cs with _ | ⟨d', _ | ⟨e', cs⟩⟩
    · rw [List.nil_append] at hsplit
      rw [hrest d (by rw [hsplit]; rfl)] at hd
      cases hd
    · rw [List.cons_append, List.nil_append, List.cons.injEq] at hsplit
      rw [hrest e (by rw [hsplit.2]; rfl)] at he
      cases he
    · rw [List.cons_append, List.cons_append, List.cons.injEq, List.cons.injEq] at hsplit
      obtain ⟨rfl, rfl, -⟩ := hsplit
      exact ⟨_, _, cs, rfl, hd, he⟩
  · rintro ⟨d, e, more, rfl, hd, he⟩
    exact ⟨d, e, more ++ rest, rfl, hd, he⟩

/-- No escape reaches over a place where no digit stands. -/
theorem isAddressText_append_iff {cs rest : List Char}
    (hrest : ∀ c ∈ rest.head?, Uri.isHexDigit c = false) :
    IsAddressText (cs ++ rest) ↔ IsAddressText cs ∧ IsAddressText rest := by
  induction cs with
  | nil => simp [isAddressText_nil]
  | cons c cs ih =>
      rw [List.cons_append, isAddressText_cons_iff, isAddressText_cons_iff,
        startsEscape_append_iff hrest, ih]
      tauto

theorem checkCharacters_percent_iff {rest : List Char} {index : Nat} :
    checkCharacters index ('%' :: rest) = .ok () ↔
      StartsEscape rest ∧ checkCharacters (index + 1) rest = .ok () := by
  rw [checkCharacters.eq_def]
  dsimp only
  rw [if_pos rfl]
  split
  case h_1 d e more =>
    split
    case isTrue hdigits =>
      rw [Bool.and_eq_true] at hdigits
      have hstarts : StartsEscape (d :: e :: more) := ⟨d, e, more, rfl, hdigits⟩
      exact (and_iff_right hstarts).symm
    case isFalse hdigits =>
      refine iff_of_false (by simp) ?_
      rintro ⟨⟨d', e', more', hsplit, hd, he⟩, -⟩
      simp only [List.cons.injEq] at hsplit
      obtain ⟨rfl, rfl, -⟩ := hsplit
      exact hdigits (by rw [hd, he]; rfl)
  case h_2 hshort =>
    refine iff_of_false (by simp) ?_
    rintro ⟨⟨d, e, more, rfl, -⟩, -⟩
    exact hshort d e more rfl

theorem checkCharacters_cons_iff {c : Char} {rest : List Char} {index : Nat} (hc : c ≠ '%') :
    checkCharacters index (c :: rest) = .ok () ↔
      isAllowed c = true ∧ checkCharacters (index + 1) rest = .ok () := by
  rw [checkCharacters.eq_def]
  dsimp only
  rw [if_neg hc]
  by_cases hallowed : isAllowed c = true
  · rw [if_pos hallowed]
    exact (and_iff_right hallowed).symm
  · rw [if_neg hallowed]
    refine iff_of_false (by simp) ?_
    rintro ⟨hc, -⟩
    exact hallowed hc

theorem checkCharacters_eq_ok_iff {cs : List Char} {index : Nat} :
    checkCharacters index cs = .ok () ↔ IsAddressText cs := by
  induction cs generalizing index with
  | nil => exact iff_of_true rfl isAddressText_nil
  | cons c rest ih =>
      rw [isAddressText_cons_iff]
      by_cases hpercent : c = '%'
      · subst hpercent
        have hallowed : isAllowed '%' = true := by
          decide
        rw [checkCharacters_percent_iff, ih]
        simp [hallowed]
      · rw [checkCharacters_cons_iff hpercent, ih]
        simp [hpercent]

/-! ## Schemes -/

theorem exists_of_schemeCandidate? {cs scheme : List Char}
    (hcandidate : schemeCandidate? cs = some scheme) :
    ∃ rest, cs = scheme ++ ':' :: rest := by
  rw [schemeCandidate?, List.span_eq_takeWhile_dropWhile] at hcandidate
  split at hcandidate
  case h_1 before rest hspan =>
    obtain ⟨rfl, hrest⟩ := Prod.mk.inj hspan
    obtain rfl := Option.some.inj hcandidate
    refine ⟨rest, ?_⟩
    rw [← hrest, List.takeWhile_append_dropWhile]
  case h_2 => cases hcandidate

theorem schemeCandidate?_eq_none_iff {cs : List Char} :
    schemeCandidate? cs = none ↔ Uri.HasNoScheme cs := by
  constructor
  · rintro hnone before after rfl
    by_contra hfree
    -- Another colon may come first; the text in front of the first one is a candidate.
    obtain ⟨front, back, hfront, hcolon⟩ :=
      List.eq_append_cons_of_mem (show ':' ∈ before ++ [':'] by simp)
    have hscheme : ∀ c ∈ front, ¬ EndsScheme c := by
      rintro c hc (rfl | hends)
      · exact hcolon hc
      · have hmem : c ∈ before ++ [':'] := by
          rw [hfront]
          exact List.mem_append_left _ hc
        rcases List.mem_append.mp hmem with hbefore | hlast
        · exact hfree ⟨c, hbefore, hends⟩
        · obtain rfl := List.mem_singleton.mp hlast
          exact hcolon hc
    have hcs : before ++ ':' :: after = front ++ ':' :: (back ++ after) := by
      rw [← List.singleton_append, ← List.append_assoc, hfront]
      simp
    rw [hcs, schemeCandidate?_append _ hscheme] at hnone
    cases hnone
  · intro hcs
    by_contra hsome
    obtain ⟨scheme, hcandidate⟩ := Option.ne_none_iff_exists'.mp hsome
    obtain ⟨rest, rfl⟩ := exists_of_schemeCandidate? hcandidate
    obtain ⟨c, hc, hends⟩ := hcs scheme rest rfl
    exact not_endsScheme_of_schemeCandidate? hcandidate c hc (.inr hends)

theorem not_endsScheme_of_isScheme {scheme : List Char} (hscheme : Uri.isScheme scheme = true) :
    ∀ c ∈ scheme, ¬ EndsScheme c := by
  intro c hc hends
  apply Uri.not_mem_of_isScheme hscheme _ hc
  rcases hends with rfl | hends
  · rfl
  · simp only [Uri.endsAuthority, Bool.or_eq_true, beq_iff_eq] at hends
    rcases hends with (rfl | rfl) | rfl <;> rfl

theorem scheme?_text (reference : Uri.Reference) :
    scheme? reference.text = .ok reference.scheme := by
  rw [scheme?]
  cases hscheme : reference.scheme with
  | none => rw [schemeCandidate?_eq_none_iff.mpr (reference.hasNoScheme_text hscheme)]
  | some scheme =>
      have hcorrect := reference.isScheme scheme hscheme
      have htext : reference.text = scheme ++ ':' ::
          (reference.authority.elim [] ('/' :: '/' :: ·) ++ reference.tail) := by
        simp [Uri.Reference.text, hscheme]
      rw [htext, schemeCandidate?_append _ (not_endsScheme_of_isScheme hcorrect)]
      exact if_pos hcorrect

theorem exists_reference_of_scheme? {cs : List Char} {scheme : Option (List Char)}
    (hscheme : scheme? cs = .ok scheme) :
    ∃ reference : Uri.Reference, reference.text = cs := by
  obtain ⟨hcandidate, hcorrect⟩ := schemeCandidate?_of_scheme? hscheme
  cases scheme with
  | none =>
      have hnone := schemeCandidate?_eq_none_iff.mp hcandidate
      obtain ⟨reference, -, htext⟩ :=
        Uri.Reference.exists_text_eq none cs hcorrect fun _ => hnone
      exact ⟨reference, htext⟩
  | some scheme =>
      obtain ⟨rest, rfl⟩ := exists_of_schemeCandidate? hcandidate
      obtain ⟨reference, -, htext⟩ :=
        Uri.Reference.exists_text_eq (some scheme) rest hcorrect
          fun hnone => absurd hnone (Option.some_ne_none scheme)
      exact ⟨reference, by simpa using htext⟩

/-! ## Accepted references -/

theorem checkBracketPlaces_eq_ok_iff {cs : List Char} {parts : Uri.Parts} :
    checkBracketPlaces cs parts = .ok () ↔
      cs.count '[' = parts.authority.count '[' ∧ cs.count ']' = parts.authority.count ']' := by
  rw [checkBracketPlaces]
  split
  case isTrue hplaces => exact iff_of_true rfl hplaces
  case isFalse hplaces => exact iff_of_false nofun hplaces

theorem checkHost_eq_ok_iff {parts : Uri.Parts} :
    checkHost parts = .ok () ↔
      ('[' ∈ parts.authority → parts.host?.any Uri.isIpv6 = true) := by
  rw [checkHost]
  split
  case isTrue hhost =>
    rw [Bool.and_eq_true, Bool.not_eq_true', List.contains_iff_mem] at hhost
    refine iff_of_false nofun fun haddress => ?_
    rw [haddress hhost.1] at hhost
    cases hhost.2
  case isFalse hhost =>
    refine iff_of_true rfl fun hopen => ?_
    by_contra hany
    rw [Bool.not_eq_true] at hany
    exact hhost (by rw [List.contains_iff_mem.mpr hopen, hany]; rfl)

/-- The endpoint that a reference and the site of its authority stand for. -/
def ofReference (reference : Uri.Reference) (site : Uri.Site) : Endpoint where
  raw := String.ofList reference.text
  scheme := reference.scheme.map String.ofList
  host := site.name?.map String.ofList
  port := site.number?
  path := String.ofList reference.path

/-- A text is that of a reference, and its authority that of a site.  A missing authority
counts as an empty one. -/
structure IsWrittenAs (text : List Char) (reference : Uri.Reference) (site : Uri.Site) :
    Prop where
  text_eq : reference.text = text
  authority_eq : reference.authority.getD [] = site.text

/-- What the text of a reference must fulfil in order to be read as an endpoint. -/
structure IsAccepted (reference : Uri.Reference) (site : Uri.Site) : Prop where
  text : IsAddressText reference.text
  fragment : reference.text.count '#' ≤ 1
  opening : reference.text.count '[' = site.text.count '['
  closing : reference.text.count ']' = site.text.count ']'
  visible : ∀ c ∈ site.text, Uri.hidesDelimiter c = false
  brackets : site.HasFitBrackets
  port : site.HasPort

section Accepted

variable {reference : Uri.Reference} {site : Uri.Site}

theorem IsAccepted.split (haccepted : IsAccepted reference site)
    (hauthority : reference.parts.authority = site.text) :
    Uri.split reference.text = .ok reference.parts := by
  have hreadable := Uri.readable_of_visible haccepted.text.visible
  have hcheck := (site.hasFitBrackets_iff.mp haccepted.brackets).1
  rw [Uri.split_eq_ok_iff, hauthority]
  exact ⟨reference.divided_text hreadable, hcheck, haccepted.visible⟩

theorem IsAccepted.port? (haccepted : IsAccepted reference site)
    (hauthority : reference.parts.authority = site.text) :
    reference.parts.port? = .ok site.number? :=
  (Uri.Site.port?_eq_ok_iff hauthority).mpr ⟨rfl, haccepted.port⟩

theorem IsAccepted.checkHost (haccepted : IsAccepted reference site)
    (hauthority : reference.parts.authority = site.text) :
    checkHost reference.parts = .ok () := by
  rw [checkHost_eq_ok_iff, hauthority, Uri.Site.host?_eq hauthority]
  intro hopen
  have hsmall := (site.hasFitBrackets_iff.mp haccepted.brackets).2 hopen
  have hne : site.host ≠ [] := by
    intro hempty
    rw [hempty] at hsmall
    exact absurd hsmall (by decide)
  rw [Uri.Site.name?, if_neg hne]
  exact hsmall

theorem hasFitBrackets_of_checkHost (hauthority : reference.parts.authority = site.text)
    (hcheck : Uri.checkBrackets site.text = .ok ())
    (hhost : checkHost reference.parts = .ok ()) :
    site.HasFitBrackets := by
  rw [checkHost_eq_ok_iff, hauthority, Uri.Site.host?_eq hauthority] at hhost
  refine site.hasFitBrackets_iff.mpr ⟨hcheck, ?_⟩
  intro hopen
  have hany := hhost hopen
  rw [Uri.Site.name?] at hany
  split at hany
  case isTrue => cases hany
  case isFalse => exact hany

/-- A text is read exactly if it is accepted as it is written, and then as the endpoint
that it is written as. -/
theorem parse_eq_ok_iff_isAccepted {text : String} {endpoint : Endpoint}
    (hwritten : IsWrittenAs text.toList reference site) :
    parse text = .ok endpoint ↔
      IsAccepted reference site ∧ endpoint = ofReference reference site := by
  obtain ⟨htext, hauthority⟩ := hwritten
  obtain rfl : text = String.ofList reference.text := by
    rw [htext, String.ofList_toList]
  have hparts : reference.parts.authority = site.text := hauthority
  have hhost := Uri.Site.host?_eq hparts
  have hendpoint : (⟨String.ofList reference.text, reference.scheme.map String.ofList,
      reference.parts.host?.map String.ofList, site.number?,
      String.ofList reference.parts.path⟩ : Endpoint) = ofReference reference site := by
    rw [hhost]
    rfl
  rw [parse_eq_ok_iff, String.toList_ofList, checkCharacters_eq_ok_iff]
  constructor
  · rintro ⟨htext, hfragment, scheme, parts, port, hscheme, hsplit, hplaces, hport, haddress, rfl⟩
    -- The scheme and the parts that were read are those of the reference.
    obtain rfl := Except.ok.inj ((scheme?_text reference).symm.trans hscheme)
    obtain rfl : reference.parts = parts := by
      rw [← reference.divided_text (Uri.readable_of_visible htext.visible)]
      exact Uri.divided_of_split hsplit
    obtain ⟨-, hcheck, hhidden⟩ := Uri.split_eq_ok_iff.mp hsplit
    rw [hparts] at hcheck hhidden
    rw [checkBracketPlaces_eq_ok_iff, hparts] at hplaces
    obtain ⟨rfl, hfits⟩ := (Uri.Site.port?_eq_ok_iff hparts).mp hport
    have hbrackets := hasFitBrackets_of_checkHost hparts hcheck haddress
    exact ⟨⟨htext, hfragment, hplaces.1, hplaces.2, hhidden, hbrackets, hfits⟩, hendpoint⟩
  · rintro ⟨haccepted, rfl⟩
    have hplaces : checkBracketPlaces reference.text reference.parts = .ok () := by
      rw [checkBracketPlaces_eq_ok_iff, hparts]
      exact ⟨haccepted.opening, haccepted.closing⟩
    exact ⟨haccepted.text, haccepted.fragment, reference.scheme, reference.parts, site.number?,
      scheme?_text reference, haccepted.split hparts, hplaces, haccepted.port? hparts,
      haccepted.checkHost hparts, hendpoint.symm⟩

end Accepted

theorem exists_isWrittenAs_of_parse {text : String} {endpoint : Endpoint}
    (hparse : parse text = .ok endpoint) :
    ∃ reference site, IsWrittenAs text.toList reference site := by
  obtain ⟨hcharacters, -, scheme, parts, port, hscheme, hsplit, -, hport, -⟩ :=
    parse_eq_ok_iff.mp hparse
  obtain ⟨reference, htext⟩ := exists_reference_of_scheme? hscheme
  have hvisible := Uri.readable_of_visible (lt_toNat_of_checkCharacters hcharacters)
  rw [← htext] at hvisible hsplit
  obtain ⟨hdivided, hcheck, -⟩ := Uri.split_eq_ok_iff.mp hsplit
  rw [reference.divided_text hvisible] at hdivided
  subst hdivided
  obtain ⟨site, hsite⟩ := Uri.Site.exists_text_eq hcheck (Uri.isDigit_of_port? hport)
  exact ⟨reference, site, htext, hsite.symm⟩

end NameRouting.Endpoint
