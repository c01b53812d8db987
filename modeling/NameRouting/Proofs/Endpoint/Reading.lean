import NameRouting.Endpoint.Basic
import NameRouting.Proofs.Uri.Authority

/-!
# Reading endpoints

An endpoint that is read keeps its text, and its other fields come from the scheme in
front of the first colon and from the parts that the text is divided into.
-/

namespace NameRouting.Endpoint

/-! ## Characters -/

theorem lt_toNat_of_isAllowed {c : Char} (hc : isAllowed c = true) :
    0x20 < c.toNat := by
  have hcontrol : ∀ n < 0x21, isAllowed (Char.ofNat n) = false := by
    decide
  by_contra hle
  have hfalse := hcontrol c.toNat (by omega)
  rw [Char.ofNat_toNat, hc] at hfalse
  cases hfalse

theorem lt_toNat_of_checkCharacters {cs : List Char} {index : Nat}
    (hcheck : checkCharacters index cs = .ok ()) :
    ∀ c ∈ cs, 0x20 < c.toNat := by
  induction cs generalizing index with
  | nil => exact fun c hc => nomatch hc
  | cons c rest ih =>
      rw [List.forall_mem_cons]
      rw [checkCharacters.eq_def] at hcheck
      dsimp only at hcheck
      by_cases hpercent : c = '%'
      · rw [if_pos hpercent] at hcheck
        refine ⟨by rw [hpercent]; decide, ?_⟩
        split at hcheck
        · split at hcheck
          · exact ih hcheck
          · cases hcheck
        · cases hcheck
      · rw [if_neg hpercent] at hcheck
        by_cases hallowed : isAllowed c = true
        · rw [if_pos hallowed] at hcheck
          exact ⟨lt_toNat_of_isAllowed hallowed, ih hcheck⟩
        · rw [if_neg hallowed] at hcheck
          cases hcheck

/-! ## Schemes -/

/-- A character in front of which no scheme goes on. -/
def EndsScheme (c : Char) : Prop :=
  c = ':' ∨ Uri.endsAuthority c = true

theorem not_endsScheme_of_schemeCandidate? {cs scheme : List Char}
    (hcandidate : schemeCandidate? cs = some scheme) :
    ∀ c ∈ scheme, ¬ EndsScheme c := by
  rw [schemeCandidate?, List.span_eq_takeWhile_dropWhile] at hcandidate
  split at hcandidate
  case h_1 before rest hspan =>
    obtain ⟨rfl, -⟩ := Prod.mk.inj hspan
    cases hcandidate
    intro c hc
    simpa [EndsScheme] using List.mem_takeWhile_imp hc
  case h_2 => cases hcandidate

theorem schemeCandidate?_append {scheme : List Char} (rest : List Char)
    (hscheme : ∀ c ∈ scheme, ¬ EndsScheme c) :
    schemeCandidate? (scheme ++ ':' :: rest) = some scheme := by
  have hall : ∀ c ∈ scheme, (c ≠ ':' && !Uri.endsAuthority c) = true := fun c hc => by
    simpa [EndsScheme] using hscheme c hc
  rw [schemeCandidate?, List.span_eq_takeWhile_dropWhile,
    List.takeWhile_append_of_pos hall, List.dropWhile_append_of_pos hall]
  simp

theorem schemeCandidate?_of_scheme? {cs : List Char} {scheme : Option (List Char)}
    (hscheme : scheme? cs = .ok scheme) :
    schemeCandidate? cs = scheme ∧ ∀ s ∈ scheme, Uri.isScheme s = true := by
  rw [scheme?] at hscheme
  cases hcandidate : schemeCandidate? cs with
  | none =>
      rw [hcandidate] at hscheme
      cases hscheme
      exact ⟨rfl, fun _ hs => nomatch hs⟩
  | some candidate =>
      rw [hcandidate] at hscheme
      dsimp only at hscheme
      split at hscheme
      case isTrue hcorrect =>
        cases hscheme
        exact ⟨rfl, fun s hs => Option.mem_some.mp hs ▸ hcorrect⟩
      case isFalse => cases hscheme

/-! ## Fields -/

/-- How an endpoint comes from a text: the scheme as it is written, and the parts that
the text is divided into. -/
structure IsRead (text : List Char) (scheme : Option (List Char)) (parts : Uri.Parts)
    (endpoint : Endpoint) : Prop where
  visible : ∀ c ∈ text, 0x20 < c.toNat
  scheme? : scheme? text = .ok scheme
  split : Uri.split text = .ok parts
  port? : parts.port? = .ok endpoint.port
  raw_eq : endpoint.raw = String.ofList text
  scheme_eq : endpoint.scheme = scheme.map String.ofList
  host_eq : endpoint.host = parts.host?.map String.ofList
  path_eq : endpoint.path = String.ofList parts.path

/-- A text is read exactly when every check passes, and the fields are then determined. -/
theorem parse_eq_ok_iff {text : String} {endpoint : Endpoint} :
    parse text = .ok endpoint ↔
      checkCharacters 0 text.toList = .ok () ∧ text.toList.count '#' ≤ 1 ∧
        ∃ scheme parts port, scheme? text.toList = .ok scheme ∧
          Uri.split text.toList = .ok parts ∧
          checkBracketPlaces text.toList parts = .ok () ∧ parts.port? = .ok port ∧
          checkHost parts = .ok () ∧
          endpoint = ⟨text, scheme.map String.ofList, parts.host?.map String.ofList, port,
            String.ofList parts.path⟩ := by
  rw [parse]
  constructor
  · intro hparse
    obtain ⟨_, hcharacters, hparse⟩ := Outcome.bind_eq_ok_iff.mp hparse
    by_cases hfragments : text.toList.count '#' > 1
    · rw [if_pos hfragments] at hparse
      cases hparse
    · rw [if_neg hfragments] at hparse
      obtain ⟨scheme, hscheme, hparse⟩ := Outcome.bind_eq_ok_iff.mp hparse
      obtain ⟨parts, hparts, hparse⟩ := Outcome.bind_eq_ok_iff.mp hparse
      obtain ⟨_, hplaces, hparse⟩ := Outcome.bind_eq_ok_iff.mp hparse
      obtain ⟨port, hport, hparse⟩ := Outcome.bind_eq_ok_iff.mp hparse
      obtain ⟨_, hhost, hparse⟩ := Outcome.bind_eq_ok_iff.mp hparse
      have hendpoint := Except.ok.inj hparse
      exact ⟨hcharacters, Nat.not_lt.mp hfragments, scheme, parts, port, hscheme, hparts,
        hplaces, hport, hhost, hendpoint.symm⟩
  · rintro ⟨hcharacters, hfragments, scheme, parts, port, hscheme, hparts, hplaces, hport,
      hhost, rfl⟩
    refine Outcome.bind_eq_ok_iff.mpr ⟨(), hcharacters, ?_⟩
    rw [if_neg (Nat.not_lt.mpr hfragments)]
    refine Outcome.bind_eq_ok_iff.mpr ⟨scheme, hscheme, ?_⟩
    refine Outcome.bind_eq_ok_iff.mpr ⟨parts, hparts, ?_⟩
    refine Outcome.bind_eq_ok_iff.mpr ⟨(), hplaces, ?_⟩
    refine Outcome.bind_eq_ok_iff.mpr ⟨port, hport, ?_⟩
    exact Outcome.bind_eq_ok_iff.mpr ⟨(), hhost, rfl⟩

theorem exists_isRead_of_parse {text : String} {endpoint : Endpoint}
    (hparse : parse text = .ok endpoint) :
    ∃ scheme parts, IsRead text.toList scheme parts endpoint := by
  obtain ⟨hcharacters, -, scheme, parts, port, hscheme, hparts, -, hport, -, rfl⟩ :=
    parse_eq_ok_iff.mp hparse
  exact ⟨scheme, parts, lt_toNat_of_checkCharacters hcharacters, hscheme, hparts, hport,
    String.ofList_toList.symm, rfl, rfl, rfl⟩

/-- An address is divided where it was put together when its scheme and its authority
hold no delimiter. -/
theorem IsRead.divided {text scheme authority : List Char} {read : Option (List Char)}
    {parts : Uri.Parts} {endpoint : Endpoint} (hread : IsRead text read parts endpoint)
    (htext : text = scheme ++ ':' :: '/' :: '/' :: authority)
    (hscheme : ∀ c ∈ scheme, ¬ EndsScheme c)
    (hauthority : ∀ c ∈ authority, Uri.endsAuthority c = false) :
    read = some scheme ∧ parts.authority = authority ∧ parts.path = [] := by
  subst htext
  obtain ⟨hcandidate, hcorrect⟩ := schemeCandidate?_of_scheme? hread.scheme?
  rw [schemeCandidate?_append _ hscheme] at hcandidate
  subst hcandidate
  have hcolon : ':' ∉ scheme := fun hmem => hscheme ':' hmem (.inl rfl)
  obtain ⟨rest, htaken, -, hpath⟩ := Uri.split_eq_ok hread.visible hread.split
  rw [Uri.takeScheme_append (hcorrect scheme rfl) hcolon,
    Uri.takeAuthority_of_forall hauthority] at htaken
  obtain ⟨hparts, rfl⟩ := Prod.mk.inj htaken
  exact ⟨rfl, hparts.symm, hpath⟩

end NameRouting.Endpoint
