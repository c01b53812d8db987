import NameRouting.Proofs.Name.Split

/-!
# What the split of a name keeps

A name with a scheme consists of the scheme, the segment behind its colon, and the
components that follow.  The split keeps the segment and these components, and every
list of components is what it keeps of some name.  It loses one distinction only: an
empty segment that stays in front of a component looks afterwards like an empty
component that stood there before.
-/

namespace NameRouting

namespace CompositeName

/-! ## Names with a scheme -/

/-- A text that is found again as the scheme of a name: there is something of it, and
no colon ends it earlier. -/
structure IsSchemeText (scheme : String) : Prop where
  ne_empty : scheme ≠ ""
  noColon : ':' ∉ scheme.toList

/-- The name that has a scheme, a segment behind the colon, and further components. -/
def underScheme (scheme segment : String) (rest : List String) : CompositeName :=
  ⟨(scheme ++ ":" ++ segment) :: rest⟩

/-- What the split keeps of a segment and the components behind it. -/
def kept (segment : String) (rest : List String) : List String :=
  if segment ≠ "" ∨ keepsEmptyFront rest = true then segment :: rest else rest

theorem underScheme_inj {scheme segment segment' : String} {rest rest' : List String} :
    underScheme scheme segment rest = underScheme scheme segment' rest' ↔
      segment = segment' ∧ rest = rest' := by
  rw [underScheme, underScheme, CompositeName.mk.injEq, List.cons.injEq,
    String.append_right_inj]

theorem keepsEmptyFront_iff {rest : List String} :
    keepsEmptyFront rest = true ↔ ∃ first others, first ≠ "" ∧ rest = first :: others := by
  cases rest with
  | nil => simp [keepsEmptyFront]
  | cons first others => simp [keepsEmptyFront]

theorem split_underScheme {scheme : String} (hscheme : IsSchemeText scheme)
    (segment : String) (rest : List String) :
    (underScheme scheme segment rest).split = ⟨some scheme, ⟨kept segment rest⟩⟩ := by
  have hcut : Text.cutAt ':' (scheme ++ ":" ++ segment).toList =
      (scheme.toList, some segment.toList) := by
    rw [Text.cutAt_eq_some_iff]
    exact ⟨hscheme.noColon, by simp⟩
  have hne : scheme.toList.isEmpty = false := by
    simpa using hscheme.ne_empty
  rw [split, underScheme]
  simp only [hcut, hne, String.ofList_toList, kept]
  simp

/-- A name whose split has a scheme starts with this scheme. -/
theorem exists_eq_underScheme {name : CompositeName} {scheme : String}
    (hsplit : name.split.scheme = some scheme) :
    ∃ segment rest, name = underScheme scheme segment rest := by
  obtain ⟨components⟩ := name
  cases components with
  | nil => cases hsplit
  | cons first rest =>
      rcases hcut : Text.cutAt ':' first.toList with ⟨before, after⟩
      simp only [split, hcut] at hsplit
      cases after with
      | none => cases hsplit
      | some segment =>
          dsimp only at hsplit
          split at hsplit
          case isTrue => cases hsplit
          case isFalse =>
            cases hsplit
            refine ⟨String.ofList segment, rest, ?_⟩
            rw [underScheme, CompositeName.mk.injEq, List.cons.injEq]
            refine ⟨?_, rfl⟩
            rw [← String.toList_inj, (Text.cutAt_eq_some_iff.mp hcut).2]
            simp

theorem scheme_split_eq_some_iff {scheme : String} (hscheme : IsSchemeText scheme)
    (name : CompositeName) :
    name.split.scheme = some scheme ↔
      ∃ first ∈ name.components.head?, (scheme ++ ":").toList <+: first.toList := by
  constructor
  · intro hsplit
    obtain ⟨segment, rest, rfl⟩ := exists_eq_underScheme hsplit
    refine ⟨scheme ++ ":" ++ segment, rfl, ?_⟩
    exact ⟨segment.toList, String.toList_append.symm⟩
  · rintro ⟨first, hfirst, segment, hsegment⟩
    obtain ⟨components⟩ := name
    obtain ⟨rest, rfl⟩ := List.head?_eq_some_iff.mp hfirst
    have hname : (⟨first :: rest⟩ : CompositeName) =
        underScheme scheme (String.ofList segment) rest := by
      rw [underScheme, CompositeName.mk.injEq, List.cons.injEq, ← String.toList_inj, ← hsegment]
      simp
    rw [hname, split_underScheme hscheme]

theorem split_of_noColon {name : CompositeName}
    (hname : ∀ first ∈ name.components.head?, ':' ∉ first.toList) :
    name.split = ⟨none, name⟩ := by
  obtain ⟨components⟩ := name
  cases components with
  | nil => rfl
  | cons first rest =>
      have hcut := Text.cutAt_of_not_mem (hname first rfl)
      simp only [split, hcut]

/-! ## What is kept -/

theorem kept_empty_of_head {first : String} (hfirst : first ≠ "") (others : List String) :
    kept "" (first :: others) = "" :: first :: others := by
  rw [kept, if_pos (.inr (keepsEmptyFront_iff.mpr ⟨first, others, hfirst, rfl⟩))]

theorem kept_empty_of_not_keepsEmptyFront {rest : List String}
    (hrest : ¬ keepsEmptyFront rest = true) :
    kept "" rest = rest := by
  rw [kept, if_neg]
  rintro (hne | hkeeps)
  · exact hne rfl
  · exact hrest hkeeps

theorem kept_of_ne_empty {segment : String} (hsegment : segment ≠ "") (rest : List String) :
    kept segment rest = segment :: rest := by
  rw [kept, if_pos (.inl hsegment)]

/-- Every list of components is kept of some segment and components. -/
theorem exists_kept_eq (components : List String) :
    ∃ segment rest, kept segment rest = components := by
  by_cases hkeeps : keepsEmptyFront components = true
  · obtain ⟨first, others, hfirst, rfl⟩ := keepsEmptyFront_iff.mp hkeeps
    exact ⟨first, others, kept_of_ne_empty hfirst others⟩
  · exact ⟨"", components, kept_empty_of_not_keepsEmptyFront hkeeps⟩

/-- A segment that is not empty is seen in what is kept. -/
theorem kept_eq_cons_iff {segment segment' : String} (hsegment : segment ≠ "")
    {rest rest' : List String} :
    kept segment' rest' = segment :: rest ↔ segment' = segment ∧ rest' = rest := by
  by_cases hsegment' : segment' = ""
  · subst hsegment'
    refine iff_of_false ?_ fun hsame => hsegment hsame.1.symm
    by_cases hkeeps : keepsEmptyFront rest' = true
    · obtain ⟨first, others, hfirst, rfl⟩ := keepsEmptyFront_iff.mp hkeeps
      rw [kept_empty_of_head hfirst]
      exact fun hcons => hsegment (List.cons.inj hcons).1.symm
    · rw [kept_empty_of_not_keepsEmptyFront hkeeps]
      exact fun hcons => hkeeps (keepsEmptyFront_iff.mpr ⟨segment, rest, hsegment, hcons⟩)
  · rw [kept_of_ne_empty hsegment', List.cons.injEq]

/-- With empty segments, components are kept alike exactly when they are the same, or
when one list has an empty component more in front of one that is not empty. -/
theorem kept_empty_eq_iff {rest rest' : List String} :
    kept "" rest = kept "" rest' ↔
      rest = rest' ∨ (keepsEmptyFront rest = true ∧ rest' = "" :: rest) ∨
        (keepsEmptyFront rest' = true ∧ rest = "" :: rest') := by
  have hempty (others : List String) : ¬ keepsEmptyFront ("" :: others) = true := by
    simp [keepsEmptyFront]
  by_cases hkeeps : keepsEmptyFront rest = true
  · obtain ⟨first, others, hfirst, hrest⟩ := keepsEmptyFront_iff.mp hkeeps
    by_cases hkeeps' : keepsEmptyFront rest' = true
    · obtain ⟨first', others', hfirst', hrest'⟩ := keepsEmptyFront_iff.mp hkeeps'
      have hne : rest' ≠ "" :: rest := fun hcons => hempty rest (hcons ▸ hkeeps')
      have hne' : rest ≠ "" :: rest' := fun hcons => hempty rest' (hcons ▸ hkeeps)
      rw [hrest, hrest', kept_empty_of_head hfirst, kept_empty_of_head hfirst', ← hrest, ← hrest']
      simp [hne, hne']
    · rw [kept_empty_of_not_keepsEmptyFront hkeeps', hrest, kept_empty_of_head hfirst, ← hrest]
      have hne : rest ≠ rest' := fun hsame => hkeeps' (hsame ▸ hkeeps)
      simp [hkeeps, hkeeps', hne, eq_comm]
  · by_cases hkeeps' : keepsEmptyFront rest' = true
    · obtain ⟨first', others', hfirst', hrest'⟩ := keepsEmptyFront_iff.mp hkeeps'
      rw [kept_empty_of_not_keepsEmptyFront hkeeps, hrest', kept_empty_of_head hfirst', ← hrest']
      have hne : rest ≠ rest' := fun hsame => hkeeps (hsame ▸ hkeeps')
      simp [hkeeps, hkeeps', hne]
    · rw [kept_empty_of_not_keepsEmptyFront hkeeps, kept_empty_of_not_keepsEmptyFront hkeeps']
      simp [hkeeps, hkeeps']

/-! ## The distinction that is lost -/

/-- The second name is the first one with one more component: an empty one, between the
colon of the scheme and a component that is not empty. -/
def GainsEmptyFront (scheme : String) (name other : CompositeName) : Prop :=
  ∃ first others, first ≠ "" ∧ name = ⟨(scheme ++ ":") :: first :: others⟩ ∧
    other = ⟨(scheme ++ ":") :: "" :: first :: others⟩

theorem gainsEmptyFront_underScheme_iff {scheme segment segment' : String}
    {rest rest' : List String} :
    GainsEmptyFront scheme (underScheme scheme segment rest)
        (underScheme scheme segment' rest') ↔
      segment = "" ∧ segment' = "" ∧ keepsEmptyFront rest = true ∧ rest' = "" :: rest := by
  have hbare (rest : List String) :
      (⟨(scheme ++ ":") :: rest⟩ : CompositeName) = underScheme scheme "" rest := by
    rw [underScheme, String.append_empty]
  constructor
  · rintro ⟨first, others, hfirst, hname, hother⟩
    rw [hbare, underScheme_inj] at hname hother
    obtain ⟨rfl, rfl⟩ := hname
    obtain ⟨rfl, rfl⟩ := hother
    exact ⟨rfl, rfl, keepsEmptyFront_iff.mpr ⟨first, others, hfirst, rfl⟩, rfl⟩
  · rintro ⟨rfl, rfl, hkeeps, rfl⟩
    obtain ⟨first, others, hfirst, rfl⟩ := keepsEmptyFront_iff.mp hkeeps
    exact ⟨first, others, hfirst, (hbare _).symm, (hbare _).symm⟩

theorem residual_split_eq_iff {scheme : String} (hscheme : IsSchemeText scheme)
    {name other : CompositeName} (hname : name.split.scheme = some scheme)
    (hother : other.split.scheme = some scheme) :
    name.split.residual = other.split.residual ↔
      name = other ∨ GainsEmptyFront scheme name other ∨ GainsEmptyFront scheme other name := by
  obtain ⟨segment, rest, rfl⟩ := exists_eq_underScheme hname
  obtain ⟨segment', rest', rfl⟩ := exists_eq_underScheme hother
  rw [split_underScheme hscheme, split_underScheme hscheme, CompositeName.mk.injEq,
    underScheme_inj, gainsEmptyFront_underScheme_iff, gainsEmptyFront_underScheme_iff]
  by_cases hsegment : segment = ""
  · by_cases hsegment' : segment' = ""
    · subst hsegment hsegment'
      rw [kept_empty_eq_iff]
      simp
    · rw [kept_of_ne_empty hsegment', kept_eq_cons_iff hsegment']
      simp [hsegment']
  · have hsame : segment' = segment ∧ rest' = rest ↔ segment = segment' ∧ rest = rest' :=
      and_congr eq_comm eq_comm
    rw [kept_of_ne_empty hsegment, eq_comm, kept_eq_cons_iff hsegment, hsame]
    simp [hsegment]

/-- The names with a scheme are those that start with it and a colon.  The split keeps
every list of components of one of them, and it keeps the same of two of them exactly
when they differ in an empty component behind the colon, in front of one that is not
empty.  A name without a colon in its first component is kept as a whole, and nothing is
left of the empty name and of a lone colon only. -/
theorem split_keeps {scheme : String} (hscheme : IsSchemeText scheme) :
    (∀ name : CompositeName, name.split.scheme = some scheme ↔
      ∃ first ∈ name.components.head?, (scheme ++ ":").toList <+: first.toList) ∧
    (∀ residual : CompositeName,
      ∃ name : CompositeName, name.split = ⟨some scheme, residual⟩) ∧
    (∀ name other : CompositeName, name.split.scheme = some scheme →
      other.split.scheme = some scheme → name ≠ other →
        (name.split.residual = other.split.residual ↔
          GainsEmptyFront scheme name other ∨ GainsEmptyFront scheme other name)) ∧
    (∀ name : CompositeName, (∀ first ∈ name.components.head?, ':' ∉ first.toList) →
      name.split = ⟨none, name⟩) ∧
    ∀ name : CompositeName, name.split.isEmpty = true ↔
      name.components = [] ∨ name.components = [":"] := by
  refine ⟨scheme_split_eq_some_iff hscheme, ?_, ?_, fun name => split_of_noColon,
    isEmpty_split_iff⟩
  · rintro ⟨components⟩
    obtain ⟨segment, rest, hkept⟩ := exists_kept_eq components
    refine ⟨underScheme scheme segment rest, ?_⟩
    rw [split_underScheme hscheme, hkept]
  · intro name other hname hother hne
    rw [residual_split_eq_iff hscheme hname hother, or_iff_right hne]

/-- An empty component behind the colon is lost in front of another component, and a
segment behind the colon differs from a component there. -/
theorem schemedNames_kept :
    IsSchemeText "ejb" ∧
      (⟨["ejb:", "a"]⟩ : CompositeName).split.residual =
        (⟨["ejb:", "", "a"]⟩ : CompositeName).split.residual ∧
      (⟨["ejb:a"]⟩ : CompositeName).split.residual ≠
        (⟨["ejb:", "a"]⟩ : CompositeName).split.residual := by
  have hscheme : IsSchemeText "ejb" := ⟨by decide, by decide⟩
  obtain ⟨hstarts, -, hlost, -⟩ := split_keeps hscheme
  have hnames : ∀ first ∈ ["ejb:", "ejb:a"], ("ejb" ++ ":").toList <+: first.toList := by
    decide
  have hbare (rest : List String) : (⟨"ejb:" :: rest⟩ : CompositeName).split.scheme =
      some "ejb" :=
    (hstarts _).mpr ⟨"ejb:", rfl, hnames _ (by decide)⟩
  have hsegment : (⟨["ejb:a"]⟩ : CompositeName).split.scheme = some "ejb" :=
    (hstarts _).mpr ⟨"ejb:a", rfl, hnames _ (by decide)⟩
  refine ⟨hscheme, ?_, ?_⟩
  · refine (hlost _ _ (hbare ["a"]) (hbare ["", "a"]) (by decide)).mpr (.inl ?_)
    exact ⟨"a", [], by decide, rfl, rfl⟩
  · intro hsame
    rcases (hlost _ _ hsegment (hbare ["a"]) (by decide)).mp hsame with
      ⟨first, others, -, hname, -⟩ | ⟨first, others, -, -, hother⟩
    · exact absurd (congrArg components hname) (by simp)
    · exact absurd (congrArg components hother) (by simp)

end CompositeName

end NameRouting
