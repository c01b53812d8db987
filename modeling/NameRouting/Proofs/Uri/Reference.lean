import NameRouting.Proofs.Uri.Authority

/-!
# References

A reference is an address in its written form: a scheme, an authority, a path, a query and
a fragment, each with the delimiter that announces it, and none with a delimiter that ends
it.  When the text of a reference is divided, its parts are found again, and a text whose
start can be told apart from a scheme is the text of some reference.
-/

namespace NameRouting.Uri

/-- No colon of a text can end a scheme: a slash, a question mark or a number sign stands
in front of it. -/
def HasNoScheme (cs : List Char) : Prop :=
  ∀ before after, cs = before ++ ':' :: after → ∃ c ∈ before, endsAuthority c = true

/-- The parts of an address as they are written.  A part that is missing differs from an
empty one. -/
structure Reference where
  scheme : Option (List Char)
  authority : Option (List Char)
  path : List Char
  query : Option (List Char)
  fragment : Option (List Char)
  isScheme : ∀ s ∈ scheme, isScheme s = true
  authority_free : ∀ a ∈ authority, ∀ c ∈ a, endsAuthority c = false
  path_free : '?' ∉ path ∧ '#' ∉ path
  query_free : ∀ q ∈ query, '#' ∉ q
  path_slash : authority ≠ none → path = [] ∨ ∃ rest, path = '/' :: rest
  path_bare : authority = none → ∀ rest, path ≠ '/' :: '/' :: rest
  path_colon : scheme = none → authority = none → HasNoScheme path

/-! ## Texts without a scheme -/

theorem HasNoScheme.of_append {cs rest : List Char} (hcs : HasNoScheme (cs ++ rest)) :
    HasNoScheme cs := by
  rintro before after rfl
  exact hcs before (after ++ rest) (by simp)

theorem HasNoScheme.append {cs rest : List Char} (hcs : HasNoScheme cs)
    (hrest : ∀ c ∈ rest.head?, endsAuthority c = true) :
    HasNoScheme (cs ++ rest) := by
  intro before after hsplit
  rcases List.append_eq_append_iff.mp hsplit with ⟨middle, rfl, hmiddle⟩ | ⟨middle, hmiddle, hafter⟩
  · cases middle with
    | nil =>
        have hcolon := hrest ':' (by rw [hmiddle]; rfl)
        exact absurd hcolon (by decide)
    | cons c more =>
        exact ⟨c, by simp, hrest c (by rw [hmiddle]; rfl)⟩
  · cases middle with
    | nil =>
        have hcolon := hrest ':' (by rw [← List.nil_append rest, ← hafter]; rfl)
        exact absurd hcolon (by decide)
    | cons c more =>
        obtain ⟨rfl, -⟩ := List.cons.inj hafter
        exact hcs before more hmiddle

theorem hasNoScheme_of_head {c : Char} {rest : List Char} (hc : endsAuthority c = true) :
    HasNoScheme (c :: rest) := by
  rintro (_ | ⟨d, before⟩) after hsplit
  · obtain ⟨rfl, -⟩ := List.cons.inj hsplit
    exact absurd hc (by decide)
  · obtain ⟨rfl, -⟩ := List.cons.inj hsplit
    exact ⟨c, List.mem_cons_self, hc⟩

theorem not_mem_of_isScheme {scheme : List Char} (hscheme : isScheme scheme = true) {c : Char}
    (hc : isSchemeChar c = false) :
    c ∉ scheme := by
  intro hmem
  have hall : ∀ d ∈ scheme, isSchemeChar d = true := by
    cases scheme with
    | nil => cases hscheme
    | cons first rest =>
        simp only [Uri.isScheme, Bool.and_eq_true, List.all_eq_true] at hscheme
        refine List.forall_mem_cons.mpr ⟨?_, hscheme.2⟩
        simp [isSchemeChar, Char.isAlphanum, hscheme.1]
  rw [hall c hmem] at hc
  cases hc

theorem takeScheme_of_hasNoScheme {cs : List Char} (hcs : HasNoScheme cs) :
    takeScheme cs = ([], cs) := by
  rw [takeScheme]
  rcases hcut : Text.cutAt ':' cs with ⟨before, _ | after⟩
  · rfl
  · obtain ⟨c, hc, hends⟩ := hcs before after (Text.cutAt_eq_some_iff.mp hcut).2
    have hscheme : isScheme before ≠ true := by
      intro hscheme
      refine not_mem_of_isScheme hscheme ?_ hc
      simp only [endsAuthority, Bool.or_eq_true, beq_iff_eq] at hends
      rcases hends with (rfl | rfl) | rfl <;> rfl
    exact if_neg hscheme

/-! ## Authorities -/

theorem takeAuthority_of_bare {cs : List Char} (hcs : ∀ rest, cs ≠ '/' :: '/' :: rest) :
    takeAuthority cs = ([], cs) := by
  rw [takeAuthority.eq_def]
  split
  · exact absurd rfl (hcs _)
  · rfl

theorem takeAuthority_cases (cs : List Char) :
    (∃ authority rest, cs = '/' :: '/' :: (authority ++ rest) ∧
        (∀ c ∈ authority, endsAuthority c = false) ∧
        ∀ c ∈ rest.head?, endsAuthority c = true) ∨
      ∀ rest, cs ≠ '/' :: '/' :: rest := by
  by_cases hslashes : ∃ rest, cs = '/' :: '/' :: rest
  · obtain ⟨rest, rfl⟩ := hslashes
    refine .inl ⟨rest.takeWhile fun c => !endsAuthority c, rest.dropWhile fun c => !endsAuthority c,
      by rw [List.takeWhile_append_dropWhile], fun c hc => ?_, fun c hc => ?_⟩
    · simpa using List.mem_takeWhile_imp hc
    · have hhead := List.head?_dropWhile_not (fun c => !endsAuthority c) rest
      rw [Option.mem_def.mp hc] at hhead
      simpa using hhead
  · exact .inr fun rest hcs => hslashes ⟨rest, hcs⟩

namespace Reference

/-! ## Texts of references -/

/-- The path with the query and the fragment behind it. -/
def tail (reference : Reference) : List Char :=
  reference.path ++ (reference.query.elim [] ('?' :: ·) ++ reference.fragment.elim [] ('#' :: ·))

/-- The text of a reference. -/
def text (reference : Reference) : List Char :=
  reference.scheme.elim [] (· ++ [':']) ++
    (reference.authority.elim [] ('/' :: '/' :: ·) ++ reference.tail)

/-- The parts that the text of a reference is divided into. -/
def parts (reference : Reference) : Parts where
  scheme := (reference.scheme.getD []).map Char.toLower
  authority := reference.authority.getD []
  path := reference.path
  query := reference.query.getD []
  fragment := reference.fragment.getD []

/-! ## Reading a reference -/

section Reading

variable (reference : Reference)

theorem head?_fragment {c : Char}
    (hc : c ∈ (reference.fragment.elim [] ('#' :: ·)).head?) :
    endsAuthority c = true := by
  cases hfragment : reference.fragment with
  | none =>
      rw [hfragment] at hc
      cases hc
  | some fragment =>
      rw [hfragment] at hc
      obtain rfl := Option.some.inj hc
      rfl

theorem head?_query {c : Char}
    (hc : c ∈ (reference.query.elim [] ('?' :: ·) ++
      reference.fragment.elim [] ('#' :: ·)).head?) :
    endsAuthority c = true := by
  cases hquery : reference.query with
  | none =>
      rw [hquery] at hc
      exact head?_fragment reference hc
  | some query =>
      rw [hquery] at hc
      obtain rfl := Option.some.inj hc
      rfl

theorem head?_tail (hauthority : reference.authority ≠ none) {c : Char}
    (hc : c ∈ reference.tail.head?) :
    endsAuthority c = true := by
  rw [tail] at hc
  rcases reference.path_slash hauthority with hpath | ⟨rest, hpath⟩
  · rw [hpath] at hc
    exact head?_query reference hc
  · rw [hpath] at hc
    obtain rfl := Option.some.inj hc
    rfl

theorem cutAt_tail :
    Text.cutAt '#' reference.tail =
      (reference.path ++ reference.query.elim [] ('?' :: ·), reference.fragment) := by
  have hfree : '#' ∉ reference.path ++ reference.query.elim [] ('?' :: ·) := by
    rw [List.mem_append, not_or]
    refine ⟨reference.path_free.2, ?_⟩
    cases hquery : reference.query with
    | none => exact List.not_mem_nil
    | some query =>
        rw [Option.elim_some, List.mem_cons, not_or]
        exact ⟨by decide, reference.query_free query hquery⟩
  rw [tail, ← List.append_assoc]
  cases reference.fragment with
  | none =>
      rw [Option.elim_none, List.append_nil]
      exact Text.cutAt_of_not_mem hfree
  | some fragment => exact Text.cutAt_append hfree fragment

theorem cutAt_path :
    Text.cutAt '?' (reference.path ++ reference.query.elim [] ('?' :: ·)) =
      (reference.path, reference.query) := by
  cases reference.query with
  | none =>
      rw [Option.elim_none, List.append_nil]
      exact Text.cutAt_of_not_mem reference.path_free.1
  | some query => exact Text.cutAt_append reference.path_free.1 query

theorem takeAuthority_text :
    takeAuthority (reference.authority.elim [] ('/' :: '/' :: ·) ++ reference.tail) =
      (reference.authority.getD [], reference.tail) := by
  cases hauthority : reference.authority with
  | none =>
      have hbare : ∀ rest, reference.tail ≠ '/' :: '/' :: rest := by
        intro rest htail
        -- The query and the fragment do not start with a slash.
        have hhead : ∀ rest', reference.query.elim [] ('?' :: ·) ++
            reference.fragment.elim [] ('#' :: ·) ≠ '/' :: rest' := by
          intro rest'
          cases reference.query <;> cases reference.fragment <;> simp
        have hpath := reference.path_bare hauthority
        rw [tail] at htail
        rcases hreference : reference.path with _ | ⟨c, _ | ⟨d, more⟩⟩
        · rw [hreference] at htail
          exact hhead _ htail
        · rw [hreference, List.cons_append, List.cons.injEq] at htail
          exact hhead _ htail.2
        · rw [hreference, List.cons_append, List.cons_append, List.cons.injEq,
            List.cons.injEq] at htail
          obtain ⟨rfl, rfl, -⟩ := htail
          exact hpath more hreference
      rw [Option.elim_none, List.nil_append]
      exact takeAuthority_of_bare hbare
  | some authority =>
      have hne : reference.authority ≠ none := by
        rw [hauthority]
        exact Option.some_ne_none authority
      exact takeAuthority_append (reference.authority_free authority hauthority)
        fun c hc => head?_tail reference hne hc

theorem hasNoScheme_text (hscheme : reference.scheme = none) :
    HasNoScheme reference.text := by
  rw [text, hscheme]
  cases hauthority : reference.authority with
  | none =>
      have hpath := reference.path_colon hscheme hauthority
      exact hpath.append fun c hc => head?_query reference hc
  | some authority => exact hasNoScheme_of_head (by decide)

theorem takeScheme_text :
    takeScheme reference.text =
      ((reference.scheme.getD []).map Char.toLower,
        reference.authority.elim [] ('/' :: '/' :: ·) ++ reference.tail) := by
  cases hscheme : reference.scheme with
  | none =>
      rw [takeScheme_of_hasNoScheme (hasNoScheme_text reference hscheme), text, hscheme]
      rfl
  | some scheme =>
      have hcorrect := reference.isScheme scheme hscheme
      have htext : reference.text = scheme ++ ':' ::
          (reference.authority.elim [] ('/' :: '/' :: ·) ++ reference.tail) := by
        simp [text, hscheme]
      rw [htext, takeScheme_append hcorrect (not_mem_of_isScheme hcorrect rfl)]
      rfl

/-- The parts of a reference are found again in its text. -/
theorem divided_text (hreadable : readable reference.text = reference.text) :
    divided reference.text = reference.parts := by
  have hscheme := takeScheme_text reference
  have hauthority := takeAuthority_text reference
  rw [divided, hreadable, hscheme]
  dsimp only
  rw [hauthority]
  dsimp only
  rw [cutAt_tail]
  dsimp only
  rw [cutAt_path]
  rfl

end Reading

/-! ## Texts that are references -/

/-- A path, a query and a fragment are found in every text. -/
theorem exists_tail (cs : List Char) :
    ∃ (path : List Char) (query fragment : Option (List Char)),
      cs = path ++ (query.elim [] ('?' :: ·) ++ fragment.elim [] ('#' :: ·)) ∧
        ('?' ∉ path ∧ '#' ∉ path) ∧ ∀ q ∈ query, '#' ∉ q := by
  rcases hfragment : Text.cutAt '#' cs with ⟨front, fragment⟩
  rcases hquery : Text.cutAt '?' front with ⟨path, query⟩
  obtain ⟨hfront, rfl⟩ := Text.eq_append_of_cutAt hfragment
  obtain ⟨hpath, rfl⟩ := Text.eq_append_of_cutAt hquery
  rw [List.mem_append, not_or] at hfront
  refine ⟨path, query, fragment, List.append_assoc _ _ _, ⟨hpath, hfront.1⟩, ?_⟩
  intro q hq hmem
  rw [Option.mem_def.mp hq] at hfront
  exact hfront.2 (List.mem_cons_of_mem _ hmem)

/-- A scheme and a text behind it make up a reference; without a scheme the text must not
look as if it had one. -/
theorem exists_text_eq (scheme : Option (List Char)) (rest : List Char)
    (hscheme : ∀ s ∈ scheme, Uri.isScheme s = true)
    (hnone : scheme = none → HasNoScheme rest) :
    ∃ reference : Reference, reference.scheme = scheme ∧
      reference.text = scheme.elim [] (· ++ [':']) ++ rest := by
  rcases takeAuthority_cases rest with ⟨authority, cs, rfl, hauthority, hcs⟩ | hbare
  · obtain ⟨path, query, fragment, rfl, hpath, hquery⟩ := exists_tail cs
    have hslash : path = [] ∨ ∃ more, path = '/' :: more := by
      cases path with
      | nil => exact .inl rfl
      | cons c more =>
          have hc := hcs c rfl
          simp only [endsAuthority, Bool.or_eq_true, beq_iff_eq] at hc
          rcases hc with (rfl | rfl) | rfl
          · exact .inr ⟨more, rfl⟩
          · exact absurd List.mem_cons_self hpath.1
          · exact absurd List.mem_cons_self hpath.2
    have hsome : some authority ≠ none := Option.some_ne_none authority
    refine ⟨⟨scheme, some authority, path, query, fragment, hscheme, ?_, hpath, hquery,
      fun _ => hslash, fun hnone => absurd hnone hsome, fun _ hnone => absurd hnone hsome⟩,
      rfl, rfl⟩
    intro a ha
    obtain rfl := Option.some.inj ha
    exact hauthority
  · obtain ⟨path, query, fragment, rfl, hpath, hquery⟩ := exists_tail rest
    refine ⟨⟨scheme, none, path, query, fragment, hscheme, ?_, hpath, hquery,
      fun hne => absurd rfl hne, ?_, fun hfree _ => (hnone hfree).of_append⟩, rfl, rfl⟩
    · intro a ha
      cases ha
    · intro _ more hmore
      exact hbare (more ++ _) (by rw [hmore]; rfl)

end Reference

theorem takeScheme_cases (cs : List Char) :
    (∃ scheme rest, isScheme scheme = true ∧ cs = scheme ++ ':' :: rest ∧
        takeScheme cs = (scheme.map Char.toLower, rest)) ∨
      takeScheme cs = ([], cs) := by
  rcases hcut : Text.cutAt ':' cs with ⟨before, _ | after⟩
  · refine .inr ?_
    rw [takeScheme, hcut]
  · obtain ⟨hfree, rfl⟩ := Text.cutAt_eq_some_iff.mp hcut
    by_cases hscheme : isScheme before = true
    · exact .inl ⟨before, after, hscheme, rfl, takeScheme_append hscheme hfree after⟩
    · refine .inr ?_
      rw [takeScheme, hcut]
      exact if_neg hscheme

/-- A text with an authority is that of a reference, as far as it is read. -/
theorem exists_reference_of_authority {cs : List Char} (hcs : (divided cs).authority ≠ []) :
    ∃ reference : Reference, reference.text = readable cs ∧ reference.parts = divided cs ∧
      reference.authority ≠ none := by
  obtain ⟨reference, htext⟩ : ∃ reference : Reference, reference.text = readable cs := by
    rcases takeScheme_cases (readable cs) with ⟨scheme, rest, hscheme, hsplit, -⟩ | hnone
    · have hcorrect : ∀ s ∈ some scheme, isScheme s = true := by
        intro s hs
        obtain rfl := Option.some.inj hs
        exact hscheme
      obtain ⟨reference, -, htext⟩ :=
        Reference.exists_text_eq (some scheme) rest hcorrect
          fun hnone => absurd hnone (Option.some_ne_none scheme)
      exact ⟨reference, by rw [htext, hsplit]; simp⟩
    · have hslashes : HasNoScheme (readable cs) := by
        rcases takeAuthority_cases (readable cs) with ⟨authority, rest, hsplit, -⟩ | hbare
        · rw [hsplit]
          exact hasNoScheme_of_head (by decide)
        · have hauthority : (divided cs).authority = [] := by
            rw [divided, hnone, takeAuthority_of_bare hbare]
          exact absurd hauthority hcs
      obtain ⟨reference, -, htext⟩ :=
        Reference.exists_text_eq none (readable cs)
          (fun s hs => absurd hs (Option.not_mem_none s)) fun _ => hslashes
      exact ⟨reference, htext⟩
  have hparts : reference.parts = divided cs := by
    rw [← reference.divided_text (by rw [htext, readable_readable]), htext, divided_readable]
  refine ⟨reference, htext, hparts, ?_⟩
  intro hnone
  rw [← hparts] at hcs
  exact hcs (by rw [Reference.parts, hnone]; rfl)

end NameRouting.Uri
