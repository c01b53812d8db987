import NameRouting.Proofs.Text.Separators
import NameRouting.Template

/-!
# The meaning of templates

A template consists of pieces: characters, dollar signs written twice, and references
to keys, each of which may hold another template as its default.  The expansion of
the written pieces is what the pieces mean.

Two searches have to agree on where a reference ends: the one for the brace that
closes it, which only counts the references inside, and the expansion itself.  They
agree because the search passes over a written default as a whole, at any depth.
-/

namespace NameRouting.Template

/-! ## Pieces -/

/-- The pieces of a template, in order. -/
inductive Pieces where
  | nil
  | literal (c : Char) (rest : Pieces)
  | dollar (rest : Pieces)
  | reference (keys : List (List Char)) (rest : Pieces)
  | choice (keys : List (List Char)) (default rest : Pieces)
deriving DecidableEq, Inhabited, Repr

/-- The value of a key, which belongs to the process if it starts with `env.`, and
otherwise to the properties. -/
def Scope.lookup (scope : Scope) (key : List Char) : Option String :=
  if "env.".toList.isPrefixOf key then
    scope.process.get? (String.ofList (key.drop 4))
  else
    match scope.properties.get? (String.ofList key) with
    | some .null => none
    | given => given.map Value.toText

/-- The value of the first key that has one, without the blanks around the keys and
without blank keys. -/
def Scope.found (scope : Scope) (keys : List (List Char)) : Option String :=
  ((keys.map Text.trim).filter (!·.isEmpty)).findSome? scope.lookup

namespace Pieces

/-- The text that writes a template. -/
def written : Pieces → List Char
  | nil => []
  | literal c rest => c :: rest.written
  | dollar rest => '$' :: '$' :: rest.written
  | reference keys rest => '$' :: '{' :: (Text.joined ',' keys ++ '}' :: rest.written)
  | choice keys default rest =>
    '$' :: '{' :: (Text.joined ',' keys ++ ':' :: default.written ++ '}' :: rest.written)

/-- The text that a template means. -/
def value (scope : Scope) : Pieces → List Char
  | nil => []
  | literal c rest => c :: rest.value scope
  | dollar rest => '$' :: rest.value scope
  | reference keys rest => ((scope.found keys).getD "").toList ++ rest.value scope
  | choice keys default rest =>
    ((scope.found keys).elim (default.value scope) String.toList) ++ rest.value scope

/-- A key without the characters that have a meaning inside a reference. -/
def isKey (key : List Char) : Bool :=
  key.all fun c => !(['$', '{', '}', ':', ','].contains c)

/-- Whether the first piece is an opening brace. -/
def opens : Pieces → Bool
  | literal c _ => c == '{'
  | _ => false

/-- Whether the pieces can be written down.  Inside a default, no closing brace may
stand for itself, and no opening brace behind a dollar sign. -/
def isProper (inside : Bool) : Pieces → Bool
  | nil => true
  | literal c rest => c != '$' && !(inside && c == '}') && rest.isProper inside
  | dollar rest => !(inside && rest.opens) && rest.isProper inside
  | reference keys rest => keys.all isKey && rest.isProper inside
  | choice keys default rest =>
    keys.all isKey && default.isProper true && rest.isProper inside

end Pieces

/-! ## Keys -/

theorem Scope.value?_eq_lookup (scope : Scope) (key : List Char) :
    scope.value? key = scope.lookup key := by
  by_cases hprocess : "env.".toList <+: key
  · obtain ⟨title, rfl⟩ := hprocess
    rfl
  · have hkey : ∀ title, key = 'e' :: 'n' :: 'v' :: '.' :: title → False := by
      rintro title rfl
      exact hprocess ⟨title, rfl⟩
    rw [Scope.value?.eq_2 scope key hkey, Scope.lookup, if_neg (by simpa using hprocess)]
    cases scope.properties.get? (String.ofList key) with
    | none => rfl
    | some value => cases value <;> rfl

theorem Scope.firstValue?_eq_found (scope : Scope) (keys : List (List Char)) :
    scope.firstValue? keys = scope.found keys := by
  induction keys with
  | nil => rfl
  | cons key rest ih =>
      rw [Scope.firstValue?, Scope.found] at ih ⊢
      rw [List.findSome?_cons, ih, List.map_cons]
      by_cases hblank : (Text.trim key).isEmpty
      · simp [hblank]
      · simp [hblank, Scope.value?_eq_lookup]
        rfl

/-- The keys of a written reference are found again.  A reference without keys reads
as one with a blank key, which makes no difference. -/
theorem Scope.firstValue?_pieces_joined (scope : Scope) {keys : List (List Char)}
    (hkeys : ∀ key ∈ keys, ',' ∉ key) :
    scope.firstValue? (Text.pieces ',' (Text.joined ',' keys)) = scope.found keys := by
  by_cases hnil : keys = []
  · rw [hnil]
    rfl
  · rw [Text.pieces_joined hnil hkeys, Scope.firstValue?_eq_found]

/-! ## The end of a reference -/

/-- The search for the end of a reference takes `cs` as a part of its body, when
`rest` follows. -/
def PassesOver (depth : Nat) (cs rest : List Char) : Prop :=
  body? depth (cs ++ rest) =
    (body? depth rest).map fun found => (cs ++ found.1, found.2)

variable {depth : Nat} {cs ds rest : List Char}

theorem passesOver_nil : PassesOver depth [] rest := by
  simp [PassesOver]

theorem PassesOver.append (hfirst : PassesOver depth cs (ds ++ rest))
    (hsecond : PassesOver depth ds rest) : PassesOver depth (cs ++ ds) rest := by
  rw [PassesOver, List.append_assoc, hfirst, hsecond]
  simp [Function.comp_def]

theorem passesOver_singleton {c : Char} (hclose : c ≠ '}')
    (hopen : c = '$' → rest.head? ≠ some '{') : PassesOver depth [c] rest := by
  have hplain : ∀ left, c = '$' → rest = '{' :: left → False := by
    rintro left hc rfl
    exact hopen hc rfl
  rw [PassesOver, List.singleton_append]
  cases depth with
  | zero =>
      rw [body?.eq_3 _ _ hplain, if_neg hclose]
      rfl
  | succ outer =>
      rw [body?.eq_4 _ _ _ hplain, if_neg hclose]
      rfl

theorem passesOver_of_forall_mem
    (hcs : ∀ c ∈ cs, c ≠ '$' ∧ c ≠ '}') : PassesOver depth cs rest := by
  induction cs with
  | nil => exact passesOver_nil
  | cons c cs ih =>
      have hc := hcs c (by simp)
      have hfirst : PassesOver depth [c] (cs ++ rest) :=
        passesOver_singleton hc.2 fun hdollar => absurd hdollar hc.1
      exact hfirst.append (ih fun d hd => hcs d (by simp [hd]))

theorem body?_close : body? 0 ('}' :: rest) = some ([], rest) := by
  rw [body?.eq_3 _ _ (by simp), if_pos rfl]

/-- A reference is passed over when its inner text is, one level deeper. -/
theorem passesOver_reference (hinner : PassesOver (depth + 1) cs ('}' :: rest)) :
    PassesOver depth ('$' :: '{' :: cs ++ ['}']) rest := by
  have hclose : body? (depth + 1) ('}' :: rest) =
      (body? depth rest).map fun found => ('}' :: found.1, found.2) := by
    rw [body?.eq_4 _ _ _ (by simp), if_pos rfl]
  rw [PassesOver]
  change body? depth ('$' :: '{' :: (cs ++ ['}'] ++ rest)) = _
  rw [body?, List.append_assoc, List.singleton_append, hinner, hclose]
  simp [Function.comp_def]

namespace Pieces

theorem not_mem_of_isKey {key : List Char} (hkey : isKey key = true) {c : Char}
    (hc : c ∈ ['$', '{', '}', ':', ',']) : c ∉ key := by
  intro hmem
  have := List.all_eq_true.mp hkey c hmem
  simp_all

theorem not_mem_joined_of_isKey {keys : List (List Char)}
    (hkeys : keys.all isKey = true) {c : Char} (hc : c ∈ ['$', '{', '}', ':', ','])
    (hcomma : c ≠ ',') : c ∉ Text.joined ',' keys := by
  rw [Text.mem_joined_iff]
  rintro (⟨key, hkey, hmem⟩ | ⟨hsep, -⟩)
  · exact not_mem_of_isKey (List.all_eq_true.mp hkeys key hkey) hc hmem
  · exact hcomma hsep

theorem not_mem_comma_of_isKey {keys : List (List Char)} (hkeys : keys.all isKey = true) :
    ∀ key ∈ keys, ',' ∉ key :=
  fun key hkey => not_mem_of_isKey (List.all_eq_true.mp hkeys key hkey) (by decide)

theorem passesOver_keys {keys : List (List Char)} (hkeys : keys.all isKey = true) :
    PassesOver depth (Text.joined ',' keys) rest := by
  apply passesOver_of_forall_mem
  intro c hc
  constructor
  · rintro rfl
    exact not_mem_joined_of_isKey hkeys (by decide) (by decide) hc
  · rintro rfl
    exact not_mem_joined_of_isKey hkeys (by decide) (by decide) hc

theorem passesOver_choice {keys : List (List Char)} (hkeys : keys.all isKey = true)
    (hcs : PassesOver depth cs rest) :
    PassesOver depth (Text.joined ',' keys ++ ':' :: cs) rest := by
  have hcolon : PassesOver depth [':'] (cs ++ rest) :=
    passesOver_singleton (by decide) fun hdollar => absurd hdollar (by decide)
  exact (passesOver_keys hkeys).append (hcolon.append hcs)

/-- Behind a dollar sign inside a default, no reference starts by accident. -/
theorem head?_written_ne {pieces : Pieces} (hopens : pieces.opens = false) :
    (pieces.written ++ '}' :: rest).head? ≠ some '{' := by
  cases pieces <;> simp_all [written, opens]

/-- A written default is passed over as a whole, at any depth. -/
theorem passesOver_written {pieces : Pieces} (hproper : pieces.isProper true = true)
    (depth : Nat) (rest : List Char) : PassesOver depth pieces.written ('}' :: rest) := by
  induction pieces generalizing depth rest with
  | nil => exact passesOver_nil
  | literal c pieces ih =>
      simp only [isProper, Bool.and_eq_true, bne_iff_ne, Bool.true_and, Bool.not_eq_true',
        beq_eq_false_iff_ne] at hproper
      obtain ⟨⟨hdollar, hclose⟩, hpieces⟩ := hproper
      have hfirst : PassesOver depth [c] (pieces.written ++ '}' :: rest) :=
        passesOver_singleton hclose fun hc => absurd hc hdollar
      exact hfirst.append (ih hpieces depth rest)
  | dollar pieces ih =>
      simp only [isProper, Bool.and_eq_true, Bool.true_and, Bool.not_eq_true'] at hproper
      obtain ⟨hopens, hpieces⟩ := hproper
      have hsecond : PassesOver depth ['$'] (pieces.written ++ '}' :: rest) :=
        passesOver_singleton (by decide) fun _ => head?_written_ne hopens
      have hfirst : PassesOver depth ['$'] ('$' :: (pieces.written ++ '}' :: rest)) :=
        passesOver_singleton (by decide) fun _ => by simp
      exact hfirst.append (hsecond.append (ih hpieces depth rest))
  | reference keys pieces ih =>
      simp only [isProper, Bool.and_eq_true] at hproper
      obtain ⟨hkeys, hpieces⟩ := hproper
      have hbody : PassesOver (depth + 1) (Text.joined ',' keys)
          ('}' :: (pieces.written ++ '}' :: rest)) :=
        passesOver_keys hkeys
      have hreference := passesOver_reference hbody
      have happend := hreference.append (ih hpieces depth rest)
      simpa [written] using happend
  | choice keys default pieces ihdefault ih =>
      simp only [isProper, Bool.and_eq_true] at hproper
      obtain ⟨⟨hkeys, hdefault⟩, hpieces⟩ := hproper
      have hbody : PassesOver (depth + 1) (Text.joined ',' keys ++ ':' :: default.written)
          ('}' :: (pieces.written ++ '}' :: rest)) :=
        passesOver_choice hkeys (ihdefault hdefault _ _)
      have hreference := passesOver_reference hbody
      have happend := hreference.append (ih hpieces depth rest)
      simpa [written] using happend

end Pieces

/-! ## The expansion of written pieces -/

variable {scope : Scope} {body after keys default : List Char}

theorem meaning_literal {c : Char} (hc : c ≠ '$') :
    meaning scope (c :: rest) = c :: meaning scope rest := by
  rw [meaning] <;> simp [hc]

theorem meaning_of_not_mem (scope : Scope) {cs : List Char} (hcs : '$' ∉ cs) :
    meaning scope cs = cs := by
  induction cs with
  | nil => rw [meaning]
  | cons c rest ih =>
      rw [List.mem_cons, not_or] at hcs
      rw [meaning_literal (Ne.symm hcs.1), ih hcs.2]

theorem meaning_reference (hbody : body? 0 rest = some (body, after))
    (hcut : Text.cutAt ':' body = (keys, none)) :
    meaning scope ('$' :: '{' :: rest) =
      ((scope.firstValue? (Text.pieces ',' keys)).getD "").toList ++
        meaning scope after := by
  rw [meaning]
  split
  · simp_all
  · split <;> simp_all

theorem meaning_choice (hbody : body? 0 rest = some (body, after))
    (hcut : Text.cutAt ':' body = (keys, some default)) :
    meaning scope ('$' :: '{' :: rest) =
      (scope.firstValue? (Text.pieces ',' keys)).elim (meaning scope default)
          String.toList ++
        meaning scope after := by
  rw [meaning]
  split
  · simp_all
  · split
    · simp_all
    · cases hvalue : scope.firstValue? (Text.pieces ',' keys) <;> simp_all

namespace Pieces

theorem meaning_written (scope : Scope) {pieces : Pieces} {inside : Bool}
    (hproper : pieces.isProper inside = true) :
    meaning scope pieces.written = pieces.value scope := by
  induction pieces generalizing inside with
  | nil => rw [written, meaning, value]
  | literal c pieces ih =>
      simp only [isProper, Bool.and_eq_true, bne_iff_ne] at hproper
      obtain ⟨⟨hdollar, -⟩, hpieces⟩ := hproper
      rw [written, meaning_literal hdollar, ih hpieces, value]
  | dollar pieces ih =>
      simp only [isProper, Bool.and_eq_true] at hproper
      rw [written, meaning, ih hproper.2, value]
  | reference keys pieces ih =>
      simp only [isProper, Bool.and_eq_true] at hproper
      obtain ⟨hkeys, hpieces⟩ := hproper
      have hbody : body? 0 (Text.joined ',' keys ++ '}' :: pieces.written) =
          some (Text.joined ',' keys, pieces.written) := by
        rw [passesOver_keys hkeys, body?_close]
        simp
      have hcut : Text.cutAt ':' (Text.joined ',' keys) = (Text.joined ',' keys, none) :=
        Text.cutAt_of_not_mem (not_mem_joined_of_isKey hkeys (by decide) (by decide))
      rw [written, meaning_reference hbody hcut, ih hpieces, value,
        scope.firstValue?_pieces_joined (not_mem_comma_of_isKey hkeys)]
  | choice keys default pieces ihdefault ih =>
      simp only [isProper, Bool.and_eq_true] at hproper
      obtain ⟨⟨hkeys, hdefault⟩, hpieces⟩ := hproper
      have hbody : body? 0
          (Text.joined ',' keys ++ ':' :: default.written ++ '}' :: pieces.written) =
          some (Text.joined ',' keys ++ ':' :: default.written, pieces.written) := by
        rw [passesOver_choice hkeys (passesOver_written hdefault 0 _), body?_close]
        simp
      have hcut : Text.cutAt ':' (Text.joined ',' keys ++ ':' :: default.written) =
          (Text.joined ',' keys, some default.written) :=
        Text.cutAt_append (not_mem_joined_of_isKey hkeys (by decide) (by decide)) _
      rw [written, meaning_choice hbody hcut, ih hpieces, ihdefault hdefault, value,
        scope.firstValue?_pieces_joined (not_mem_comma_of_isKey hkeys)]

/-- The expansion of a written template is what the template means: characters
stand for themselves, a dollar sign written twice stands for one, and a reference for
the value of the first of its keys that has one, as it is, or else for the meaning of
its default, if it has one. -/
theorem expand_written (scope : Scope) {pieces : Pieces}
    (hproper : pieces.isProper false = true) :
    expand scope (String.ofList pieces.written) = String.ofList (pieces.value scope) := by
  rw [expand, String.toList_ofList, meaning_written scope hproper]

/-- `$${a, b:<${env.C:$$}>}{${d}`: a reference within the default of another one. -/
def nested : Pieces :=
  .dollar (.choice ["a".toList, " b".toList]
    (.literal '<' (.choice ["env.C".toList] (.dollar .nil) (.literal '>' .nil)))
    (.literal '{' (.reference ["d".toList] .nil)))

theorem expand_nested :
    nested.isProper false = true ∧
      expand
          ⟨⟨[("b", .null), ("env.C", .text "c"), ("d", .text "$\x7bb\x7d")]⟩, ⟨[("a", "e")]⟩⟩
          (String.ofList nested.written) = "$<$>\x7b$\x7bb\x7d" := by
  have hproper : nested.isProper false = true := by decide
  refine ⟨hproper, ?_⟩
  rw [expand_written _ hproper]
  decide

end Pieces

end NameRouting.Template
