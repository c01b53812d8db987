import Mathlib.Data.List.Infix
import NameRouting.Proofs.Template.Meaning

/-!
# Escaped texts

A text in which every dollar sign is written twice expands to the text.  As the default
of a reference it does so only if no dollar sign stands before an opening brace.  The
search for the brace that closes the reference does not know of dollar signs that are
written twice: it takes the second of them for the start of another reference, and then
nothing closes the first one.
-/

namespace NameRouting.Template

/-- The characters of a text with every dollar sign written twice. -/
def doubled (cs : List Char) : List Char :=
  cs.flatMap fun c => if c = '$' then ['$', '$'] else [c]

/-- The text with every dollar sign written twice. -/
def escaped (text : String) : String :=
  String.ofList (doubled text.toList)

/-- The text of a reference to a key with a default. -/
def withDefault (key default : String) : String :=
  String.ofList ('$' :: '{' :: (key.toList ++ ':' :: default.toList ++ ['}']))

/-- Whether a dollar sign stands before an opening brace. -/
def HasOpening (cs : List Char) : Prop :=
  ['$', '{'] <:+: cs

instance : DecidablePred HasOpening := fun cs =>
  inferInstanceAs (Decidable (['$', '{'] <:+: cs))

theorem hasOpening_cons_iff {c : Char} {cs : List Char} :
    HasOpening (c :: cs) ↔ c = '$' ∧ cs.head? = some '{' ∨ HasOpening cs := by
  have hhead : ['{'] <+: cs ↔ cs.head? = some '{' := by
    cases cs with
    | nil => simp
    | cons d rest => simp [List.cons_prefix_cons, eq_comm]
  rw [HasOpening, List.infix_cons_iff, List.cons_prefix_cons, hhead, eq_comm]
  rfl

/-! ## The pieces of an escaped text -/

namespace Pieces

/-- The pieces that write a text literally. -/
def ofText : List Char → Pieces
  | [] => nil
  | c :: rest => if c = '$' then dollar (ofText rest) else literal c (ofText rest)

theorem written_ofText (cs : List Char) : (ofText cs).written = doubled cs := by
  induction cs with
  | nil => rfl
  | cons c rest ih =>
      rw [ofText, doubled, List.flatMap_cons, ← doubled]
      by_cases hc : c = '$'
      · rw [if_pos hc, if_pos hc, written, ih]
        rfl
      · rw [if_neg hc, if_neg hc, written, ih]
        rfl

theorem value_ofText (scope : Scope) (cs : List Char) : (ofText cs).value scope = cs := by
  induction cs with
  | nil => rfl
  | cons c rest ih =>
      rw [ofText]
      by_cases hc : c = '$'
      · rw [if_pos hc, value, ih, hc]
      · rw [if_neg hc, value, ih]

theorem opens_ofText_iff {cs : List Char} :
    (ofText cs).opens = true ↔ cs.head? = some '{' := by
  cases cs with
  | nil => exact ⟨nofun, nofun⟩
  | cons c rest =>
      rw [ofText]
      by_cases hc : c = '$'
      · rw [if_pos hc, hc]
        exact ⟨nofun, nofun⟩
      · rw [if_neg hc, opens]
        simp

theorem isProper_ofText_outside (cs : List Char) : (ofText cs).isProper false = true := by
  induction cs with
  | nil => rfl
  | cons c rest ih =>
      rw [ofText]
      by_cases hc : c = '$'
      · rw [if_pos hc, isProper, ih]
        rfl
      · rw [if_neg hc, isProper, ih]
        simpa using hc

theorem isProper_ofText_inside {cs : List Char} (hclose : '}' ∉ cs) (hopening : ¬ HasOpening cs) :
    (ofText cs).isProper true = true := by
  induction cs with
  | nil => rfl
  | cons c rest ih =>
      rw [hasOpening_cons_iff, not_or, not_and] at hopening
      rw [List.mem_cons, not_or] at hclose
      have hrest := ih hclose.2 hopening.2
      rw [ofText]
      by_cases hc : c = '$'
      · have hopens : (ofText rest).opens = false := by
          rw [Bool.eq_false_iff, ne_eq, opens_ofText_iff]
          exact hopening.1 hc
        rw [if_pos hc, isProper, hrest, hopens]
        rfl
      · have hother : c ≠ '}' := Ne.symm hclose.1
        rw [if_neg hc, isProper, hrest]
        simp [hc, hother]

end Pieces

theorem meaning_doubled (scope : Scope) (cs : List Char) : meaning scope (doubled cs) = cs := by
  rw [← Pieces.written_ofText, Pieces.meaning_written scope (Pieces.isProper_ofText_outside cs),
    Pieces.value_ofText]

/-! ## References that stay open -/

/-- A reference is not closed by fewer braces than references are open. -/
theorem body?_eq_none_of_count_le {depth : Nat} {cs : List Char}
    (hcount : cs.count '}' ≤ depth) : body? depth cs = none := by
  fun_induction body? depth cs with
  | case1 => rfl
  | case2 depth rest ih =>
      have hrest : rest.count '}' ≤ depth + 1 := by
        simp only [List.count_cons] at hcount
        omega
      rw [ih hrest]
      rfl
  | case3 => simp at hcount
  | case4 rest outer _ ih =>
      have hrest : rest.count '}' ≤ outer := by
        simpa using hcount
      rw [ih hrest]
      rfl
  | case5 depth c rest _ hc ih =>
      have hrest : rest.count '}' ≤ depth := by
        simpa [List.count_cons, hc] using hcount
      rw [ih hrest]
      rfl

/-- A reference that is opened inside takes the only closing brace. -/
theorem body?_eq_none_of_hasOpening {cs : List Char} (hclose : '}' ∉ cs)
    (hopening : HasOpening cs) : body? 0 (cs ++ ['}']) = none := by
  induction cs with
  | nil => exact absurd hopening (by simp [HasOpening])
  | cons c rest ih =>
      rw [List.mem_cons, not_or] at hclose
      -- Either a reference is opened here, or the scan passes over one character.
      by_cases hhere : c = '$' ∧ rest.head? = some '{'
      · obtain ⟨rfl, hhead⟩ := hhere
        obtain ⟨inner, rfl⟩ := List.head?_eq_some_iff.mp hhead
        have hinner : (inner ++ ['}']).count '}' ≤ 1 := by
          have hnone : inner.count '}' = 0 :=
            List.count_eq_zero.mpr fun hmem => hclose.2 (List.mem_cons_of_mem _ hmem)
          simp [hnone]
        change (body? 1 (inner ++ ['}'])).map _ = none
        rw [body?_eq_none_of_count_le hinner]
        rfl
      · have hrest : HasOpening rest := (hasOpening_cons_iff.mp hopening).resolve_left hhere
        have hpasses : PassesOver 0 [c] (rest ++ ['}']) := by
          apply passesOver_singleton (Ne.symm hclose.1)
          intro hdollar hhead
          apply hhere
          cases rest with
          | nil => exact absurd hhead (by decide)
          | cons d rest => exact ⟨hdollar, hhead⟩
        rw [PassesOver, ih hclose.2 hrest] at hpasses
        exact hpasses

theorem not_mem_doubled {cs : List Char} {c : Char} (hc : c ∉ cs) : c ∉ doubled cs := by
  intro hmem
  obtain ⟨d, hd, hcd⟩ := List.mem_flatMap.mp hmem
  apply hc
  by_cases hdollar : d = '$'
  · rw [if_pos hdollar, ← hdollar] at hcd
    have hsame : c = d := by simpa using hcd
    rwa [hsame]
  · rw [if_neg hdollar, List.mem_singleton] at hcd
    rwa [hcd]

theorem hasOpening_doubled {cs : List Char} (hopening : HasOpening cs) :
    HasOpening (doubled cs) := by
  obtain ⟨front, back, rfl⟩ := hopening
  refine ⟨doubled front ++ ['$'], doubled back, ?_⟩
  simp [doubled]

theorem length_le_doubled (cs : List Char) : cs.length ≤ (doubled cs).length := by
  induction cs with
  | nil => exact Nat.le_refl _
  | cons c rest ih =>
      have hpiece : 1 ≤ (if c = '$' then ['$', '$'] else [c]).length := by
        split <;> simp
      rw [doubled, List.flatMap_cons, List.length_append, ← doubled, List.length_cons]
      omega

/-! ## Escaped defaults -/

theorem toList_withDefault_escaped (key default : String) :
    (withDefault key (escaped default)).toList =
      '$' :: '{' :: (key.toList ++ ':' :: doubled default.toList ++ ['}']) := by
  rw [withDefault, escaped, String.toList_ofList, String.toList_ofList]

/-- A default is found if no reference is opened inside. -/
theorem meaning_escapedDefault (scope : Scope) {key default : List Char}
    (hkey : Pieces.isKey key = true) (hmissing : scope.found [key] = none)
    (hclose : '}' ∉ default) (hopening : ¬ HasOpening default) :
    meaning scope ('$' :: '{' :: (key ++ ':' :: doubled default ++ ['}'])) = default := by
  have hproper : (Pieces.choice [key] (.ofText default) .nil).isProper false = true := by
    simp [Pieces.isProper, hkey, Pieces.isProper_ofText_inside hclose hopening]
  have hmeaning := Pieces.meaning_written scope hproper
  rw [Pieces.written, Pieces.value, hmissing, Pieces.written_ofText] at hmeaning
  simpa [Text.joined, Pieces.written, Pieces.value, Pieces.value_ofText] using hmeaning

/-- A text with a reference that is never closed stands for itself. -/
theorem meaning_of_body?_eq_none (scope : Scope) {rest : List Char} (hbody : body? 0 rest = none) :
    meaning scope ('$' :: '{' :: rest) = '$' :: '{' :: rest := by
  rw [meaning]
  split <;> simp_all

theorem meaning_openedDefault (scope : Scope) {key default : List Char}
    (hkey : Pieces.isKey key = true) (hclose : '}' ∉ default) (hopening : HasOpening default) :
    meaning scope ('$' :: '{' :: (key ++ ':' :: doubled default ++ ['}'])) =
      '$' :: '{' :: (key ++ ':' :: doubled default ++ ['}']) := by
  apply meaning_of_body?_eq_none
  apply body?_eq_none_of_hasOpening
  · have hkeyClose : '}' ∉ key := Pieces.not_mem_of_isKey hkey (by decide)
    simp [hkeyClose, not_mem_doubled hclose]
  · obtain ⟨front, back, hdoubled⟩ := hasOpening_doubled hopening
    refine ⟨key ++ ':' :: front, back, ?_⟩
    rw [← hdoubled]
    simp

/-- A text without a closing brace is the meaning of its escaped form.  It is the
meaning of a reference with its escaped form as the default, when the key has no value,
exactly if no dollar sign stands before an opening brace; otherwise the reference stands
for itself. -/
theorem expand_escapedDefault_iff (scope : Scope) {key default : String}
    (hkey : Pieces.isKey key.toList = true) (hmissing : scope.found [key.toList] = none)
    (hclose : '}' ∉ default.toList) :
    let reference := withDefault key (escaped default)
    expand scope (escaped default) = default ∧
      (expand scope reference = default ↔ ¬ HasOpening default.toList) ∧
      (HasOpening default.toList → expand scope reference = reference) := by
  intro reference
  have hreference : reference.toList = _ := toList_withDefault_escaped key default
  have hplain : expand scope (escaped default) = default := by
    rw [expand, escaped, String.toList_ofList, meaning_doubled, String.ofList_toList]
  have hkept (hopening : ¬ HasOpening default.toList) : expand scope reference = default := by
    rw [expand, hreference, meaning_escapedDefault scope hkey hmissing hclose hopening,
      String.ofList_toList]
  have hopened (hopening : HasOpening default.toList) : expand scope reference = reference := by
    rw [expand, hreference, meaning_openedDefault scope hkey hclose hopening, ← hreference,
      String.ofList_toList]
  -- The reference that is copied through is longer than its default.
  have hlonger : reference ≠ default := by
    intro hsame
    have hlength := congrArg List.length hreference
    have hdoubled := length_le_doubled default.toList
    simp only [hsame, List.length_cons, List.length_append] at hlength
    omega
  refine ⟨hplain, ⟨?_, hkept⟩, hopened⟩
  intro hexpand hopening
  exact hlonger ((hopened hopening).symm.trans hexpand)

theorem dollarsInDefault_kept :
    let scope : Scope := ⟨⟨[("k", .null)]⟩, ⟨[("k", "v")]⟩⟩
    Pieces.isKey " k".toList = true ∧ scope.found [" k".toList] = none ∧
      '}' ∉ "$-\x7b$".toList ∧
      expand scope (withDefault " k" (escaped "$-\x7b$")) = "$-\x7b$" := by
  intro scope
  have hkey : Pieces.isKey " k".toList = true := by decide
  have hmissing : scope.found [" k".toList] = none := by decide
  have hclose : '}' ∉ "$-\x7b$".toList := by decide
  refine ⟨hkey, hmissing, hclose, ?_⟩
  exact (expand_escapedDefault_iff scope hkey hmissing hclose).2.1.mpr (by decide)

theorem openingInDefault_lost :
    let scope : Scope := ⟨.empty, .empty⟩
    Pieces.isKey "k".toList = true ∧ scope.found ["k".toList] = none ∧
      '}' ∉ "$\x7bx".toList ∧ withDefault "k" (escaped "$\x7bx") = "$\x7bk:$$\x7bx\x7d" ∧
      expand scope "$\x7bk:$$\x7bx\x7d" = "$\x7bk:$$\x7bx\x7d" ∧
      expand scope "$\x7bk:$$\x7bx\x7d" ≠ "$\x7bx" := by
  decide +kernel

end NameRouting.Template
