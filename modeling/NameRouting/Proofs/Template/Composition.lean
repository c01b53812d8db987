import NameRouting.Proofs.Template.Escaping

/-!
# Templates put together

What stands in front of a text is expanded as if nothing followed, provided that it does
not break off behind a dollar sign or inside a reference.  The search for the brace that
closes a reference can go as far as the end of the text, but when it finds the brace in
front, nothing behind the brace has any part in it.  Every text consists of a part of
this kind and a rest that breaks off, and the rest stands for itself.
-/

namespace NameRouting.Template

/-! ## Closed references -/

/-- The body of a closed reference: every brace that closes something in it closes a
reference that is opened in it. -/
inductive Balanced : List Char → Prop
  | nil : Balanced []
  | plain {c : Char} {rest : List Char} (hclose : c ≠ '}')
      (hopen : c = '$' → rest.head? ≠ some '{') (hrest : Balanced rest) : Balanced (c :: rest)
  | reference {inner rest : List Char} (hinner : Balanced inner) (hrest : Balanced rest) :
      Balanced ('$' :: '{' :: (inner ++ '}' :: rest))

/-- The search passes over a balanced body, whatever stands behind the next brace. -/
theorem passesOver_of_balanced {body : List Char} (hbody : Balanced body) (depth : Nat)
    (after : List Char) : PassesOver depth body ('}' :: after) := by
  induction hbody generalizing depth after with
  | nil => exact passesOver_nil
  | @plain c rest hclose hopen _ ih =>
      have hfirst : PassesOver depth [c] (rest ++ '}' :: after) := by
        apply passesOver_singleton hclose
        intro hc
        cases rest with
        | nil => simp
        | cons d rest => exact hopen hc
      exact hfirst.append (ih depth after)
  | @reference inner rest _ _ ihinner ihrest =>
      have hinner : PassesOver (depth + 1) inner ('}' :: (rest ++ '}' :: after)) :=
        ihinner (depth + 1) (rest ++ '}' :: after)
      have hboth := (passesOver_reference hinner).append (ihrest depth after)
      simpa using hboth

theorem body?_of_balanced {body : List Char} (hbody : Balanced body) (after : List Char) :
    body? 0 (body ++ '}' :: after) = some (body, after) := by
  rw [passesOver_of_balanced hbody 0 after, body?_close]
  simp

/-- Wherever the search ends, a balanced body stands in front of the first brace that closes
nothing in it. -/
theorem exists_balanced_of_body? {depth : Nat} {cs : List Char} (hfound : body? depth cs ≠ none) :
    ∃ inner rest, Balanced inner ∧ cs = inner ++ '}' :: rest := by
  induction hlength : cs.length using Nat.strongRecOn generalizing depth cs with
  | ind n ih =>
    subst hlength
    rcases cs with _ | ⟨c, rest⟩
    · exact absurd rfl hfound
    by_cases hopening : c = '$' ∧ rest.head? = some '{'
    · -- A reference is opened, and the search goes on behind the brace that closes it.
      obtain ⟨rfl, hhead⟩ := hopening
      obtain ⟨rest, rfl⟩ := List.head?_eq_some_iff.mp hhead
      rw [body?, ne_eq, Option.map_eq_none_iff] at hfound
      obtain ⟨inner, left, hinner, rfl⟩ := ih rest.length (by grind) hfound rfl
      have hclose : body? (depth + 1) ('}' :: left) =
          (body? depth left).map fun found => ('}' :: found.1, found.2) := by
        rw [body?.eq_4 _ _ _ (by simp), if_pos rfl]
      rw [passesOver_of_balanced hinner, hclose, Option.map_eq_none_iff,
        Option.map_eq_none_iff] at hfound
      obtain ⟨outer, left, houter, rfl⟩ := ih left.length (by grind) hfound rfl
      exact ⟨_, left, .reference hinner houter, by simp⟩
    · by_cases hclose : c = '}'
      · exact ⟨[], rest, .nil, by rw [hclose, List.nil_append]⟩
      · have hopen : c = '$' → rest.head? ≠ some '{' := fun hc hhead => hopening ⟨hc, hhead⟩
        have hpasses : PassesOver depth [c] rest := passesOver_singleton hclose hopen
        rw [PassesOver, List.singleton_append] at hpasses
        rw [hpasses, ne_eq, Option.map_eq_none_iff] at hfound
        obtain ⟨inner, left, hinner, rfl⟩ := ih rest.length (by simp) hfound rfl
        refine ⟨c :: inner, left, .plain hclose ?_ hinner, rfl⟩
        intro hc hhead
        apply hopen hc
        rw [List.head?_append, hhead]
        rfl

/-- A reference is closed by the first brace behind a balanced body. -/
theorem body?_eq_some_iff {cs body after : List Char} :
    body? 0 cs = some (body, after) ↔ Balanced body ∧ cs = body ++ '}' :: after := by
  constructor
  · intro hfound
    have hclosed : body? 0 cs ≠ none := by
      rw [hfound]
      exact Option.some_ne_none _
    obtain ⟨inner, rest, hinner, rfl⟩ := exists_balanced_of_body? hclosed
    rw [body?_of_balanced hinner] at hfound
    cases hfound
    exact ⟨hinner, rfl⟩
  · rintro ⟨hbody, rfl⟩
    exact body?_of_balanced hbody after

/-! ## Complete texts and the rest -/

/-- A text that does not break off: a scan from its start to its end meets no dollar sign
that stands last, and no reference that is not closed. -/
inductive IsComplete : List Char → Prop
  | nil : IsComplete []
  | literal {c : Char} {rest : List Char} (hc : c ≠ '$') (hrest : IsComplete rest) :
      IsComplete (c :: rest)
  | escaped {rest : List Char} (hrest : IsComplete rest) : IsComplete ('$' :: '$' :: rest)
  | dollar {c : Char} {rest : List Char} (hdollar : c ≠ '$') (hopen : c ≠ '{')
      (hrest : IsComplete rest) : IsComplete ('$' :: c :: rest)
  | reference {body rest : List Char} (hbody : Balanced body) (hrest : IsComplete rest) :
      IsComplete ('$' :: '{' :: (body ++ '}' :: rest))

/-- A text that starts with a reference that nothing closes. -/
def IsUnclosed (cs : List Char) : Prop :=
  ∃ inner, cs = '$' :: '{' :: inner ∧
    ∀ body after, Balanced body → inner ≠ body ++ '}' :: after

/-- What can be left of a text when the scan comes to a place where it breaks off. -/
def BreaksOff (cs : List Char) : Prop :=
  cs = [] ∨ cs = ['$'] ∨ IsUnclosed cs

theorem body?_eq_none_iff {inner : List Char} :
    body? 0 inner = none ↔ ∀ body after, Balanced body → inner ≠ body ++ '}' :: after := by
  constructor
  · rintro hnone body after hbody rfl
    rw [body?_of_balanced hbody] at hnone
    cases hnone
  · intro hopen
    by_contra hfound
    obtain ⟨body, after, hbody, rfl⟩ := exists_balanced_of_body? hfound
    exact hopen body after hbody rfl

/-- Every text is complete up to the place where it breaks off. -/
theorem exists_isComplete_append (cs : List Char) :
    ∃ front rest, cs = front ++ rest ∧ IsComplete front ∧ BreaksOff rest := by
  induction hlength : cs.length using Nat.strongRecOn generalizing cs with
  | ind n ih =>
    subst hlength
    rcases cs with _ | ⟨c, cs⟩
    · exact ⟨[], [], rfl, .nil, .inl rfl⟩
    by_cases hc : c = '$'
    case neg =>
      obtain ⟨front, rest, rfl, hfront, hrest⟩ := ih cs.length (by simp) cs rfl
      exact ⟨c :: front, rest, rfl, .literal hc hfront, hrest⟩
    subst hc
    rcases cs with _ | ⟨d, cs⟩
    · exact ⟨[], ['$'], rfl, .nil, .inr (.inl rfl)⟩
    by_cases hopen : d = '{'
    · subst hopen
      cases hbody : body? 0 cs with
      | none => exact ⟨[], _, rfl, .nil, .inr (.inr ⟨cs, rfl, body?_eq_none_iff.mp hbody⟩)⟩
      | some found =>
          obtain ⟨hbalanced, rfl⟩ := body?_eq_some_iff.mp hbody
          obtain ⟨front, rest, hsplit, hfront, hrest⟩ :=
            ih found.2.length (by grind) found.2 rfl
          exact ⟨_, rest, by simp [hsplit], .reference hbalanced hfront, hrest⟩
    · obtain ⟨front, rest, rfl, hfront, hrest⟩ := ih cs.length (by grind) cs rfl
      by_cases hdollar : d = '$'
      · subst hdollar
        exact ⟨'$' :: '$' :: front, rest, rfl, .escaped hfront, hrest⟩
      · exact ⟨'$' :: d :: front, rest, rfl, .dollar hdollar hopen hfront, hrest⟩

/-! ## Expansion -/

variable {scope : Scope}

theorem meaning_dollar {c : Char} {rest : List Char} (hdollar : c ≠ '$') (hopen : c ≠ '{') :
    meaning scope ('$' :: c :: rest) = '$' :: meaning scope (c :: rest) := by
  rw [meaning] <;> simp [hdollar, hopen]

/-- What a closed reference stands for does not depend on what follows it. -/
theorem meaning_closed {body : List Char} (hbody : Balanced body) (rest : List Char) :
    meaning scope ('$' :: '{' :: (body ++ '}' :: rest)) =
      meaning scope ('$' :: '{' :: (body ++ ['}'])) ++ meaning scope rest := by
  have hnil : meaning scope [] = [] := by rw [meaning]
  have hfound := body?_of_balanced hbody
  rcases hcut : Text.cutAt ':' body with ⟨keys, _ | default⟩
  · rw [meaning_reference (hfound rest) hcut, meaning_reference (hfound []) hcut, hnil,
      List.append_nil]
  · rw [meaning_choice (hfound rest) hcut, meaning_choice (hfound []) hcut, hnil,
      List.append_nil]

theorem meaning_append {front : List Char} (hfront : IsComplete front) (rest : List Char) :
    meaning scope (front ++ rest) = meaning scope front ++ meaning scope rest := by
  induction hfront with
  | nil => rw [List.nil_append, meaning, List.nil_append]
  | literal hc _ ih =>
      rw [List.cons_append, meaning_literal hc, meaning_literal hc, ih, List.cons_append]
  | escaped _ ih => rw [List.cons_append, List.cons_append, meaning, meaning, ih, List.cons_append]
  | dollar hdollar hopen _ ih =>
      rw [List.cons_append, List.cons_append, meaning_dollar hdollar hopen,
        meaning_dollar hdollar hopen, meaning_literal hdollar, meaning_literal hdollar, ih]
      rfl
  | @reference body more hbody _ ih =>
      have hassoc : '$' :: '{' :: (body ++ '}' :: more) ++ rest =
          '$' :: '{' :: (body ++ '}' :: (more ++ rest)) := by
        simp
      rw [hassoc, meaning_closed hbody, meaning_closed hbody more, ih, List.append_assoc]

theorem meaning_of_isUnclosed {cs : List Char} (hcs : IsUnclosed cs) : meaning scope cs = cs := by
  obtain ⟨inner, rfl, hopen⟩ := hcs
  exact meaning_of_body?_eq_none scope (body?_eq_none_iff.mpr hopen)

theorem meaning_of_breaksOff {cs : List Char} (hcs : BreaksOff cs) : meaning scope cs = cs := by
  rcases hcs with rfl | rfl | hcs
  · rw [meaning]
  · rw [meaning, meaning] <;> simp
  · exact meaning_of_isUnclosed hcs

/-- Expansion goes through a text from the front: the expansion of a complete text and of
any text behind it are put together, and a reference that is not closed is copied
through.  So every text is expanded up to where it breaks off, and kept from there. -/
theorem expand_append (scope : Scope) {front : String} (hfront : IsComplete front.toList)
    (rest : String) :
    expand scope (front ++ rest) = expand scope front ++ expand scope rest ∧
      (IsUnclosed rest.toList → expand scope (front ++ rest) = expand scope front ++ rest) ∧
      ∀ text : String, ∃ before after : String, text = before ++ after ∧
        IsComplete before.toList ∧ BreaksOff after.toList ∧
        expand scope text = expand scope before ++ after := by
  have happend {front : String} (hfront : IsComplete front.toList) (rest : String) :
      expand scope (front ++ rest) = expand scope front ++ expand scope rest := by
    rw [expand, String.toList_append, meaning_append hfront, String.ofList_append]
    rfl
  have hkept {rest : String} (hrest : BreaksOff rest.toList) : expand scope rest = rest := by
    rw [expand, meaning_of_breaksOff hrest, String.ofList_toList]
  refine ⟨happend hfront rest, ?_, ?_⟩
  · intro hrest
    rw [happend hfront, hkept (.inr (.inr hrest))]
  · intro text
    obtain ⟨before, after, htext, hbefore, hafter⟩ := exists_isComplete_append text.toList
    obtain rfl : text = String.ofList before ++ String.ofList after := by
      rw [← String.ofList_append, ← htext, String.ofList_toList]
    rw [← String.toList_ofList (l := before)] at hbefore
    rw [← String.toList_ofList (l := after)] at hafter
    exact ⟨_, _, rfl, hbefore, hafter, by rw [happend hbefore, hkept hafter]⟩

/-- A complete text with a reference inside the default of another one, and a reference
behind it that is not closed. -/
theorem openedBehind_kept :
    let scope : Scope := ⟨⟨[("j", .text "v")]⟩, .empty⟩
    let front := "$$$\x7bk:<$\x7bj\x7d>\x7d"
    let rest := "$\x7bj$\x7bj\x7d"
    IsComplete front.toList ∧ IsUnclosed rest.toList ∧ expand scope front = "$<v>" ∧
      expand scope (front ++ rest) = "$<v>$\x7bj$\x7bj\x7d" := by
  intro scope front rest
  have hkey : Balanced ['j'] := .plain (by decide) (by decide) .nil
  have hinner : Balanced "k:<$\x7bj\x7d>".toList :=
    .plain (by decide) (by decide) (.plain (by decide) (by decide) (.plain (by decide) (by decide)
      (.reference hkey (.plain (by decide) (by decide) .nil))))
  have hfront : IsComplete front.toList := by
    have hwritten : front.toList =
        '$' :: '$' :: '$' :: '{' :: ("k:<$\x7bj\x7d>".toList ++ '}' :: []) := by decide
    rw [hwritten]
    exact .escaped (.reference hinner .nil)
  have hrest : IsUnclosed rest.toList :=
    ⟨"j$\x7bj\x7d".toList, by decide, body?_eq_none_iff.mp (by decide +kernel)⟩
  have hexpand : expand scope front = "$<v>" := by decide +kernel
  refine ⟨hfront, hrest, hexpand, ?_⟩
  rw [(expand_append scope hfront rest).2.1 hrest, hexpand]
  rfl

end NameRouting.Template
