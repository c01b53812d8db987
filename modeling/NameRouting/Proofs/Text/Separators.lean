import NameRouting.Text.Pieces

/-!
# Separators

Cutting at every separator undoes joining, provided no piece holds the separator.
A cut at the first separator is determined by the text in front of it, which does
not hold the separator either.
-/

namespace NameRouting.Text

/-! ## Pieces -/

theorem pieces_eq_splitOn (sep : Char) (cs : List Char) :
    pieces sep cs = cs.splitOn sep := by
  induction cs with
  | nil => rfl
  | cons c rest ih =>
      have hne := pieces_ne_nil sep rest
      rw [pieces, List.splitOn, List.splitOnP_cons_eq_if_modifyHead, ← List.splitOn, ← ih]
      by_cases hc : c = sep
      · simp [hc]
      · obtain ⟨first, others, hpieces⟩ := List.exists_cons_of_ne_nil hne
        simp [hc, hpieces]

theorem joined_eq_intercalate (sep : Char) (parts : List (List Char)) :
    joined sep parts = [sep].intercalate parts := by
  induction parts with
  | nil => rfl
  | cons part rest ih =>
      cases rest with
      | nil => simp [joined, List.intercalate]
      | cons next others =>
          rw [joined, ih]
          simp [List.intercalate]

/-- Parts without the separator are found again in the joined text. -/
theorem pieces_joined {sep : Char} {parts : List (List Char)}
    (hparts : parts ≠ []) (hfree : ∀ part ∈ parts, sep ∉ part) :
    pieces sep (joined sep parts) = parts := by
  rw [pieces_eq_splitOn, joined_eq_intercalate]
  exact List.splitOn_intercalate sep hfree hparts

theorem not_mem_of_mem_pieces {sep : Char} {cs piece : List Char} (hpiece : piece ∈ pieces sep cs) :
    sep ∉ piece := by
  induction cs generalizing piece with
  | nil =>
      rw [pieces, List.mem_singleton] at hpiece
      rw [hpiece]
      exact List.not_mem_nil
  | cons c rest ih =>
      obtain ⟨first, others, hrest⟩ := List.exists_cons_of_ne_nil (pieces_ne_nil sep rest)
      rw [pieces] at hpiece
      split at hpiece
      case isTrue =>
        rcases List.mem_cons.mp hpiece with rfl | hpiece
        · exact List.not_mem_nil
        · exact ih hpiece
      case isFalse hc =>
        rw [hrest] at hpiece ih
        rcases List.mem_cons.mp hpiece with rfl | hpiece
        · rw [List.mem_cons, not_or]
          exact ⟨Ne.symm hc, ih List.mem_cons_self⟩
        · exact ih (List.mem_cons_of_mem first hpiece)

theorem joined_append {sep : Char} {parts others : List (List Char)} (hparts : parts ≠ [])
    (hothers : others ≠ []) :
    joined sep (parts ++ others) = joined sep parts ++ sep :: joined sep others := by
  obtain ⟨other, rest, rfl⟩ := List.exists_cons_of_ne_nil hothers
  induction parts with
  | nil => exact absurd rfl hparts
  | cons part parts ih =>
      cases parts with
      | nil => rfl
      | cons next parts =>
          rw [List.cons_append, List.cons_append, joined, ← List.cons_append,
            ih (List.cons_ne_nil next parts), joined, List.append_assoc, List.cons_append]

/-- A separator between two texts is between their pieces. -/
theorem pieces_append (sep : Char) (before after : List Char) :
    pieces sep (before ++ sep :: after) = pieces sep before ++ pieces sep after := by
  have hjoined : joined sep (pieces sep before ++ pieces sep after) = _ :=
    joined_append (pieces_ne_nil sep before) (pieces_ne_nil sep after)
  rw [joined_pieces, joined_pieces] at hjoined
  rw [← hjoined]
  apply pieces_joined
  · simp [pieces_ne_nil]
  · rw [List.forall_mem_append]
    exact ⟨fun piece => not_mem_of_mem_pieces, fun piece => not_mem_of_mem_pieces⟩

theorem mem_joined_iff {sep : Char} {parts : List (List Char)} {c : Char} :
    c ∈ joined sep parts ↔
      (∃ part ∈ parts, c ∈ part) ∨ (c = sep ∧ 2 ≤ parts.length) := by
  induction parts with
  | nil => simp [joined]
  | cons part rest ih =>
      cases rest with
      | nil => simp [joined]
      | cons next others =>
          rw [joined, List.mem_append, List.mem_cons, ih]
          simp only [List.mem_cons, exists_eq_or_imp, List.length_cons]
          by_cases hsep : c = sep
          · simp [hsep]
          · simp [hsep]

/-! ## Cuts -/

theorem cutAt_append {sep : Char} {before : List Char} (hbefore : sep ∉ before)
    (after : List Char) :
    cutAt sep (before ++ sep :: after) = (before, some after) := by
  induction before with
  | nil => simp [cutAt]
  | cons c before ih =>
      rw [List.mem_cons, not_or] at hbefore
      rw [List.cons_append, cutAt, if_neg (Ne.symm hbefore.1), ih hbefore.2]

theorem cutAt_of_not_mem {sep : Char} {cs : List Char} (hcs : sep ∉ cs) :
    cutAt sep cs = (cs, none) := by
  induction cs with
  | nil => rfl
  | cons c rest ih =>
      rw [List.mem_cons, not_or] at hcs
      rw [cutAt, if_neg (Ne.symm hcs.1), ih hcs.2]

theorem cutAt_eq_some_iff {sep : Char} {cs before after : List Char} :
    cutAt sep cs = (before, some after) ↔
      sep ∉ before ∧ cs = before ++ sep :: after := by
  constructor
  · intro hcut
    by_cases hmem : sep ∈ cs
    · obtain ⟨front, back, rfl, hfront⟩ := List.eq_append_cons_of_mem hmem
      rw [cutAt_append hfront] at hcut
      cases hcut
      exact ⟨hfront, rfl⟩
    · rw [cutAt_of_not_mem hmem] at hcut
      cases hcut
  · rintro ⟨hbefore, rfl⟩
    exact cutAt_append hbefore after

theorem cutAt_eq_none_iff {sep : Char} {cs before : List Char} :
    cutAt sep cs = (before, none) ↔ before = cs ∧ sep ∉ cs := by
  constructor
  · intro hcut
    by_cases hmem : sep ∈ cs
    · obtain ⟨front, back, rfl, hfront⟩ := List.eq_append_cons_of_mem hmem
      rw [cutAt_append hfront] at hcut
      cases hcut
    · rw [cutAt_of_not_mem hmem] at hcut
      cases hcut
      exact ⟨rfl, hmem⟩
  · rintro ⟨rfl, hcs⟩
    exact cutAt_of_not_mem hcs

/-- A cut gives back the text, and the part in front holds no separator. -/
theorem eq_append_of_cutAt {sep : Char} {cs before : List Char} {after : Option (List Char)}
    (hcut : cutAt sep cs = (before, after)) :
    sep ∉ before ∧ cs = before ++ after.elim [] (sep :: ·) := by
  cases after with
  | none =>
      obtain ⟨rfl, hfree⟩ := cutAt_eq_none_iff.mp hcut
      exact ⟨hfree, (List.append_nil before).symm⟩
  | some after => exact cutAt_eq_some_iff.mp hcut

theorem fst_cutAt_prefix (sep : Char) (cs : List Char) :
    (cutAt sep cs).1 <+: cs := by
  rcases hcut : cutAt sep cs with ⟨before, after⟩
  rw [(eq_append_of_cutAt hcut).2]
  exact List.prefix_append _ _

theorem not_mem_fst_cutAt (sep : Char) (cs : List Char) :
    sep ∉ (cutAt sep cs).1 := by
  rcases hcut : cutAt sep cs with ⟨before, after⟩
  exact (eq_append_of_cutAt hcut).1

/-! ## Cuts at the last separator -/

theorem cutAtLast_append {sep : Char} {after : List Char} (hafter : sep ∉ after)
    (before : List Char) :
    cutAtLast sep (before ++ sep :: after) = (some before, after) := by
  have hreverse :
      (before ++ sep :: after).reverse = after.reverse ++ sep :: before.reverse := by
    simp
  have hcut : cutAt sep (before ++ sep :: after).reverse =
      (after.reverse, some before.reverse) := by
    rw [hreverse]
    exact cutAt_append (by simpa using hafter) _
  rw [cutAtLast, hcut]
  simp

theorem cutAtLast_of_not_mem {sep : Char} {cs : List Char} (hcs : sep ∉ cs) :
    cutAtLast sep cs = (none, cs) := by
  have hcut : cutAt sep cs.reverse = (cs.reverse, none) :=
    cutAt_of_not_mem (by simpa using hcs)
  simp [cutAtLast, hcut]

theorem cutAtLast_cases (sep : Char) (cs : List Char) :
    (sep ∉ cs ∧ cutAtLast sep cs = (none, cs)) ∨
      ∃ before after, cs = before ++ sep :: after ∧ sep ∉ after ∧
        cutAtLast sep cs = (some before, after) := by
  by_cases hmem : sep ∈ cs
  · obtain ⟨after, before, hreverse, hafter⟩ :=
      List.eq_append_cons_of_mem (List.mem_reverse.mpr hmem)
    have hcs : cs = before.reverse ++ sep :: after.reverse := by
      rw [← List.reverse_reverse cs, hreverse]
      simp
    have hfree : sep ∉ after.reverse := by
      rwa [List.mem_reverse]
    refine .inr ⟨before.reverse, after.reverse, hcs, hfree, ?_⟩
    rw [hcs]
    exact cutAtLast_append hfree before.reverse
  · exact .inl ⟨hmem, cutAtLast_of_not_mem hmem⟩

theorem not_mem_cutAtLast (sep : Char) (cs : List Char) :
    sep ∉ (cutAtLast sep cs).2 := by
  rw [cutAtLast]
  rcases hcut : cutAt sep cs.reverse with ⟨after, _ | before⟩
  · obtain ⟨rfl, hcs⟩ := cutAt_eq_none_iff.mp hcut
    simpa using hcs
  · simpa using (cutAt_eq_some_iff.mp hcut).1

theorem cutAtLast_suffix (sep : Char) (cs : List Char) :
    (cutAtLast sep cs).2 <:+ cs := by
  rw [cutAtLast]
  rcases hcut : cutAt sep cs.reverse with ⟨after, _ | before⟩
  · obtain ⟨rfl, -⟩ := cutAt_eq_none_iff.mp hcut
    simp
  · have hreverse := (cutAt_eq_some_iff.mp hcut).2
    rw [← List.reverse_prefix, List.reverse_reverse, hreverse]
    exact List.prefix_append _ _

end NameRouting.Text
