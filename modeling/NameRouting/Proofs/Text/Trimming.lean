import NameRouting.Text.Blank
import NameRouting.Proofs.Text.Separators
import Mathlib.Data.List.DropRight

/-!
# Trimming

Trimming leaves the text between the blanks on both sides, whatever these blanks are.
The pieces of a text are trimmed to the same texts whether or not the whole text was
trimmed first.
-/

namespace NameRouting.Text

/-! ## Blanks on both sides -/

theorem trimLeft_append {before : List Char} (hbefore : ∀ c ∈ before, isBlank c = true)
    (cs : List Char) :
    trimLeft (before ++ cs) = trimLeft cs :=
  List.dropWhile_append_of_pos hbefore

theorem trimRight_append {after : List Char} (hafter : ∀ c ∈ after, isBlank c = true)
    (cs : List Char) :
    trimRight (cs ++ after) = trimRight cs := by
  have hreverse : ∀ c ∈ after.reverse, isBlank c = true := fun c hc =>
    hafter c (List.mem_reverse.mp hc)
  rw [trimRight, List.reverse_append, List.dropWhile_append_of_pos hreverse, trimRight]

theorem exists_eq_append_trim (cs : List Char) :
    ∃ before after, (∀ c ∈ before, isBlank c = true) ∧ (∀ c ∈ after, isBlank c = true) ∧
      cs = before ++ (trim cs ++ after) := by
  refine ⟨cs.takeWhile isBlank, (trimLeft cs).rtakeWhile isBlank,
    fun c hc => List.mem_takeWhile_imp hc, fun c hc => List.mem_rtakeWhile_imp hc, ?_⟩
  have hright : trim cs ++ (trimLeft cs).rtakeWhile isBlank = trimLeft cs :=
    List.rdropWhile_append_rtakeWhile
  rw [hright]
  exact List.takeWhile_append_dropWhile.symm

/-- Blanks in front make no difference. -/
theorem trim_append_left {before : List Char} (hbefore : ∀ c ∈ before, isBlank c = true)
    (cs : List Char) :
    trim (before ++ cs) = trim cs := by
  rw [trim, trimLeft_append hbefore]
  rfl

/-- Blanks at the end make no difference. -/
theorem trim_append_right {after : List Char} (hafter : ∀ c ∈ after, isBlank c = true)
    (cs : List Char) :
    trim (cs ++ after) = trim cs := by
  by_cases hcs : ∀ c ∈ cs, isBlank c = true
  · have hall : ∀ c ∈ cs ++ after, isBlank c = true := fun c hc =>
      (List.mem_append.mp hc).elim (hcs c) (hafter c)
    rw [trim_of_all_isBlank hall, trim_of_all_isBlank hcs]
  · have hne : ¬ (cs.dropWhile isBlank).isEmpty = true := by
      rwa [List.isEmpty_iff, List.dropWhile_eq_nil_iff]
    rw [trim, trimLeft, List.dropWhile_append, if_neg hne, trimRight_append hafter]
    rfl

theorem trim_eq_nil_iff {cs : List Char} :
    trim cs = [] ↔ ∀ c ∈ cs, isBlank c = true := by
  constructor
  · intro htrim
    obtain ⟨before, after, hbefore, hafter, hcs⟩ := exists_eq_append_trim cs
    rw [htrim, List.nil_append] at hcs
    rw [hcs]
    exact fun c hc => (List.mem_append.mp hc).elim (hbefore c) (hafter c)
  · exact trim_of_all_isBlank

/-! ## Pieces of a trimmed text -/

theorem pieces_append_left {sep : Char} {before : List Char} (hbefore : sep ∉ before)
    (cs : List Char) :
    pieces sep (before ++ cs) = (pieces sep cs).modifyHead (before ++ ·) := by
  obtain ⟨first, others, hpieces⟩ := List.exists_cons_of_ne_nil (pieces_ne_nil sep cs)
  rw [hpieces, List.modifyHead_cons]
  induction before with
  | nil => exact hpieces
  | cons c before ih =>
      rw [List.mem_cons, not_or] at hbefore
      rw [List.cons_append, pieces, if_neg (Ne.symm hbefore.1), ih hbefore.2]
      rfl

theorem pieces_append_right {sep : Char} {after : List Char} (hafter : sep ∉ after)
    (cs : List Char) :
    ∃ front last, pieces sep cs = front ++ [last] ∧
      pieces sep (cs ++ after) = front ++ [last ++ after] := by
  induction cs with
  | nil =>
      have hpieces : pieces sep (joined sep [after]) = [after] :=
        pieces_joined (by simp) (by simpa using hafter)
      exact ⟨[], [], rfl, hpieces⟩
  | cons c rest ih =>
      obtain ⟨front, last, hrest, hboth⟩ := ih
      rw [List.cons_append, pieces, pieces, hrest, hboth]
      by_cases hsep : c = sep
      · rw [if_pos hsep, if_pos hsep]
        exact ⟨[] :: front, last, rfl, rfl⟩
      · rw [if_neg hsep, if_neg hsep]
        cases front with
        | nil => exact ⟨[], c :: last, rfl, rfl⟩
        | cons first front => exact ⟨(c :: first) :: front, last, rfl, rfl⟩

/-- Trimming a text does not change what its pieces are trimmed to. -/
theorem map_trim_pieces_trim {sep : Char} (hsep : isBlank sep = false) (cs : List Char) :
    (pieces sep (trim cs)).map trim = (pieces sep cs).map trim := by
  obtain ⟨before, after, hbefore, hafter, hcs⟩ := exists_eq_append_trim cs
  have hfree {blanks : List Char} (hblanks : ∀ c ∈ blanks, isBlank c = true) :
      sep ∉ blanks := by
    intro hmem
    rw [hblanks sep hmem] at hsep
    cases hsep
  have hleft : (pieces sep cs).map trim = (pieces sep (trim cs ++ after)).map trim := by
    conv_lhs => rw [hcs, pieces_append_left (hfree hbefore)]
    obtain ⟨first, others, hpieces⟩ :=
      List.exists_cons_of_ne_nil (pieces_ne_nil sep (trim cs ++ after))
    rw [hpieces, List.modifyHead_cons, List.map_cons, List.map_cons,
      trim_append_left hbefore]
  have hright : (pieces sep (trim cs ++ after)).map trim = (pieces sep (trim cs)).map trim := by
    obtain ⟨front, last, hpieces, hboth⟩ := pieces_append_right (hfree hafter) (trim cs)
    simp [hpieces, hboth, trim_append_right hafter]
  rw [hleft, hright]

end NameRouting.Text
