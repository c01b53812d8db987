import NameRouting.Name.Scheme
import NameRouting.Proofs.Text.Separators

/-!
# Names without scheme and residual name

A name means the context itself when nothing of it is left after the split.  That
is so for the empty name and for a lone separator of a scheme, and for no other
name.
-/

namespace NameRouting

namespace CompositeName

theorem isEmpty_split_iff (name : CompositeName) :
    name.split.isEmpty = true ↔ name.components = [] ∨ name.components = [":"] := by
  obtain ⟨components⟩ := name
  cases components with
  | nil => simp [CompositeName.split, SplitName.isEmpty, isEmpty]
  | cons first rest =>
      rcases hcut : Text.cutAt ':' first.toList with ⟨scheme, after⟩
      cases after with
      | none =>
          have hfirst : first ≠ ":" := by
            rintro rfl
            exact nomatch hcut
          simp [CompositeName.split, hcut, SplitName.isEmpty, isEmpty, hfirst]
      | some segment =>
          have hfirst : first = ":" ↔ scheme = [] ∧ segment = [] := by
            rw [← String.toList_inj, (Text.cutAt_eq_some_iff.mp hcut).2]
            cases scheme <;> simp
          simp only [CompositeName.split, hcut, SplitName.isEmpty, isEmpty]
          cases rest with
          | nil => cases scheme <;> cases segment <;> simp_all [keepsEmptyFront]
          | cons next others =>
              cases segment <;> cases hnext : next.isEmpty <;>
                simp [keepsEmptyFront, hnext]

end CompositeName

end NameRouting
