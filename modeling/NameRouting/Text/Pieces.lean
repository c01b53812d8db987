/-!
# Splitting and joining at one character

`pieces` cuts a text at every occurrence of a separator and `joined` puts the pieces together
again; `cutAt` cuts at the first occurrence only.
-/

namespace NameRouting.Text

/-- The texts between the occurrences of `sep`, in order; there is always at least one. -/
def pieces (sep : Char) : List Char → List (List Char)
  | [] => [[]]
  | c :: rest =>
    if c = sep then
      [] :: pieces sep rest
    else
      match pieces sep rest with
      | [] => [[c]]
      | first :: others => (c :: first) :: others

/-- The texts one after the other with `sep` between neighbours. -/
def joined (sep : Char) : List (List Char) → List Char
  | [] => []
  | [piece] => piece
  | piece :: next :: rest => piece ++ sep :: joined sep (next :: rest)

/-- The part before the first `sep`, and the part after it when there is one. -/
def cutAt (sep : Char) : List Char → List Char × Option (List Char)
  | [] => ([], none)
  | c :: rest =>
    if c = sep then
      ([], some rest)
    else
      let (before, after) := cutAt sep rest
      (c :: before, after)

/-- The part before the last `sep` when there is one, and the part after it. -/
def cutAtLast (sep : Char) (cs : List Char) : Option (List Char) × List Char :=
  match cutAt sep cs.reverse with
  | (after, none) => (none, after.reverse)
  | (after, some before) => (some before.reverse, after.reverse)

/-- The pieces of a text as texts. -/
def piecesOf (sep : Char) (s : String) : List String :=
  (pieces sep s.toList).map String.ofList

/-- Cutting into pieces never gives the empty list. -/
theorem pieces_ne_nil (sep : Char) (cs : List Char) : pieces sep cs ≠ [] := by
  cases cs with
  | nil => simp [pieces]
  | cons c rest =>
    rw [pieces]
    split
    · simp
    · split <;> simp

/-- Joining the pieces of a text gives the text. -/
theorem joined_pieces (sep : Char) (cs : List Char) : joined sep (pieces sep cs) = cs := by
  induction cs with
  | nil => rfl
  | cons c rest ih =>
    rw [pieces]
    obtain ⟨first, others, h⟩ := List.exists_cons_of_ne_nil (pieces_ne_nil sep rest)
    rw [h] at ih ⊢
    split
    · rename_i hc
      simp [joined, ih, hc]
    · cases others with
      | nil => simpa [joined] using ih
      | cons next more => simpa [joined] using ih

/-- The part after a cut is shorter than the text. -/
theorem length_lt_of_cutAt_eq_some {sep : Char} {cs before after : List Char}
    (h : cutAt sep cs = (before, some after)) : after.length < cs.length := by
  induction cs generalizing before with
  | nil => simp [cutAt] at h
  | cons c rest ih =>
    rw [cutAt] at h
    split at h
    · simp_all
    · have hcut : cutAt sep rest = ((cutAt sep rest).1, some after) := by
        rw [← (Prod.mk.inj h).2]
      have := ih hcut
      simp only [List.length_cons]
      omega

end NameRouting.Text
