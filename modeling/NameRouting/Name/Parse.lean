import NameRouting.Fault

/-!
# Reading composite names

The written form of a name is a sequence of segments separated by `/`. A segment in quotes may
hold any character, its quote and the backslash being marked by a backslash; in a segment without
quotes a backslash marks the character after it. A separator at the end opens one more, empty
segment, unless all segments before it are empty: then it only closes the last of them.
-/

namespace NameRouting

/-- Why a text is not the written form of a name. -/
inductive NameFault where
  | unterminatedQuote
  | afterClosingQuote
deriving DecidableEq, Inhabited, Repr

namespace NameFault

/-- The wording of a fault in a written name. -/
def reason : NameFault → String
  | unterminatedQuote => "unterminated quote"
  | afterClosingQuote => "characters after closing quote"

end NameFault

namespace CompositeName

/-- The characters of a quoted segment up to the closing quote, and what follows that quote; there
is no result when the quote is never closed. -/
def quotedSegment (quote : Char) : List Char → Option (List Char × List Char)
  | [] => none
  | [c] => if c = quote then some ([], []) else none
  | c :: d :: rest =>
    if c = quote then
      some ([], d :: rest)
    else if c = '\\' ∧ (d = quote ∨ d = '\\') then
      (quotedSegment quote rest).map fun (chars, after) => (d :: chars, after)
    else
      (quotedSegment quote (d :: rest)).map fun (chars, after) => (c :: chars, after)

/-- The characters of a segment without quotes, and what follows it. -/
def plainSegment : List Char → List Char × List Char
  | [] => ([], [])
  | [c] => if c = '/' then ([], [c]) else ([c], [])
  | c :: d :: rest =>
    if c = '/' then
      ([], c :: d :: rest)
    else if c = '\\' then
      (plainSegment rest).map (d :: ·) id
    else
      (plainSegment (d :: rest)).map (c :: ·) id

/-- The first segment of a text, and the rest, which is empty or starts with the separator. -/
def segment : List Char → Except NameFault (List Char × List Char)
  | [] => .ok ([], [])
  | c :: rest =>
    if isQuote c then
      match quotedSegment c rest with
      | none => .error .unterminatedQuote
      | some (chars, []) => .ok (chars, [])
      | some (chars, d :: after) =>
        if d = '/' then .ok (chars, d :: after) else .error .afterClosingQuote
    else
      .ok (plainSegment (c :: rest))

theorem length_le_of_quotedSegment {quote : Char} {cs chars after : List Char}
    (h : quotedSegment quote cs = some (chars, after)) : after.length ≤ cs.length := by
  fun_induction quotedSegment quote cs generalizing chars with
  | case1 => simp at h
  | case2 => simp at h; simp [h.2]
  | case3 => simp at h
  | case4 => simp at h; simp [← h.2]
  | case5 c d rest _ _ ih =>
    obtain ⟨⟨inner, left⟩, hinner, heq⟩ := Option.map_eq_some_iff.1 h
    obtain ⟨-, rfl⟩ := Prod.mk.inj heq
    have := ih hinner
    simp only [List.length_cons]
    omega
  | case6 c d rest _ _ ih =>
    obtain ⟨⟨inner, left⟩, hinner, heq⟩ := Option.map_eq_some_iff.1 h
    obtain ⟨-, rfl⟩ := Prod.mk.inj heq
    have := ih hinner
    simp only [List.length_cons] at this ⊢
    omega

theorem length_plainSegment_le (cs : List Char) : (plainSegment cs).2.length ≤ cs.length := by
  fun_induction plainSegment cs with
  | case1 => simp
  | case2 => simp
  | case3 => simp
  | case4 => simp
  | case5 d rest ih =>
    simp only [Prod.map_snd, id_eq, List.length_cons] at ih ⊢
    omega
  | case6 c d rest _ _ ih =>
    simpa using Nat.le_succ_of_le ih

/-- What follows a segment is no longer than the text. -/
theorem length_le_of_segment {cs chars after : List Char}
    (h : segment cs = .ok (chars, after)) : after.length ≤ cs.length := by
  cases cs with
  | nil => simp [segment] at h; simp [h.2]
  | cons c rest =>
    rw [segment] at h
    split at h
    · split at h
      · simp at h
      · simp at h; simp [h.2]
      · rename_i heq
        have := length_le_of_quotedSegment heq
        split at h
        · simp only [Except.ok.injEq, Prod.mk.injEq] at h
          simp only [← h.2, List.length_cons] at this ⊢
          omega
        · simp at h
    · simp only [Except.ok.injEq] at h
      have := length_plainSegment_le (c :: rest)
      rwa [h] at this

/-- The components written in a text; `allEmpty` tells whether every segment before it was
empty. -/
def readSegments (allEmpty : Bool) (cs : List Char) : Except NameFault (List (List Char)) :=
  match cs with
  | [] => .ok []
  | c :: rest =>
    match _h : segment (c :: rest) with
    | .error fault => .error fault
    | .ok (chars, []) => .ok [chars]
    | .ok (chars, [_]) =>
      .ok (if allEmpty && chars.isEmpty then [chars] else [chars, []])
    | .ok (chars, _ :: d :: after) => do
      let others ← readSegments (allEmpty && chars.isEmpty) (d :: after)
      return chars :: others
termination_by cs.length
decreasing_by
  have := length_le_of_segment _h
  simp only [List.length_cons] at this ⊢
  omega

/-- The name written in a text. -/
def parse (text : String) : Except Fault CompositeName :=
  match readSegments true text.toList with
  | .ok components => .ok ⟨components.map String.ofList⟩
  | .error fault => .error (.malformedName text fault.reason)

end CompositeName

namespace GivenName

/-- The name that a caller means: a text is read, a missing name is refused. -/
def resolve : GivenName → Except Fault CompositeName
  | missing => .error .missingName
  | text written => CompositeName.parse written
  | composite name => .ok name

end GivenName

end NameRouting
