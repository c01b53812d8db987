import Mathlib.Logic.Basic
import NameRouting.Name.Parse

/-!
# Written names are read back

The writer marks the separator and the backslash everywhere, and a quote only in
front of a component.  The reader decides by the first character of a segment
whether it is quoted, so the mark in front keeps every written component in the
reading without quotes.  What remains is the number of components: a separator
at the end opens one more component exactly when some component before it has a
character, and the writer adds one more separator exactly when none has.
-/

namespace NameRouting.CompositeName

/-! ## One component -/

/-- What may follow a written component: nothing, or the separator. -/
def StartsApart (rest : List Char) : Prop :=
  ∀ c ∈ rest.head?, c = '/'

theorem startsApart_nil : StartsApart [] := by
  simp [StartsApart]

theorem startsApart_separator (rest : List Char) : StartsApart ('/' :: rest) := by
  simp [StartsApart]

theorem plainSegment_of_startsApart {rest : List Char} (hrest : StartsApart rest) :
    plainSegment rest = ([], rest) := by
  cases rest with
  | nil => rfl
  | cons c rest =>
      obtain rfl : c = '/' := hrest c rfl
      cases rest <;> rfl

theorem plainSegment_marked (c : Char) (rest : List Char) :
    plainSegment ('\\' :: c :: rest) =
      (c :: (plainSegment rest).1, (plainSegment rest).2) := by
  rw [plainSegment, if_neg (by decide), if_pos rfl]
  rfl

theorem plainSegment_cons_of_ordinary {c : Char}
    (hseparator : c ≠ '/') (hmark : c ≠ '\\') (rest : List Char) :
    plainSegment (c :: rest) =
      (c :: (plainSegment rest).1, (plainSegment rest).2) := by
  cases rest with
  | nil => simp [plainSegment, hseparator]
  | cons d rest =>
      rw [plainSegment, if_neg hseparator, if_neg hmark]
      rfl

/-- The reading without quotes undoes the marks inside a component. -/
theorem plainSegment_escapeInside (cs : List Char) {rest : List Char}
    (hrest : StartsApart rest) :
    plainSegment (escapeInside cs ++ rest) = (cs, rest) := by
  induction cs with
  | nil => exact plainSegment_of_startsApart hrest
  | cons c cs ih =>
      by_cases hc : c = '/' ∨ c = '\\'
      · rw [escapeInside, if_pos hc, List.cons_append, List.cons_append,
          plainSegment_marked, ih]
      · rw [escapeInside, if_neg hc, List.cons_append]
        rw [not_or] at hc
        rw [plainSegment_cons_of_ordinary hc.1 hc.2, ih]

theorem segment_cons_of_not_isQuote {c : Char} (hc : isQuote c = false)
    (rest : List Char) :
    segment (c :: rest) = .ok (plainSegment (c :: rest)) := by
  rw [segment, if_neg (by simp [hc])]

theorem segment_of_startsApart {rest : List Char} (hrest : StartsApart rest) :
    segment rest = .ok ([], rest) := by
  cases rest with
  | nil => rfl
  | cons c rest =>
      obtain rfl : c = '/' := hrest c rfl
      rw [segment_cons_of_not_isQuote rfl, plainSegment_of_startsApart hrest]

/-- A written component is one segment, whatever component follows it. -/
theorem segment_renderComponent (cs : List Char) {rest : List Char}
    (hrest : StartsApart rest) :
    segment (renderComponent cs ++ rest) = .ok (cs, rest) := by
  cases cs with
  | nil => exact segment_of_startsApart hrest
  | cons c cs =>
      by_cases hquote : isQuote c = true
      · -- The mark in front is what keeps the quote from opening a quoted segment.
        rw [renderComponent, if_pos hquote, List.cons_append, List.cons_append,
          segment_cons_of_not_isQuote (by decide), plainSegment_marked,
          plainSegment_escapeInside cs hrest]
      · rw [renderComponent, if_neg hquote, ← plainSegment_escapeInside (c :: cs) hrest]
        by_cases hc : c = '/' ∨ c = '\\'
        · rw [escapeInside, if_pos hc, List.cons_append,
            segment_cons_of_not_isQuote (by decide)]
        · rw [escapeInside, if_neg hc, List.cons_append,
            segment_cons_of_not_isQuote (by simpa using hquote)]

@[simp]
theorem renderComponent_eq_nil_iff {cs : List Char} :
    renderComponent cs = [] ↔ cs = [] := by
  cases cs with
  | nil => simp [renderComponent]
  | cons c cs =>
      simp only [renderComponent, escapeInside, reduceCtorEq, iff_false]
      split
      · simp
      · split <;> simp

/-! ## One step of the reader -/

theorem readSegments_last {cs chars : List Char} (allEmpty : Bool) (hcs : cs ≠ [])
    (hsegment : segment cs = .ok (chars, [])) :
    readSegments allEmpty cs = .ok [chars] := by
  obtain ⟨c, rest, rfl⟩ := List.exists_cons_of_ne_nil hcs
  rw [readSegments]
  split <;> simp_all

theorem readSegments_closed {cs chars : List Char} {c : Char} (allEmpty : Bool)
    (hcs : cs ≠ []) (hsegment : segment cs = .ok (chars, [c])) :
    readSegments allEmpty cs =
      .ok (if allEmpty && chars.isEmpty then [chars] else [chars, []]) := by
  obtain ⟨d, rest, rfl⟩ := List.exists_cons_of_ne_nil hcs
  rw [readSegments]
  split <;> simp_all

theorem readSegments_more {cs chars after : List Char} {c : Char} (allEmpty : Bool)
    (hcs : cs ≠ []) (hafter : after ≠ [])
    (hsegment : segment cs = .ok (chars, c :: after)) :
    readSegments allEmpty cs =
      (readSegments (allEmpty && chars.isEmpty) after).map (chars :: ·) := by
  obtain ⟨d, rest, rfl⟩ := List.exists_cons_of_ne_nil hcs
  obtain ⟨e, after, rfl⟩ := List.exists_cons_of_ne_nil hafter
  rw [readSegments]
  split
  · simp_all
  · simp_all
  · simp_all
  · rename_i heq
    obtain ⟨rfl, -, rfl, rfl⟩ : _ ∧ _ ∧ _ ∧ _ := by
      simpa [heq] using hsegment
    cases readSegments _ _ <;> rfl

/-! ## All components -/

/-- The separator that is added after components that are all empty, provided
those before them were empty too. -/
def closing (allEmpty : Bool) (components : List (List Char)) : List Char :=
  if allEmpty && components.all List.isEmpty then ['/'] else []

theorem closing_cons (allEmpty : Bool) (cs : List Char)
    (components : List (List Char)) :
    closing allEmpty (cs :: components) =
      closing (allEmpty && cs.isEmpty) components := by
  simp [closing, Bool.and_assoc]

/-- The written form of components that are not the first ones of a name. -/
def renderAfter (allEmpty : Bool) (components : List (List Char)) : List Char :=
  Text.joined '/' (components.map renderComponent) ++ closing allEmpty components

theorem startsApart_closing (allEmpty : Bool) (components : List (List Char)) :
    StartsApart (closing allEmpty components) := by
  rw [closing]
  split
  · exact startsApart_separator []
  · exact startsApart_nil

theorem renderAfter_cons (allEmpty : Bool) (cs : List Char)
    {components : List (List Char)} (hcomponents : components ≠ []) :
    renderAfter allEmpty (cs :: components) =
      renderComponent cs ++
        '/' :: renderAfter (allEmpty && cs.isEmpty) components := by
  obtain ⟨next, others, rfl⟩ := List.exists_cons_of_ne_nil hcomponents
  simp [renderAfter, Text.joined, closing_cons]

/-- Nothing is written only for a last, empty component after one that has a
character; the separator in front already stands for it. -/
theorem renderAfter_eq_nil_iff (allEmpty : Bool) {components : List (List Char)}
    (hcomponents : components ≠ []) :
    renderAfter allEmpty components = [] ↔ allEmpty = false ∧ components = [[]] := by
  cases components with
  | nil => exact absurd rfl hcomponents
  | cons cs others =>
      cases others with
      | nil =>
          cases cs <;> cases allEmpty <;>
            simp [renderAfter, Text.joined, closing]
      | cons next more =>
          rw [renderAfter_cons allEmpty cs (List.cons_ne_nil next more)]
          simp

/-- Written components are read back, with one exception: nothing is read where
nothing is written. -/
theorem readSegments_renderAfter (allEmpty : Bool) {components : List (List Char)}
    (hcomponents : components ≠ [])
    (hwritten : renderAfter allEmpty components ≠ []) :
    readSegments allEmpty (renderAfter allEmpty components) = .ok components := by
  induction components generalizing allEmpty with
  | nil => exact absurd rfl hcomponents
  | cons cs others ih =>
      rcases eq_or_ne others [] with rfl | hothers
      · have hsegment : segment (renderAfter allEmpty [cs]) =
            .ok (cs, closing allEmpty [cs]) :=
          segment_renderComponent cs (startsApart_closing allEmpty [cs])
        by_cases hempty : allEmpty && cs.isEmpty
        · have hclosing : closing allEmpty [cs] = ['/'] := by
            simpa [closing] using hempty
          rw [hclosing] at hsegment
          rw [readSegments_closed allEmpty hwritten hsegment, if_pos hempty]
        · have hclosing : closing allEmpty [cs] = [] := by
            simpa [closing] using hempty
          rw [hclosing] at hsegment
          exact readSegments_last allEmpty hwritten hsegment
      · have hsegment : segment (renderAfter allEmpty (cs :: others)) =
            .ok (cs, '/' :: renderAfter (allEmpty && cs.isEmpty) others) := by
          rw [renderAfter_cons allEmpty cs hothers]
          exact segment_renderComponent cs (startsApart_separator _)
        by_cases hlast : renderAfter (allEmpty && cs.isEmpty) others = []
        · obtain ⟨hsome, rfl⟩ := (renderAfter_eq_nil_iff _ hothers).mp hlast
          rw [hlast] at hsegment
          rw [readSegments_closed allEmpty hwritten hsegment, if_neg (by simp [hsome])]
        · rw [readSegments_more allEmpty hwritten hlast hsegment,
            ih _ hothers hlast]
          rfl

theorem renderComponents_eq_renderAfter {components : List (List Char)}
    (hcomponents : components ≠ []) :
    renderComponents components = renderAfter true components := by
  simp only [renderComponents, renderAfter, closing, Bool.true_and,
    List.isEmpty_eq_false_iff.mpr hcomponents, Bool.not_false]
  split <;> simp

/-- Reading what was written for any components gives these components. -/
theorem readSegments_renderComponents (components : List (List Char)) :
    readSegments true (renderComponents components) = .ok components := by
  rcases eq_or_ne components [] with rfl | hcomponents
  · simp [renderComponents, Text.joined, readSegments]
  · rw [renderComponents_eq_renderAfter hcomponents]
    apply readSegments_renderAfter true hcomponents
    intro hnil
    have hfalse := ((renderAfter_eq_nil_iff true hcomponents).mp hnil).1
    exact Bool.noConfusion hfalse

/-- Reading the written form of a name gives the name, whatever characters its
components have; so no two names are written alike, and every written form can
be read. -/
theorem parse_render :
    (∀ name : CompositeName, parse name.render = .ok name) ∧
      Function.Injective render := by
  have hparse : ∀ name : CompositeName, parse name.render = .ok name := by
    intro name
    rw [parse, render, String.toList_ofList, readSegments_renderComponents]
    simp
  refine ⟨hparse, ?_⟩
  intro name other hrender
  have hsame : Except.ok (ε := Fault) name = .ok other := by
    rw [← hparse name, ← hparse other, hrender]
  exact Except.ok.inj hsame

end NameRouting.CompositeName
