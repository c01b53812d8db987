import NameRouting.Name.Position

/-!
# Indexes of a name

An index that falls inside a name divides it into the components in front, one component, and
the components behind.  Reading and removing are about this component, cutting and inserting
are about the gap in front of it, so all of them agree.  They differ on where an index from the
end is counted from once the component is gone: what was removed is put back at the place that
is counted from the front.

An index that does not fit into a word is refused even where one that falls outside the name
would be moved to its nearer end.
-/

namespace NameRouting

/-- An index that names no component, as against a value that no index can be made of. -/
def PositionFault.isMiss : PositionFault → Bool
  | .outOfRange | .removalOutOfRange | .removalFromEmpty | .unfitForReading => true
  | _ => false

namespace CompositeName

/-! ## Actions at an index -/

/-- What a user does with a name at an index. -/
inductive Action where
  | get
  | insert (component : String)
  | remove
deriving DecidableEq, Inhabited, Repr

/-- What an action hands back when it succeeds: a component, or the name itself. -/
inductive Reaction where
  | handed (component : String)
  | itself
deriving DecidableEq, Inhabited, Repr

/-- The outcome of an action at an index, and the name after it. -/
def react (name : CompositeName) (index : Int) :
    Action → Except Fault Reaction × CompositeName
  | .get => ((name.get index).map .handed, name)
  | .insert component =>
    match name.insert index component with
    | .ok grown => (.ok .itself, grown)
    | .error fault => (.error fault, name)
  | .remove =>
    match name.remove index with
    | .ok (component, left) => (.ok (.handed component), left)
    | .error fault => (.error fault, name)

/-- An index falls inside a name if it counts one of its components, from the front or from
the end. -/
def IsInside (name : CompositeName) (index : Int) : Prop :=
  -(name.size : Int) ≤ index ∧ index < name.size

instance (name : CompositeName) (index : Int) : Decidable (name.IsInside index) :=
  inferInstanceAs (Decidable (_ ∧ _))

/-- The same place, counted from the front. -/
def fromFront (name : CompositeName) (index : Int) : Int :=
  if index < 0 then name.size + index else index

/-- An index names a component of a name, with these components in front of it and behind
it. -/
structure DividesAt (name : CompositeName) (index : Int) (before : List String)
    (component : String) (after : List String) : Prop where
  components : name.components = before ++ component :: after
  position : itemPosition? name.size index = some before.length

variable {name : CompositeName} {index : Int} {before after : List String} {component : String}

/-! ## Places -/

theorem itemPosition?_eq_some_iff {count place : Nat} :
    itemPosition? count index = some place ↔
      place < count ∧ (index = place ∨ index = place - count) := by
  unfold itemPosition?
  by_cases hnegative : index < 0
  · simp only [hnegative, if_true]
    split <;> simp <;> omega
  · simp only [hnegative, if_false]
    split <;> simp <;> omega

theorem gapPosition_natCast {count place : Nat} (hplace : place ≤ count) :
    gapPosition count place = place := by
  simp only [gapPosition]
  omega

theorem itemPosition?_eq_none_iff :
    itemPosition? name.size index = none ↔ ¬ name.IsInside index := by
  rw [IsInside, Option.eq_none_iff_forall_ne_some]
  constructor
  · intro hnone hinside
    by_cases hnegative : index < 0
    · exact hnone (name.size + index).toNat (itemPosition?_eq_some_iff.mpr (by omega))
    · exact hnone index.toNat (itemPosition?_eq_some_iff.mpr (by omega))
  · intro houtside place hplace
    have hindex := itemPosition?_eq_some_iff.mp hplace
    omega

theorem exists_dividesAt (hinside : name.IsInside index) :
    ∃ before component after, name.DividesAt index before component after := by
  cases hposition : itemPosition? name.size index with
  | none => exact absurd hinside (itemPosition?_eq_none_iff.mp hposition)
  | some place =>
      have hplace : place < name.components.length := (itemPosition?_eq_some_iff.mp hposition).1
      refine ⟨name.components.take place, name.components[place], name.components.drop (place + 1),
        ?_, ?_⟩
      · rw [← List.drop_eq_getElem_cons hplace, List.take_append_drop]
      · rw [hposition, List.length_take_of_le (Nat.le_of_lt hplace)]

/-! ## One action -/

theorem front_append_back (name : CompositeName) (index : Int) :
    name.front index ++ name.back index = name :=
  congrArg mk (List.take_append_drop _ _)

theorem insert_of_fitsWord (hfits : fitsWord index = true) (name : CompositeName)
    (component : String) :
    name.insert index component =
      .ok (name.front index ++ ⟨[component]⟩ ++ name.back index) := by
  have hparts : name.front index ++ ⟨[component]⟩ ++ name.back index =
      ⟨name.components.take (gapPosition name.size index) ++
        component :: name.components.drop (gapPosition name.size index)⟩ :=
    congrArg mk (List.append_cons ..).symm
  rw [hparts, insert, hfits]
  rfl

theorem get_of_not_isInside (hfits : fitsWord index = true) (houtside : ¬ name.IsInside index) :
    name.get index = .error (.position .outOfRange) := by
  simp [get, hfits, itemPosition?_eq_none_iff.mpr houtside]

theorem exists_remove_eq_of_not_isInside (hfits : fitsWord index = true)
    (houtside : ¬ name.IsInside index) :
    ∃ cause, cause.isMiss = true ∧ name.remove index = .error (.position cause) := by
  cases hempty : name.isEmpty with
  | true => exact ⟨.removalFromEmpty, rfl, by simp [remove, hfits, hempty]⟩
  | false =>
      refine ⟨.removalOutOfRange, rfl, ?_⟩
      simp [remove, hfits, hempty, itemPosition?_eq_none_iff.mpr houtside]

namespace DividesAt

variable (hdivides : name.DividesAt index before component after)

include hdivides

theorem gapPosition_eq : gapPosition name.size index = before.length := by
  obtain ⟨hplace, hindex⟩ := itemPosition?_eq_some_iff.mp hdivides.position
  simp only [gapPosition]
  omega

theorem front_eq : name.front index = ⟨before⟩ := by
  rw [front, hdivides.gapPosition_eq, hdivides.components, List.take_left]

theorem back_eq : name.back index = ⟨component :: after⟩ := by
  rw [back, hdivides.gapPosition_eq, hdivides.components, List.drop_left]

theorem get_eq (hfits : fitsWord index = true) : name.get index = .ok component := by
  simp [get, hfits, hdivides.position, hdivides.components]

theorem remove_eq (hfits : fitsWord index = true) :
    name.remove index = .ok (component, ⟨before ++ after⟩) := by
  have hleft : (before ++ component :: after).eraseIdx before.length = before ++ after := by
    simp [List.eraseIdx_append_of_length_le]
  simp [remove, hfits, isEmpty, hdivides.position, hdivides.components, hleft]

theorem react_get (hfits : fitsWord index = true) :
    name.react index .get = (.ok (.handed component), name) := by
  rw [react, hdivides.get_eq hfits]
  rfl

theorem react_remove (hfits : fitsWord index = true) :
    name.react index .remove = (.ok (.handed component), ⟨before ++ after⟩) := by
  rw [react, hdivides.remove_eq hfits]

theorem fromFront_eq : name.fromFront index = before.length := by
  obtain ⟨hplace, hindex⟩ := itemPosition?_eq_some_iff.mp hdivides.position
  rw [fromFront]
  split <;> omega

theorem insert_fromFront (hfits : fitsWord (name.fromFront index) = true) :
    (⟨before ++ after⟩ : CompositeName).insert (name.fromFront index) component = .ok name := by
  obtain ⟨components⟩ := name
  obtain rfl : components = before ++ component :: after := hdivides.components
  rw [hdivides.fromFront_eq] at hfits ⊢
  -- An index from the end would name another gap here, as the name is shorter by one.
  have hgap : gapPosition (⟨before ++ after⟩ : CompositeName).size before.length =
      before.length :=
    gapPosition_natCast (by simp [size])
  rw [insert_of_fitsWord hfits, front, back, hgap, List.take_left, List.drop_left]
  exact congrArg Except.ok (congrArg CompositeName.mk (List.append_cons ..).symm)

end DividesAt

/-! ## Outcomes -/

theorem react_of_not_isInside (hfits : fitsWord index = true)
    (houtside : ¬ name.IsInside index) (action : Action) (haction : action ∈ [.get, .remove]) :
    ∃ cause, cause.isMiss = true ∧
      name.react index action = (.error (.position cause), name) := by
  cases action with
  | get => exact ⟨.outOfRange, rfl, by rw [react, get_of_not_isInside hfits houtside]; rfl⟩
  | insert component => simp at haction
  | remove =>
      obtain ⟨cause, hmiss, hfault⟩ := exists_remove_eq_of_not_isInside hfits houtside
      exact ⟨cause, hmiss, by rw [react, hfault]⟩

theorem react_get_iff (hfits : fitsWord index = true) :
    (∃ text, name.react index .get = (.ok (.handed text), name)) ↔ name.IsInside index := by
  by_cases hinside : name.IsInside index
  · obtain ⟨before, text, after, hdivides⟩ := exists_dividesAt hinside
    exact iff_of_true ⟨text, hdivides.react_get hfits⟩ hinside
  · obtain ⟨cause, -, hfault⟩ := react_of_not_isInside hfits hinside .get (by simp)
    exact iff_of_false (by simp [hfault]) hinside

theorem react_remove_iff (hfits : fitsWord index = true) :
    (∃ text left, name.react index .remove = (.ok (.handed text), left)) ↔
      name.IsInside index := by
  by_cases hinside : name.IsInside index
  · obtain ⟨before, text, after, hdivides⟩ := exists_dividesAt hinside
    exact iff_of_true ⟨text, _, hdivides.react_remove hfits⟩ hinside
  · obtain ⟨cause, -, hfault⟩ := react_of_not_isInside hfits hinside .remove (by simp)
    exact iff_of_false (by simp [hfault]) hinside

/-- What was removed was there to be read, and it can be put back. -/
theorem react_of_react_remove {text : String} {left : CompositeName}
    (hfits : fitsWord index = true)
    (hremove : name.react index .remove = (.ok (.handed text), left)) :
    name.react index .get = (.ok (.handed text), name) ∧
      (∃ after, name.back index = ⟨text :: after⟩ ∧ left = name.front index ++ ⟨after⟩) ∧
      (fitsWord (name.fromFront index) = true →
        left.react (name.fromFront index) (.insert text) = (.ok .itself, name)) := by
  have hinside := (react_remove_iff hfits).mp ⟨text, left, hremove⟩
  obtain ⟨before, component, after, hdivides⟩ := exists_dividesAt hinside
  cases (hdivides.react_remove hfits).symm.trans hremove
  refine ⟨hdivides.react_get hfits, ⟨after, hdivides.back_eq, ?_⟩, fun hfront => ?_⟩
  · rw [hdivides.front_eq]
    rfl
  · rw [react, hdivides.insert_fromFront hfront]

/-- An index that does not fit into a word changes nothing. -/
theorem react_of_wide (hwide : fitsWord index = false) (name : CompositeName)
    (action : Action) :
    name.react index action =
      (.error (.position (if action = .get then .unfitForReading else .unfitForChange)), name) := by
  cases action <;> simp [react, get, insert, remove, hwide, Except.map]

/-- Cutting, inserting, reading and removing agree on what an index means.  The components in
front of it and those from it on are the whole name, and a new component comes between the two.
Reading and removing succeed exactly when the index falls inside the name; they are then about
the first component behind the cut, and putting it back at the same place from the front
restores the name.  Otherwise the name stays as it is.  All this is so for an index that fits
into a word; no other one is accepted, except for cutting. -/
theorem positions_agree (name : CompositeName) (index : Int) (component : String) :
    name.front index ++ name.back index = name ∧
      (fitsWord index = true →
        name.react index (.insert component) =
            (.ok .itself, name.front index ++ ⟨[component]⟩ ++ name.back index) ∧
          ((∃ text, name.react index .get = (.ok (.handed text), name)) ↔
            name.IsInside index) ∧
          ((∃ text left, name.react index .remove = (.ok (.handed text), left)) ↔
            name.IsInside index) ∧
          (¬ name.IsInside index → ∀ action ∈ [.get, .remove],
            ∃ cause, cause.isMiss = true ∧
              name.react index action = (.error (.position cause), name)) ∧
          ∀ text left, name.react index .remove = (.ok (.handed text), left) →
            name.react index .get = (.ok (.handed text), name) ∧
              (∃ after, name.back index = ⟨text :: after⟩ ∧
                left = name.front index ++ ⟨after⟩) ∧
              (fitsWord (name.fromFront index) = true →
                left.react (name.fromFront index) (.insert text) = (.ok .itself, name))) ∧
      (fitsWord index = false →
        name.react index .get = (.error (.position .unfitForReading), name) ∧
          ∀ action, action ≠ .get →
            name.react index action = (.error (.position .unfitForChange), name)) := by
  refine ⟨front_append_back name index, fun hfits => ?_, fun hwide => ⟨?_, ?_⟩⟩
  · refine ⟨?_, react_get_iff hfits, react_remove_iff hfits,
      react_of_not_isInside hfits,
      fun text left => react_of_react_remove hfits⟩
    rw [react, insert_of_fitsWord hfits]
  · exact react_of_wide hwide name .get
  · intro action haction
    rw [react_of_wide hwide, if_neg haction]

/-- A component that was removed at an index from the end is put back at its place from the
front. -/
theorem threeTexts_agree :
    let name : CompositeName := ⟨["a", "", "c"]⟩
    name.front (-2) ++ name.back (-2) = name ∧
      name.react (-2) (.insert "b") = (.ok .itself, ⟨["a", "b", "", "c"]⟩) ∧
      name.react (-2) .get = (.ok (.handed ""), name) ∧
      name.react (-2) .remove = (.ok (.handed ""), ⟨["a", "c"]⟩) ∧
      CompositeName.react ⟨["a", "c"]⟩ 1 (.insert "") = (.ok .itself, name) ∧
      ∃ cause, cause.isMiss = true ∧ name.react 3 .remove = (.error (.position cause), name) := by
  intro name
  obtain ⟨hcut, hfit, -⟩ := positions_agree name (-2) "b"
  obtain ⟨hinsert, -, -, -, hback⟩ := hfit (by decide)
  obtain ⟨-, hfit', -⟩ := positions_agree name 3 "b"
  obtain ⟨-, -, -, hmiss, -⟩ := hfit' (by decide)
  have hremove : name.react (-2) .remove = (.ok (.handed ""), ⟨["a", "c"]⟩) := rfl
  obtain ⟨hget, -, hrestores⟩ := hback "" ⟨["a", "c"]⟩ hremove
  exact ⟨hcut, hinsert, hget, hremove, hrestores (by decide), hmiss (by decide) .remove (by simp)⟩

/-- Cutting moves an index beyond a word to the end of the name, but nothing is inserted or
removed at it, and the fault is not the one of an index that names no component. -/
theorem wideIndex_refused :
    let name : CompositeName := ⟨["a"]⟩
    name.front 9223372036854775808 ++ ⟨["c"]⟩ ++ name.back 9223372036854775808 = ⟨["a", "c"]⟩ ∧
      name.react 9223372036854775808 (.insert "c") =
        (.error (.position .unfitForChange), ⟨["a"]⟩) ∧
      name.react 9223372036854775808 .remove = (.error (.position .unfitForChange), ⟨["a"]⟩) ∧
      PositionFault.isMiss .unfitForChange = false :=
  ⟨rfl, rfl, rfl, rfl⟩

end CompositeName

end NameRouting
