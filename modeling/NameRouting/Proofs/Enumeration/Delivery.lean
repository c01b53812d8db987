import NameRouting.Proofs.Enumeration.Closing

/-!
# What enumerations hand out

As long as the objects behind a listing close well, an enumeration hands out its items
in order and each of them once, whether they are asked for one by one, several at a
time or all together, until it is closed.  The first closing asks the object that
iterates and then the one it came from, if that is another one.  Nothing else asks
them, and nothing is handed out afterwards.

The invariant is that a closed enumeration has nothing left.  Everything else says how
one deed divides what is left into what it hands out and what it leaves.
-/

namespace NameRouting

/-- The items that a listing yields. -/
def Listing.items {α : Type} : Listing α → List α
  | nothing | notIterable => []
  | source origin => origin.items
  | enumeration inner => (inner.remaining.map (·.items)).getD []

/-- The objects that closing a listing asks: the one that iterates, and then the one it
came from if that is another one. -/
def Listing.closables {α : Type} : Listing α → List Closable
  | nothing | notIterable => []
  | source origin =>
    let second := if origin.ownIterator then none else origin.sourceHook
    (origin.iteratorHook.toList ++ second.toList).flatMap (·.calls)
  | enumeration inner => inner.close.2.1

namespace Enumeration

variable {α : Type}

/-! ## Courses of deeds -/

/-- What a user does with an enumeration.  `use` is a block that takes items and may
end with a fault; any other block consists of its deeds and of leaving it.  To hand
the enumeration on means to make the enumeration of the listing that it is. -/
inductive Deed where
  | next
  | take (count : Nat)
  | drain
  | close
  | leave
  | use (count : Nat) (fault : Option Fault)
  | handOn
deriving DecidableEq, Inhabited, Repr

/-- Whether a deed closes the enumeration. -/
def Deed.closes : Deed → Bool
  | .close | .leave | .use _ _ => true
  | _ => false

/-- What comes of a deed: the items that were handed out, how it ended for the user,
and the objects that were asked to close. -/
structure Turn (α : Type) where
  handed : List α
  outcome : Except Fault (List α)
  asked : List Closable

/-- The items that are handed out when up to `count` are asked for one by one, also
those before a fault. -/
def handedOut : (count : Nat) → Enumeration α → List α
  | 0, _ => []
  | count + 1, enumeration =>
    match enumeration.next with
    | (.ok (some item), left) => item :: handedOut count left
    | _ => []

/-- Does one deed. -/
def perform (enumeration : Enumeration α) : Deed → Turn α × Enumeration α
  | .next =>
    let (answer, left) := enumeration.next
    (⟨handedOut 1 enumeration, answer.map Option.toList, []⟩, left)
  | .take count =>
    let (items, left) := enumeration.take count
    (⟨handedOut count enumeration, items, []⟩, left)
  | .drain =>
    let (items, left) := enumeration.drain
    (⟨handedOut (enumeration.size + 1) enumeration, items, []⟩, left)
  | .close | .leave =>
    let (outcome, asked, left) := enumeration.close
    (⟨[], outcome.map fun _ => [], asked⟩, left)
  | .use count fault =>
    let (items, asked, left) := enumeration.use count fault
    (⟨handedOut count enumeration, items, asked⟩, left)
  | .handOn =>
    match ofListing (.enumeration enumeration) with
    | .ok same => (⟨[], .ok [], []⟩, same)
    | .error fault => (⟨[], .error fault, []⟩, enumeration)

/-- Does deeds in their order. -/
def course (enumeration : Enumeration α) : List Deed → List (Turn α) × Enumeration α
  | [] => ([], enumeration)
  | deed :: rest =>
    let (turn, left) := enumeration.perform deed
    let (turns, left) := left.course rest
    (turn :: turns, left)

/-- The items that were handed out in all turns. -/
def allHanded (turns : List (Turn α)) : List α :=
  turns.flatMap (·.handed)

/-- The objects that were asked to close in all turns. -/
def allAsked (turns : List (Turn α)) : List Closable :=
  turns.flatMap (·.asked)

/-- The items that are left. -/
def left (enumeration : Enumeration α) : List α :=
  (enumeration.remaining.map (·.items)).getD []

/-- A closed enumeration has nothing left. -/
def IsIntact (enumeration : Enumeration α) : Prop :=
  enumeration.closed = true → enumeration.left = []

/-- An enumeration of a listing: a new one around it, or the listing itself. -/
def IsOf (enumeration : Enumeration α) (listing : Listing α) : Prop :=
  wrap listing = .ok enumeration ∨ ofListing listing = .ok enumeration

/-! ## Handing out -/

variable {enumeration : Enumeration α}

theorem next_frame (enumeration : Enumeration α) :
    enumeration.next.2.hooks = enumeration.hooks ∧
      enumeration.next.2.closed = enumeration.closed := by
  rw [next_eq]
  exact ⟨rfl, rfl⟩

/-- The item that is handed out next is the first that is left. -/
theorem left_of_next_item {item : α} {after : Enumeration α}
    (hnext : enumeration.next = (.ok (some item), after)) :
    enumeration.left = item :: after.left := by
  rw [next] at hnext
  split at hnext
  · cases hnext
  · rename_i hremaining
    obtain ⟨hitem, rfl⟩ := Prod.mk.inj hnext
    obtain rfl := Option.some.inj (Except.ok.inj hitem)
    rw [left, hremaining]
    rfl
  · cases hnext
  · cases hnext

/-- When no item is handed out, none is left. -/
theorem left_of_next_end {answer : Except Fault (Option α)} {after : Enumeration α}
    (hnext : enumeration.next = (answer, after)) (hend : ∀ item, answer ≠ .ok (some item)) :
    enumeration.left = [] ∧ after.left = [] := by
  rw [next] at hnext
  split at hnext <;> rename_i hremaining <;> obtain ⟨rfl, rfl⟩ := Prod.mk.inj hnext
  · simp [left, hremaining]
  · exact absurd rfl (hend _)
  · simp [left, hremaining]
  · simp [left, hremaining]

/-- Taking items leaves the objects behind the listing alone. -/
theorem take_frame (count : Nat) (enumeration : Enumeration α) :
    (enumeration.take count).2.hooks = enumeration.hooks ∧
      (enumeration.take count).2.closed = enumeration.closed := by
  fun_induction take count enumeration with
  | case1 enumeration => exact ⟨rfl, rfl⟩
  | case2 count enumeration fault after hnext =>
      have hframe := next_frame enumeration
      rwa [hnext] at hframe
  | case3 count enumeration after hnext =>
      have hframe := next_frame enumeration
      rwa [hnext] at hframe
  | case4 count enumeration item after hnext items last htake ih =>
      have hframe := next_frame enumeration
      rw [hnext] at hframe
      rw [htake] at ih
      exact ⟨ih.1.trans hframe.1, ih.2.trans hframe.2⟩

/-- Taking items hands out the first ones that are left, and leaves the others. -/
theorem handedOut_eq_take (count : Nat) (enumeration : Enumeration α) :
    handedOut count enumeration = enumeration.left.take count ∧
      (enumeration.take count).2.left = enumeration.left.drop count := by
  fun_induction take count enumeration with
  | case1 enumeration => exact ⟨rfl, rfl⟩
  | case2 count enumeration fault after hnext =>
      obtain ⟨hleft, hafter⟩ := left_of_next_end hnext nofun
      rw [handedOut, hnext, hleft]
      exact ⟨rfl, hafter⟩
  | case3 count enumeration after hnext =>
      obtain ⟨hleft, hafter⟩ := left_of_next_end hnext nofun
      rw [handedOut, hnext, hleft]
      exact ⟨rfl, hafter⟩
  | case4 count enumeration item after hnext items last htake ih =>
      rw [htake] at ih
      rw [handedOut, hnext, left_of_next_item hnext]
      exact ⟨congrArg (item :: ·) ih.1, ih.2⟩

/-- What the user gets is what was handed out, unless a fault gets in between. -/
theorem handedOut_of_take {count : Nat} {enumeration : Enumeration α} {items : List α}
    (htake : (enumeration.take count).1 = .ok items) :
    handedOut count enumeration = items := by
  fun_induction take count enumeration generalizing items with
  | case1 enumeration => exact Except.ok.inj htake
  | case2 count enumeration fault after hnext => exact nomatch htake
  | case3 count enumeration after hnext =>
      rw [handedOut, hnext]
      exact Except.ok.inj htake
  | case4 count enumeration item after hnext outcome last hrest ih =>
      rw [handedOut, hnext]
      cases outcome with
      | error fault => exact nomatch htake
      | ok rest =>
          rw [hrest] at ih
          rw [← Except.ok.inj htake]
          exact congrArg (item :: ·) (ih rfl)

theorem handedOut_append_left (count : Nat) (enumeration : Enumeration α) :
    handedOut count enumeration ++ (enumeration.take count).2.left = enumeration.left := by
  obtain ⟨hhanded, hleft⟩ := handedOut_eq_take count enumeration
  rw [hhanded, hleft, List.take_append_drop]

theorem take_one_snd (enumeration : Enumeration α) :
    (enumeration.take 1).2 = enumeration.next.2 := by
  rw [take]
  rcases enumeration.next with ⟨⟨fault⟩ | ⟨_ | item⟩, after⟩ <;> rfl

/-- Asking for all items and one more leaves nothing. -/
theorem left_drain (enumeration : Enumeration α) : enumeration.drain.2.left = [] := by
  have hsize : enumeration.left.length = enumeration.size := by
    rw [left, size]
    cases enumeration.remaining <;> rfl
  rw [drain, (handedOut_eq_take _ enumeration).2, List.drop_eq_nil_iff, hsize]
  exact Nat.le_succ _

/-! ## Closing -/

theorem calledHooks_of_closeWell {hooks : List (Hook α)} (hwell : closeWell hooks = true) :
    calledHooks hooks = hooks := by
  rw [calledHooks_eq_self_iff, closeWell, List.all_eq_true]
  intro hook hhook
  exact List.all_eq_true.mp hwell hook (List.dropLast_subset _ hhook)

/-- Closing well asks all objects and drops what is left. -/
theorem close_of_closeWell (hopen : enumeration.closed = false)
    (hwell : closeWell enumeration.hooks = true) :
    enumeration.close = (.ok (), enumeration.hooks.flatMap (·.calls),
      { enumeration with closed := true, remaining := none }) := by
  obtain ⟨left, hcall⟩ : ∃ left, callHooks enumeration.hooks enumeration.remaining =
      (.ok (), enumeration.hooks.flatMap (·.calls), left) := by
    have hasked := callHooks_asked enumeration.hooks enumeration.remaining
    rw [calledHooks_of_closeWell hwell] at hasked
    have hok := (callHooks_ok_iff _ enumeration.remaining).mpr hwell
    exact ⟨_, Prod.ext hok (Prod.ext hasked rfl)⟩
  rw [close, hopen, if_neg Bool.false_ne_true, hcall]

/-! ## One deed -/

/-- Every deed takes some number of items, and then closes the enumeration if it is one
that closes. -/
theorem exists_perform_eq (enumeration : Enumeration α) (deed : Deed) :
    ∃ count, (enumeration.perform deed).1.handed = handedOut count enumeration ∧
      ((enumeration.perform deed).1.asked, (enumeration.perform deed).2) =
        if deed.closes then (enumeration.take count).2.close.2
        else ([], (enumeration.take count).2) := by
  cases deed with
  | next => exact ⟨1, rfl, congrArg _ (take_one_snd enumeration).symm⟩
  | take count => exact ⟨count, rfl, rfl⟩
  | drain => exact ⟨enumeration.size + 1, rfl, rfl⟩
  | close => exact ⟨0, rfl, rfl⟩
  | leave => exact ⟨0, rfl, rfl⟩
  | use count fault => exact ⟨count, rfl, rfl⟩
  | handOn => exact ⟨0, rfl, rfl⟩

/-- A deed that does not close hands out the first items that are left, and leaves the
others. -/
theorem perform_of_not_closes {deed : Deed} (hdeed : deed.closes = false)
    (enumeration : Enumeration α) :
    (enumeration.perform deed).1.handed ++ (enumeration.perform deed).2.left =
        enumeration.left ∧
      (enumeration.perform deed).1.asked = [] ∧
      (enumeration.perform deed).2.hooks = enumeration.hooks ∧
      (enumeration.perform deed).2.closed = enumeration.closed := by
  obtain ⟨count, hhanded, hafter⟩ := exists_perform_eq enumeration deed
  rw [hdeed, if_neg Bool.false_ne_true] at hafter
  obtain ⟨hasked, hafter⟩ := Prod.mk.inj hafter
  rw [hhanded, hasked, hafter]
  exact ⟨handedOut_append_left count enumeration, rfl, take_frame count enumeration⟩

/-- A deed that closes may hand out some more items first.  Then it asks the objects,
and nothing is left. -/
theorem perform_of_closes {deed : Deed} (hdeed : deed.closes = true)
    (hopen : enumeration.closed = false) (hwell : closeWell enumeration.hooks = true) :
    (enumeration.perform deed).1.handed <+: enumeration.left ∧
      (enumeration.perform deed).1.asked = enumeration.hooks.flatMap (·.calls) ∧
      (enumeration.perform deed).2.closed = true ∧
      (enumeration.perform deed).2.left = [] := by
  obtain ⟨count, hhanded, hafter⟩ := exists_perform_eq enumeration deed
  obtain ⟨hhooks, hclosed⟩ := take_frame count enumeration
  have hwellAfter : closeWell (enumeration.take count).2.hooks = true := by
    rw [hhooks, hwell]
  rw [hdeed, if_pos rfl, close_of_closeWell (hclosed.trans hopen) hwellAfter, hhooks] at hafter
  obtain ⟨hasked, hafter⟩ := Prod.mk.inj hafter
  rw [hhanded, hasked, hafter, (handedOut_eq_take count enumeration).1]
  exact ⟨List.take_prefix _ _, rfl, rfl, rfl⟩

/-- Nothing comes of a deed once nothing is left of a closed enumeration. -/
theorem perform_of_closed (deed : Deed) (hclosed : enumeration.closed = true)
    (hleft : enumeration.left = []) :
    (enumeration.perform deed).1.handed = [] ∧
      (enumeration.perform deed).1.asked = [] ∧
      (enumeration.perform deed).2.closed = true ∧
      (enumeration.perform deed).2.left = [] := by
  obtain ⟨count, hhanded, hafter⟩ := exists_perform_eq enumeration deed
  obtain ⟨htaken, hrest⟩ := handedOut_eq_take count enumeration
  have hstays := (take_frame count enumeration).2.trans hclosed
  rw [close_of_closed hstays, ite_self] at hafter
  obtain ⟨hasked, hafter⟩ := Prod.mk.inj hafter
  rw [hhanded, hasked, hafter, htaken, hrest, hleft, List.take_nil, List.drop_nil]
  exact ⟨rfl, rfl, hstays, rfl⟩

theorem handedOut_of_next {answer : Option α} (hnext : enumeration.next.1 = .ok answer) :
    handedOut 1 enumeration = answer.toList := by
  rw [handedOut]
  rcases h : enumeration.next with ⟨⟨fault⟩ | ⟨_ | item⟩, after⟩ <;> rw [h] at hnext
  · exact nomatch hnext
  · rw [← Except.ok.inj hnext]
    rfl
  · rw [← Except.ok.inj hnext]
    rfl

theorem take_of_use {count : Nat} {fault : Option Fault} {items : List α}
    (huse : (enumeration.use count fault).1 = .ok items) :
    (enumeration.take count).1 = .ok items := by
  rcases htake : enumeration.take count with ⟨taken, after⟩
  rcases hclose : after.close with ⟨closing, asked, closed⟩
  simp only [use, htake, hclose] at huse
  cases closing with
  | error closingFault => cases huse
  | ok _ =>
      cases taken with
      | error takingFault => cases huse
      | ok taken =>
          cases fault with
          | none => exact huse
          | some fault => cases huse

/-- A user who gets items gets those that were handed out. -/
theorem handed_of_perform {deed : Deed} {items : List α}
    (houtcome : (enumeration.perform deed).1.outcome = .ok items) :
    (enumeration.perform deed).1.handed = items := by
  have hnone : enumeration.close.1.map (fun _ => []) = .ok items → [] = items := by
    intro hmap
    cases hclose : enumeration.close.1 <;> rw [hclose] at hmap
    · exact nomatch hmap
    · exact Except.ok.inj hmap
  cases deed with
  | next =>
      change enumeration.next.1.map Option.toList = .ok items at houtcome
      cases hnext : enumeration.next.1 with
      | error fault =>
          rw [hnext] at houtcome
          exact nomatch houtcome
      | ok answer =>
          rw [hnext] at houtcome
          exact (handedOut_of_next hnext).trans (Except.ok.inj houtcome)
  | take count => exact handedOut_of_take houtcome
  | drain => exact handedOut_of_take houtcome
  | close => exact hnone houtcome
  | leave => exact hnone houtcome
  | use count fault => exact handedOut_of_take (take_of_use houtcome)
  | handOn => exact Except.ok.inj houtcome

/-! ## Courses of deeds -/

@[simp]
theorem course_cons (enumeration : Enumeration α) (deed : Deed) (rest : List Deed) :
    enumeration.course (deed :: rest) =
      ((enumeration.perform deed).1 :: ((enumeration.perform deed).2.course rest).1,
        ((enumeration.perform deed).2.course rest).2) :=
  rfl

theorem course_append (enumeration : Enumeration α) (before after : List Deed) :
    enumeration.course (before ++ after) =
      ((enumeration.course before).1 ++ ((enumeration.course before).2.course after).1,
        ((enumeration.course before).2.course after).2) := by
  induction before generalizing enumeration with
  | nil => rfl
  | cons deed before ih => rw [List.cons_append, course_cons, ih, course_cons]; rfl

@[simp]
theorem allHanded_cons (turn : Turn α) (turns : List (Turn α)) :
    allHanded (turn :: turns) = turn.handed ++ allHanded turns :=
  rfl

@[simp]
theorem allAsked_cons (turn : Turn α) (turns : List (Turn α)) :
    allAsked (turn :: turns) = turn.asked ++ allAsked turns :=
  rfl

theorem allHanded_append (first last : List (Turn α)) :
    allHanded (first ++ last) = allHanded first ++ allHanded last :=
  List.flatMap_append

theorem allAsked_append (first last : List (Turn α)) :
    allAsked (first ++ last) = allAsked first ++ allAsked last :=
  List.flatMap_append

/-- Without closing, what was handed out and what is left are the items, and no object
is asked. -/
theorem course_of_not_closes {deeds : List Deed} (hdeeds : deeds.any Deed.closes = false)
    (enumeration : Enumeration α) :
    allHanded (enumeration.course deeds).1 ++ (enumeration.course deeds).2.left =
        enumeration.left ∧
      allAsked (enumeration.course deeds).1 = [] ∧
      (enumeration.course deeds).2.hooks = enumeration.hooks ∧
      (enumeration.course deeds).2.closed = enumeration.closed := by
  induction deeds generalizing enumeration with
  | nil => exact ⟨rfl, rfl, rfl, rfl⟩
  | cons deed deeds ih =>
      rw [List.any_cons, Bool.or_eq_false_iff] at hdeeds
      obtain ⟨hhanded, hasked, hhooks, hclosed⟩ := perform_of_not_closes hdeeds.1 enumeration
      obtain ⟨hhanded', hasked', hhooks', hclosed'⟩ :=
        ih hdeeds.2 (enumeration.perform deed).2
      rw [course_cons, allHanded_cons, allAsked_cons, List.append_assoc, hhanded', hasked]
      exact ⟨hhanded, hasked', hhooks'.trans hhooks, hclosed'.trans hclosed⟩

/-- Once nothing is left of a closed enumeration, this stays so. -/
theorem course_of_closed (deeds : List Deed) (hclosed : enumeration.closed = true)
    (hleft : enumeration.left = []) :
    allHanded (enumeration.course deeds).1 = [] ∧
      allAsked (enumeration.course deeds).1 = [] ∧
      (enumeration.course deeds).2.left = [] := by
  induction deeds generalizing enumeration with
  | nil => exact ⟨rfl, rfl, hleft⟩
  | cons deed deeds ih =>
      obtain ⟨hhanded, hasked, hclosed', hleft'⟩ := perform_of_closed deed hclosed hleft
      rw [course_cons, allHanded_cons, allAsked_cons, hhanded, hasked]
      exact ih hclosed' hleft'

/-- Whatever is done, the items are handed out in order. -/
theorem allHanded_isPrefixOf (hintact : enumeration.IsIntact)
    (hwell : closeWell enumeration.hooks = true) (deeds : List Deed) :
    allHanded (enumeration.course deeds).1 <+: enumeration.left := by
  induction deeds generalizing enumeration with
  | nil => exact List.nil_prefix
  | cons deed deeds ih =>
      -- A closed enumeration has nothing left, so all depends on the deeds until then.
      cases hclosed : enumeration.closed with
      | true =>
          rw [(course_of_closed (deed :: deeds) hclosed (hintact hclosed)).1]
          exact List.nil_prefix
      | false =>
          rw [course_cons, allHanded_cons]
          cases hdeed : deed.closes with
          | true =>
              obtain ⟨hfront, -, hclosed', hleft'⟩ := perform_of_closes hdeed hclosed hwell
              rw [(course_of_closed deeds hclosed' hleft').1, List.append_nil]
              exact hfront
          | false =>
              obtain ⟨hhanded, -, hhooks', hclosed'⟩ :=
                perform_of_not_closes hdeed enumeration
              have hintact' : (enumeration.perform deed).2.IsIntact := by
                intro htrue
                exact nomatch htrue.symm.trans (hclosed'.trans hclosed)
              have hwell' : closeWell (enumeration.perform deed).2.hooks = true := by
                rw [hhooks', hwell]
              rw [← hhanded, List.prefix_append_right_inj]
              exact ih hintact' hwell'

theorem length_course (enumeration : Enumeration α) (deeds : List Deed) :
    (enumeration.course deeds).1.length = deeds.length := by
  induction deeds generalizing enumeration with
  | nil => rfl
  | cons deed deeds ih => rw [course_cons, List.length_cons, List.length_cons, ih]

/-- The first deed that closes is the only one that asks objects, and the last one that
hands out anything. -/
theorem course_of_closes {before : List Deed} {deed : Deed} (after : List Deed)
    (hintact : enumeration.IsIntact) (hwell : closeWell enumeration.hooks = true)
    (hbefore : before.any Deed.closes = false) (hdeed : deed.closes = true) :
    ∃ first closing last,
      (enumeration.course (before ++ deed :: after)).1 = first ++ closing :: last ∧
        first.length = before.length ∧ allAsked first = [] ∧
        closing.asked = enumeration.close.2.1 ∧ allHanded last = [] ∧ allAsked last = [] ∧
        (enumeration.course (before ++ deed :: after)).2.left = [] := by
  obtain ⟨hhanded, hasked, hhooks, hclosed⟩ := course_of_not_closes hbefore enumeration
  -- An enumeration that is closed from the start asks nobody, as closing it again does.
  have hturn : ((enumeration.course before).2.perform deed).1.asked = enumeration.close.2.1 ∧
      ((enumeration.course before).2.perform deed).2.closed = true ∧
      ((enumeration.course before).2.perform deed).2.left = [] := by
    cases hopen : enumeration.closed with
    | false =>
        obtain ⟨-, hobjects, hstays, hleft⟩ := perform_of_closes hdeed (hclosed.trans hopen)
          (by rw [hhooks, hwell])
        rw [hobjects, hhooks, close_of_closeWell hopen hwell]
        exact ⟨rfl, hstays, hleft⟩
    | true =>
        rw [hintact hopen, List.append_eq_nil_iff] at hhanded
        obtain ⟨-, hobjects, hstays, hleft⟩ :=
          perform_of_closed deed (hclosed.trans hopen) hhanded.2
        rw [hobjects, close_of_closed hopen]
        exact ⟨rfl, hstays, hleft⟩
  obtain ⟨hobjects, hstays, hleft⟩ := hturn
  obtain ⟨hnoneHanded, hnoneAsked, hnoneLeft⟩ := course_of_closed after hstays hleft
  rw [course_append, course_cons]
  exact ⟨_, _, _, rfl, length_course enumeration before, hasked, hobjects, hnoneHanded,
    hnoneAsked, hnoneLeft⟩

/-! ## Enumerations of listings -/

theorem isOf_cases {listing : Listing α} (hof : enumeration.IsOf listing) :
    wrap listing = .ok enumeration ∨ listing = .enumeration enumeration := by
  rcases hof with hwrap | hof
  · exact .inl hwrap
  · cases listing with
    | enumeration inner =>
        obtain rfl := Except.ok.inj hof
        exact .inr rfl
    | nothing => exact .inl hof
    | source origin => exact .inl hof
    | notIterable => exact nomatch hof

theorem left_of_isOf {listing : Listing α} (hof : enumeration.IsOf listing) :
    enumeration.left = listing.items := by
  rcases isOf_cases hof with hwrap | rfl
  · cases listing with
    | notIterable => exact nomatch hwrap
    | _ =>
        obtain rfl := Except.ok.inj hwrap
        rfl
  · rfl

theorem close_of_isOf {listing : Listing α} (hof : enumeration.IsOf listing)
    (hwell : closeWell enumeration.hooks = true) :
    enumeration.close.2.1 = listing.closables := by
  rcases isOf_cases hof with hwrap | rfl
  · rw [close_of_closeWell (closed_of_wrap hwrap) hwell]
    cases listing with
    | notIterable => exact nomatch hwrap
    | nothing =>
        obtain rfl := Except.ok.inj hwrap
        rfl
    | source origin =>
        obtain rfl := Except.ok.inj hwrap
        rfl
    | enumeration inner =>
        obtain rfl := Except.ok.inj hwrap
        exact List.append_nil _
  · rfl

/-- The first deed that closes. -/
theorem exists_first_closing {deeds : List Deed} (hdeeds : deeds.any Deed.closes = true) :
    ∃ before deed after, deeds = before ++ deed :: after ∧
      before.any Deed.closes = false ∧ deed.closes = true := by
  induction deeds with
  | nil => exact nomatch hdeeds
  | cons deed deeds ih =>
      cases hdeed : deed.closes with
      | true => exact ⟨[], deed, deeds, rfl, rfl, hdeed⟩
      | false =>
          rw [List.any_cons, hdeed, Bool.false_or] at hdeeds
          obtain ⟨before, closing, after, rfl, hbefore, hclosing⟩ := ih hdeeds
          refine ⟨deed :: before, closing, after, rfl, ?_, hclosing⟩
          rw [List.any_cons, hdeed, hbefore]
          rfl

/-- The objects are asked by the first closing, and once in the whole course. -/
theorem allAsked_course (hintact : enumeration.IsIntact)
    (hwell : closeWell enumeration.hooks = true) (deeds : List Deed) :
    allAsked (enumeration.course deeds).1 =
      if deeds.any Deed.closes then enumeration.close.2.1 else [] := by
  cases hdeeds : deeds.any Deed.closes with
  | false => exact (course_of_not_closes hdeeds enumeration).2.1
  | true =>
      obtain ⟨before, deed, after, rfl, hbefore, hdeed⟩ := exists_first_closing hdeeds
      obtain ⟨first, closing, last, hturns, -, hfirst, hclosing, -, hlast, -⟩ :=
        course_of_closes after hintact hwell hbefore hdeed
      rw [hturns, allAsked_append, allAsked_cons, hfirst, hclosing, hlast, List.append_nil]
      rfl

/-- Draining an enumeration that was not closed hands out all items. -/
theorem allHanded_of_drain {before after : List Deed} (hintact : enumeration.IsIntact)
    (hwell : closeWell enumeration.hooks = true) (hbefore : before.any Deed.closes = false) :
    allHanded (enumeration.course (before ++ .drain :: after)).1 = enumeration.left := by
  have hall : allHanded (enumeration.course (before ++ [.drain])).1 = enumeration.left := by
    have hdrain : (before ++ [Deed.drain]).any Deed.closes = false := by
      rw [List.any_append, hbefore]
      rfl
    have hhanded := (course_of_not_closes hdrain enumeration).1
    have hnone : (enumeration.course (before ++ [.drain])).2.left = [] := by
      rw [course_append]
      exact left_drain _
    rwa [hnone, List.append_nil] at hhanded
  have hfront := allHanded_isPrefixOf hintact hwell (before ++ .drain :: after)
  have hsplit : before ++ .drain :: after = before ++ [.drain] ++ after := by
    rw [List.append_assoc, List.singleton_append]
  -- No more than what was left can be handed out, and draining gave all of it.
  have hmore :
      enumeration.left <+: allHanded (enumeration.course (before ++ .drain :: after)).1 := by
    rw [hsplit, course_append, allHanded_append, hall]
    exact List.prefix_append _ _
  exact hfront.eq_of_length_le hmore.length_le

/-- A closed enumeration keeps having nothing left. -/
theorem isIntact_course (hintact : enumeration.IsIntact)
    (hwell : closeWell enumeration.hooks = true) (deeds : List Deed) :
    (enumeration.course deeds).2.IsIntact := by
  intro hclosed
  cases hdeeds : deeds.any Deed.closes with
  | false =>
      obtain ⟨hhanded, -, -, hsame⟩ := course_of_not_closes hdeeds enumeration
      rw [hintact (hsame.symm.trans hclosed), List.append_eq_nil_iff] at hhanded
      exact hhanded.2
  | true =>
      obtain ⟨before, deed, after, rfl, hbefore, hdeed⟩ := exists_first_closing hdeeds
      obtain ⟨_, _, _, -, -, -, -, -, -, hleft⟩ :=
        course_of_closes after hintact hwell hbefore hdeed
      exact hleft

theorem handed_of_mem_course {deeds : List Deed} {turn : Turn α}
    (hturn : turn ∈ (enumeration.course deeds).1) {items : List α}
    (houtcome : turn.outcome = .ok items) : turn.handed = items := by
  induction deeds generalizing enumeration with
  | nil => exact nomatch hturn
  | cons deed deeds ih =>
      rw [course_cons, List.mem_cons] at hturn
      rcases hturn with rfl | hturn
      · exact handed_of_perform houtcome
      · exact ih hturn

/-- As long as the objects behind a listing close well, its items are handed out in
order and each of them once, all of them if the enumeration is drained before it is
closed.  The first closing asks the object that iterates and then the one it came from
if that is another one; they are asked once, and nothing is handed out afterwards. -/
theorem delivers_in_order (listing : Listing α) {start : Enumeration α}
    (hstart : start.IsOf listing) (hintact : start.IsIntact)
    (hwell : closeWell start.hooks = true) (deeds : List Deed) :
    let turns := (start.course deeds).1
    allHanded turns <+: listing.items ∧
      (∀ turn ∈ turns, ∀ items, turn.outcome = .ok items → turn.handed = items) ∧
      (∀ before after, deeds = before ++ .drain :: after →
        before.any Deed.closes = false → allHanded turns = listing.items) ∧
      allAsked turns = (if deeds.any Deed.closes then listing.closables else []) ∧
      (∀ before deed after, deeds = before ++ deed :: after →
        before.any Deed.closes = false → deed.closes = true →
          ∃ first closing last, turns = first ++ closing :: last ∧
            first.length = before.length ∧ allAsked first = [] ∧
            closing.asked = listing.closables ∧ allHanded last = [] ∧ allAsked last = []) ∧
      (start.course deeds).2.IsIntact := by
  intro turns
  rw [← left_of_isOf hstart, ← close_of_isOf hstart hwell]
  refine ⟨allHanded_isPrefixOf hintact hwell deeds, ?_, ?_,
    allAsked_course hintact hwell deeds, ?_, isIntact_course hintact hwell deeds⟩
  · intro turn hturn items houtcome
    exact handed_of_mem_course hturn houtcome
  · rintro before after rfl hbefore
    exact allHanded_of_drain hintact hwell hbefore
  · rintro before deed after rfl hbefore hdeed
    obtain ⟨first, closing, last, hturns, hlength, hfirst, hclosing, hhanded, hasked, -⟩ :=
      course_of_closes after hintact hwell hbefore hdeed
    exact ⟨first, closing, last, hturns, hlength, hfirst, hclosing, hhanded, hasked⟩

/-- A block that is left by a fault closes both objects of a listing, and closing again
does nothing; an enumeration that is drained before it is left gives all items. -/
theorem numbers_delivered :
    let start := ofSource (numbers none none)
    let fault := Fault.raised "RuntimeError" "stop"
    let broken := (start.course [.handOn, .use 1 (some fault), .drain, .close]).1
    let drained := (start.course [.next, .drain, .leave]).1
    allHanded broken <+: [1, 2] ∧ allAsked broken = [.iterator, .source] ∧
      (∃ first closing last, broken = first ++ closing :: last ∧ first.length = 1 ∧
        allAsked first = [] ∧ closing.asked = [.iterator, .source] ∧
        allHanded last = [] ∧ allAsked last = []) ∧
      allHanded drained = [1, 2] := by
  intro start fault broken drained
  have hstart : start.IsOf (.source (numbers none none)) := .inl rfl
  have hintact : start.IsIntact := nofun
  obtain ⟨hfront, -, -, hasked, hfirst, -⟩ :=
    delivers_in_order (.source (numbers none none)) hstart hintact rfl
      [.handOn, .use 1 (some fault), .drain, .close]
  obtain ⟨-, -, hdrain, -⟩ :=
    delivers_in_order (.source (numbers none none)) hstart hintact rfl [.next, .drain, .leave]
  exact ⟨hfront, hasked,
    hfirst [.handOn] (.use 1 (some fault)) [.drain, .close] rfl rfl rfl,
    hdrain [.next] [.leave] rfl rfl⟩

end Enumeration

end NameRouting
