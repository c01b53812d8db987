import NameRouting.Fault

/-!
# Enumerations

An enumeration hands out the items of a listing one by one and can be closed before the last.
Closing asks the objects behind the listing to close, first the one that iterates and then the one
it came from, and drops the rest of the items. When one of them fails to close, the enumeration
counts as closed and nothing is asked again, but the iterator is kept, with whatever the objects
that were asked have left of the rest of the items.
-/

namespace NameRouting

/-- An object behind an enumeration that can be asked to close: the one that iterates, the one it
came from, or one that is both. -/
inductive Closable where
  | iterator
  | source
  | both
deriving DecidableEq, Inhabited, Repr

/-- The items that an iterator still yields, and the fault after them. -/
structure Remaining (α : Type) where
  items : List α
  failure : Option Fault
deriving Inhabited, Repr, DecidableEq

/-- What happens when an object is asked to close: the objects that learn of it, in order, the
fault that it ends with, and what the iterator yields from then on. Closing a generator ends it,
for one, whether it closes well or not, while a list keeps its items. An object is asked once at
most, so this is what happens at that one time. -/
structure Hook (α : Type) where
  calls : List Closable
  fault : Option Fault
  effect : Remaining α → Remaining α

instance {α : Type} : Inhabited (Hook α) :=
  ⟨⟨[], none, id⟩⟩

/-- What a backend lists: its items, a fault that comes after them instead of the end, once, and
what its objects do when they are asked to close, if they can be asked. -/
structure Source (α : Type) where
  items : List α
  failure : Option Fault
  iteratorHook : Option (Hook α)
  sourceHook : Option (Hook α)
  ownIterator : Bool
deriving Inhabited

/-- An enumeration: what its iterator still yields, unless it dropped it, the hooks that closing
calls, and whether it was closed. -/
structure Enumeration (α : Type) where
  remaining : Option (Remaining α)
  hooks : List (Hook α)
  closed : Bool
deriving Inhabited

/-- What a backend answers when it is asked for a listing. -/
inductive Listing (α : Type) where
  | nothing
  | source (source : Source α)
  | enumeration (enumeration : Enumeration α)
  | notIterable
deriving Inhabited

namespace Enumeration

variable {α : Type}

/-- Calls hooks in order up to the first that fails; beside the outcome stand the objects that
were asked and what they left. -/
def callHooks : List (Hook α) → Option (Remaining α) →
    Except Fault Unit × List Closable × Option (Remaining α)
  | [], remaining => (.ok (), [], remaining)
  | hook :: rest, remaining =>
    match hook.fault with
    | some fault => (.error fault, hook.calls, remaining.map hook.effect)
    | none =>
      let (outcome, calls, left) := callHooks rest (remaining.map hook.effect)
      (outcome, hook.calls ++ calls, left)

/-- The enumeration of a source. An object that is its own iterator is asked to close once. -/
def ofSource (source : Source α) : Enumeration α :=
  let second := if source.ownIterator then none else source.sourceHook
  { remaining := some ⟨source.items, source.failure⟩
    hooks := source.iteratorHook.toList ++ second.toList
    closed := false }

/-- Hands out the next item; there is none at the end. -/
def next (enumeration : Enumeration α) : Except Fault (Option α) × Enumeration α :=
  match enumeration.remaining with
  | none => (.ok none, enumeration)
  | some ⟨item :: rest, failure⟩ =>
    (.ok (some item), { enumeration with remaining := some ⟨rest, failure⟩ })
  | some ⟨[], some fault⟩ => (.error fault, { enumeration with remaining := some ⟨[], none⟩ })
  | some ⟨[], none⟩ => (.ok none, enumeration)

/-- Hands out items until it has handed out `count` of them or reached the end. -/
def take : (count : Nat) → Enumeration α → Except Fault (List α) × Enumeration α
  | 0, enumeration => (.ok [], enumeration)
  | count + 1, enumeration =>
    match enumeration.next with
    | (.error fault, left) => (.error fault, left)
    | (.ok none, left) => (.ok [], left)
    | (.ok (some item), left) =>
      let (items, left) := take count left
      (items.map (item :: ·), left)

/-- The number of items that are left. -/
def size (enumeration : Enumeration α) : Nat :=
  (enumeration.remaining.map (·.items.length)).getD 0

/-- Hands out all items that are left. -/
def drain (enumeration : Enumeration α) : Except Fault (List α) × Enumeration α :=
  enumeration.take (enumeration.size + 1)

/-- Closes the enumeration; beside the outcome stand the objects that were asked to close. -/
def close (enumeration : Enumeration α) :
    Except Fault Unit × List Closable × Enumeration α :=
  if enumeration.closed then
    (.ok (), [], enumeration)
  else
    match callHooks enumeration.hooks enumeration.remaining with
    | (.ok (), calls, _) => (.ok (), calls, { enumeration with closed := true, remaining := none })
    | (.error fault, calls, left) =>
      (.error fault, calls, { enumeration with closed := true, remaining := left })

/-- Hands out up to `count` items and closes the enumeration whatever happens. A fault of closing
wins over a fault of handing out, and that over the fault that the user of the items ends with. -/
def use (enumeration : Enumeration α) (count : Nat) (fault : Option Fault) :
    Except Fault (List α) × List Closable × Enumeration α :=
  let (items, left) := enumeration.take count
  let outcome :=
    match items, fault with
    | .ok _, some fault => .error fault
    | _, _ => items
  let (closing, calls, left) := left.close
  (closing.bind fun _ => outcome, calls, left)

/-- The hook of an enumeration that another one iterates. One that closed well yields nothing more;
any other one yields what its own objects left. -/
def hook (inner : Enumeration α) : Hook α :=
  let (outcome, calls, _) := inner.close
  { calls
    fault :=
      match outcome with
      | .ok () => none
      | .error fault => some fault
    effect := fun remaining =>
      ({ inner with remaining := some remaining }.close.2.2.remaining).getD ⟨[], none⟩ }

/-- An enumeration around another one: closing it closes that one. -/
def around (inner : Enumeration α) : Enumeration α :=
  { remaining := inner.remaining, hooks := [inner.hook], closed := false }

/-- A new enumeration of a listing. -/
def wrap : Listing α → Except Fault (Enumeration α)
  | .nothing => .ok ⟨some ⟨[], none⟩, [], false⟩
  | .source source => .ok (ofSource source)
  | .enumeration inner => .ok inner.around
  | .notIterable => .error .notIterable

/-- The enumeration of a listing, which is the listing itself if it is an enumeration. -/
def ofListing : Listing α → Except Fault (Enumeration α)
  | .enumeration enumeration => .ok enumeration
  | listing => wrap listing

end Enumeration

end NameRouting
