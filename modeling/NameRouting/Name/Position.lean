import NameRouting.Fault

/-!
# Positions in a composite name

An index counts from the front, or from the end when it is negative. Reading and removing need an
index that falls inside the name; inserting and cutting move an index that falls outside to the
nearer end. Only cutting takes an index that does not fit into a signed word of 64 bits.
-/

namespace NameRouting.CompositeName

/-- Whether an index fits into a signed word of 64 bits. -/
def fitsWord (index : Int) : Bool :=
  -9223372036854775808 ≤ index && index ≤ 9223372036854775807

/-- The item that an index names among `count` items. -/
def itemPosition? (count : Nat) (index : Int) : Option Nat :=
  let place := if index < 0 then index + count else index
  if 0 ≤ place ∧ place < count then some place.toNat else none

/-- The gap between items that an index names among `count` items. -/
def gapPosition (count : Nat) (index : Int) : Nat :=
  let place := if index < 0 then index + count else index
  min place.toNat count

/-- The component at an index. -/
def get (name : CompositeName) (index : Int) : Except Fault String :=
  if !fitsWord index then
    .error (.position .unfitForReading)
  else
    match (itemPosition? name.size index).bind (name.components[·]?) with
    | some component => .ok component
    | none => .error (.position .outOfRange)

/-- The name with one more component at the end. -/
def push (name : CompositeName) (component : String) : CompositeName :=
  ⟨name.components ++ [component]⟩

/-- The components in front of an index. -/
def front (name : CompositeName) (index : Int) : CompositeName :=
  ⟨name.components.take (gapPosition name.size index)⟩

/-- The components from an index on. -/
def back (name : CompositeName) (index : Int) : CompositeName :=
  ⟨name.components.drop (gapPosition name.size index)⟩

/-- The name with one more component at an index. -/
def insert (name : CompositeName) (index : Int) (component : String) :
    Except Fault CompositeName :=
  if !fitsWord index then
    .error (.position .unfitForChange)
  else
    let place := gapPosition name.size index
    .ok ⟨name.components.take place ++ component :: name.components.drop place⟩

/-- The component at an index, and the name without it. -/
def remove (name : CompositeName) (index : Int) : Except Fault (String × CompositeName) :=
  if !fitsWord index then
    .error (.position .unfitForChange)
  else if name.isEmpty then
    .error (.position .removalFromEmpty)
  else
    match itemPosition? name.size index with
    | none => .error (.position .removalOutOfRange)
    | some place =>
      match name.components[place]? with
      | some component => .ok (component, ⟨name.components.eraseIdx place⟩)
      | none => .error (.position .removalOutOfRange)

end NameRouting.CompositeName
