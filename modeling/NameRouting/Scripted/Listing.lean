import NameRouting.Enumeration
import NameRouting.Value

/-!
# Scripted listings

The kinds of listings that a scripted backend can answer with. They differ in which of their
objects can be asked to close, and in how they end.
-/

namespace NameRouting.Scripted

/-- A kind of listing. -/
inductive ListingKind where
  | nothing
  | list
  | iterator
  | selfClosing
  | failing
  | closingSource
  | closingIterator
  | closingBoth
  | raisingClose
  | silentClose
  | notIterable
  | enumeration
deriving DecidableEq, Inhabited, Repr

/-- A hook of one object that closes well, and leaves the items alone. -/
def quietly {α : Type} (object : Closable) : Option (Hook α) :=
  some { calls := [object], fault := none, effect := id }

/-- A source whose objects cannot be asked to close. -/
def plainSource {α : Type} (items : List α) : Source α :=
  ⟨items, none, none, none, false⟩

/-- A source both of whose objects close well. -/
def closingSource {α : Type} (items : List α) : Source α :=
  { plainSource items with iteratorHook := quietly .iterator, sourceHook := quietly .source }

/-- The listing of a kind over items. -/
def ListingKind.over {α : Type} (kind : ListingKind) (items : List α) : Listing α :=
  match kind with
  | nothing => .nothing
  | list | silentClose => .source (plainSource items)
  | iterator => .source { plainSource items with ownIterator := true }
  | selfClosing =>
    .source { plainSource items with iteratorHook := quietly .both, ownIterator := true }
  | failing =>
    .source { plainSource items with
      failure := some (.raised "RuntimeError" "backend failed"), ownIterator := true }
  | closingSource => .source { plainSource items with sourceHook := quietly .source }
  | closingIterator => .source { plainSource items with iteratorHook := quietly .iterator }
  | closingBoth => .source (Scripted.closingSource items)
  | raisingClose =>
    .source { Scripted.closingSource items with
      sourceHook := some
        { calls := [.source]
          fault := some (.raised "RuntimeError" "close failed")
          effect := id } }
  | notIterable => .notIterable
  | enumeration => .enumeration (Enumeration.ofSource (Scripted.closingSource items))

/-- The characters of the texts of values, each as a text. -/
def characters (items : List Value) : List Value :=
  (String.join (items.map Value.toText)).toList.map fun c => .text (String.singleton c)

end NameRouting.Scripted
