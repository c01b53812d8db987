import NameRouting.Table
import NameRouting.Value

/-!
# Flattening

A nested mapping becomes a table of properties: the key of a leaf is made of the texts of the keys
on the way to it, separated by periods. A list becomes the texts of its items, separated by commas.
Of two leaves with one key the later one counts.
-/

namespace NameRouting.Config

/-- The property that a leaf becomes. -/
def leafValue : Value → Value
  | .list items => .text (",".intercalate (items.map Value.toText))
  | .tuple items => .text (",".intercalate (items.map Value.toText))
  | value => value

@[simp]
theorem leafValue_list (items : List Value) :
    leafValue (.list items) = .text (",".intercalate (items.map Value.toText)) :=
  rfl

@[simp]
theorem leafValue_tuple (items : List Value) :
    leafValue (.tuple items) = .text (",".intercalate (items.map Value.toText)) :=
  rfl

/-- A leaf that is no list becomes itself. -/
@[simp]
theorem leafValue_eq_self {value : Value} (hlist : ∀ items, value ≠ .list items)
    (htuple : ∀ items, value ≠ .tuple items) : leafValue value = value := by
  cases value with
  | list items => exact absurd rfl (hlist items)
  | tuple items => exact absurd rfl (htuple items)
  | _ => rfl

mutual

/-- The properties below one key of a mapping. -/
def flattenEntry (path : String) : Value → Table Value
  | .map entries => flattenEntries (path ++ ".") entries .empty
  | value => Table.empty.insert path (leafValue value)

/-- The properties of the entries of a mapping, on top of those found before. -/
def flattenEntries (start : String) : List (Value × Value) → Table Value → Table Value
  | [], found => found
  | (key, value) :: rest, found =>
    flattenEntries start rest (found.update (flattenEntry (start ++ key.toText) value))

end

/-- The properties of a mapping, each key starting with the given text. -/
def flatten (entries : List (Value × Value)) (start : String) : Table Value :=
  flattenEntries start entries .empty

end NameRouting.Config
