import NameRouting.Decimal.Shortest
import NameRouting.Fault

/-!
# Property values

The values that environments, configuration files and bindings hold. A value has a text of its
own, used where it stands for itself, and a display, used inside the text of a list or a mapping;
they differ for texts and for names.
-/

namespace NameRouting

/-- A property value. The entries of a mapping are in the order in which their keys came first. -/
inductive Value where
  | null
  | bool (value : Bool)
  | int (value : Int)
  | float (value : Float)
  | text (value : String)
  | list (items : List Value)
  | tuple (items : List Value)
  | map (entries : List (Value × Value))
  | name (value : CompositeName)
  /-- An object of any other kind, such as a date or a set, by what is asked of it: the name of its
  kind, its text, its display, and whether it counts as not given. -/
  | foreign (kind written shown : String) (bare : Bool)
deriving Inhabited

namespace Value

mutual

/-- A value as it is shown inside a list or a mapping. -/
def display : Value → String
  | null => "None"
  | bool true => "True"
  | bool false => "False"
  | int n => toString n
  | float x => Decimal.display x
  | text s => Text.quoted s
  | list items => "[" ++ ", ".intercalate (displayAll items) ++ "]"
  | tuple [item] => "(" ++ item.display ++ ",)"
  | tuple items => "(" ++ ", ".intercalate (displayAll items) ++ ")"
  | map entries => "\x7b" ++ ", ".intercalate (displayEntries entries) ++ "\x7d"
  | name n => n.display
  | foreign _ _ shown _ => shown

/-- The displays of the items of a list. -/
def displayAll : List Value → List String
  | [] => []
  | item :: rest => item.display :: displayAll rest

/-- The displays of the entries of a mapping. -/
def displayEntries : List (Value × Value) → List String
  | [] => []
  | (key, item) :: rest => (key.display ++ ": " ++ item.display) :: displayEntries rest

end

/-- The text that a value stands for. -/
def toText : Value → String
  | text s => s
  | name n => n.render
  | foreign _ written _ _ => written
  | value => value.display

/-- The values that count as not given: nothing, zero, and whatever has no items. -/
def isBare : Value → Bool
  | null => true
  | bool b => !b
  | int n => n == 0
  | float x => x == 0
  | text s => s.isEmpty
  | list items => items.isEmpty
  | tuple items => items.isEmpty
  | map entries => entries.isEmpty
  | name n => n.isEmpty
  | foreign _ _ _ bare => bare

/-- The word for the kind of a value. -/
def kind : Value → String
  | null => "NoneType"
  | bool _ => "bool"
  | int _ => "int"
  | float _ => "float"
  | text _ => "str"
  | list _ => "list"
  | tuple _ => "tuple"
  | map _ => "dict"
  | name _ => "CompositeName"
  | foreign kind _ _ _ => kind

/-- The whole number behind a truth value or a number. -/
def wholeNumber? : Value → Option Int
  | bool b => some (if b then 1 else 0)
  | int n => some n
  | _ => none

mutual

/-- Whether two values are one key: numbers and truth values by what they count, tuples item by
item, all else by kind and content. -/
def sameKey : Value → Value → Bool
  | null, null => true
  | text a, text b => a == b
  | name a, name b => a == b
  | foreign kind written _ _, foreign kind' written' _ _ => kind == kind' && written == written'
  | tuple as, tuple bs => sameKeys as bs
  | float a, float b => a == b
  | float a, b => (wholeNumber? b).any (Decimal.isExactly a)
  | a, float b => (wholeNumber? a).any (Decimal.isExactly b)
  | a, b =>
    match wholeNumber? a, wholeNumber? b with
    | some m, some n => m == n
    | _, _ => false

/-- Whether the keys of two tuples agree item by item. -/
def sameKeys : List Value → List Value → Bool
  | [], [] => true
  | a :: as, b :: bs => sameKey a b && sameKeys as bs
  | _, _ => false

end

mutual

/-- Whether a value can be a key: lists and mappings cannot, nor a tuple that holds one. -/
def canBeKey : Value → Bool
  | list _ => false
  | map _ => false
  | tuple items => canBeKeys items
  | _ => true

/-- Whether all items of a tuple can be keys. -/
def canBeKeys : List Value → Bool
  | [] => true
  | item :: rest => item.canBeKey && canBeKeys rest

end

/-- The entries with a key set to a value: a key that is there keeps its place and its first
form. -/
def putEntry (key value : Value) : List (Value × Value) → List (Value × Value)
  | [] => [(key, value)]
  | entry :: rest =>
    if entry.1.sameKey key then (entry.1, value) :: rest else entry :: putEntry key value rest

/-- The mapping that results from setting the entries one after the other. -/
def ofEntries (entries : List (Value × Value)) : Value :=
  map (entries.foldl (fun done entry => putEntry entry.1 entry.2 done) [])

end Value

end NameRouting
