import NameRouting.Text.Pieces
import NameRouting.Text.Quoted

/-!
# Composite names

A composite name is an ordered list of components. Its written form separates the components by
`/`, marks the characters that would be read differently by a backslash, and closes a name of
empty components by one more separator so that their number can be told.
-/

namespace NameRouting

/-- An ordered list of components, each an arbitrary text. -/
structure CompositeName where
  components : List String
deriving DecidableEq, Inhabited, Repr

namespace CompositeName

/-- The number of components. -/
def size (name : CompositeName) : Nat :=
  name.components.length

/-- A name without components. -/
def isEmpty (name : CompositeName) : Bool :=
  name.components.isEmpty

/-- The components of one name followed by those of another. -/
def append (front back : CompositeName) : CompositeName :=
  ⟨front.components ++ back.components⟩

instance : Append CompositeName := ⟨append⟩

/-- A character that may open a quoted segment. -/
def isQuote (c : Char) : Bool :=
  c == '"' || c == '\''

/-- Marks the separator and the backslash wherever they stand. -/
def escapeInside : List Char → List Char
  | [] => []
  | c :: rest =>
    if c = '/' ∨ c = '\\' then '\\' :: c :: escapeInside rest else c :: escapeInside rest

/-- The written form of a component; a quote needs a mark only in front. -/
def renderComponent : List Char → List Char
  | [] => []
  | c :: rest => if isQuote c then '\\' :: c :: escapeInside rest else escapeInside (c :: rest)

/-- The written form of a list of components. -/
def renderComponents (components : List (List Char)) : List Char :=
  let written := Text.joined '/' (components.map renderComponent)
  if !components.isEmpty && components.all List.isEmpty then written ++ ['/'] else written

/-- The written form of a name. -/
def render (name : CompositeName) : String :=
  String.ofList (renderComponents (name.components.map String.toList))

/-- A list of texts in brackets, each of them quoted. -/
def displayTexts (texts : List String) : String :=
  "[" ++ ", ".intercalate (texts.map Text.quoted) ++ "]"

/-- A name shown with its kind and its components, as inside the display of a list. -/
def display (name : CompositeName) : String :=
  "CompositeName(" ++ displayTexts name.components ++ ")"

@[simp]
theorem components_append (front back : CompositeName) :
    (front ++ back).components = front.components ++ back.components :=
  rfl

@[simp]
theorem size_append (front back : CompositeName) :
    (front ++ back).size = front.size + back.size := by
  simp [size]

end CompositeName

/-- A name as a caller hands it in: missing, in written form, or already in components. -/
inductive GivenName where
  | missing
  | text (written : String)
  | composite (name : CompositeName)
deriving DecidableEq, Inhabited, Repr

namespace GivenName

/-- The text that stands for a given name in messages. -/
def display : GivenName → String
  | missing => "None"
  | text written => written
  | composite name => name.render

end GivenName

end NameRouting
