import NameRouting.Name.Parse

/-!
# Composition of names

A name relative to a context becomes a name relative to an outer one when the name of the context
is put in front. Two written names compose to a written name.
-/

namespace NameRouting.GivenName

/-- A name with the name of a context in front. -/
def compose (name outer : GivenName) : Except Fault GivenName :=
  match name, outer with
  | .missing, _ => .error (.missingArgument "name")
  | _, .missing => .error (.missingArgument "prefix")
  | name, outer => do
    let front ← outer.resolve
    let back ← name.resolve
    match name, outer with
    | .text _, .text _ => return .text (front ++ back).render
    | _, _ => return .composite (front ++ back)

/-- Whether a composed name is the very object that was put in front. A composite name is extended
in its place. Texts are copied, except those that exist only once: the empty one, and a single
character below 256. -/
def isOuter (whole outer : GivenName) : Bool :=
  match outer, whole with
  | .composite _, _ => true
  | .text a, .text b => a == b && a.length ≤ 1 && a.toList.all (·.toNat < 256)
  | _, _ => false

end NameRouting.GivenName
