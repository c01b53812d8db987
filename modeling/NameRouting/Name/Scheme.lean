import NameRouting.Name.Basic

/-!
# The scheme of a name

The first component of a name may start with a scheme and a colon. The split takes them off: what
is left of the first component stays in front unless it is empty, and an empty one stays only in
front of a component that is not empty.
-/

namespace NameRouting

/-- A name taken apart into its scheme, if it has one, and the residual name. -/
structure SplitName where
  scheme : Option String
  residual : CompositeName
deriving DecidableEq, Inhabited, Repr

namespace SplitName

/-- Neither a scheme nor a residual name: the name means the context itself. -/
def isEmpty (split : SplitName) : Bool :=
  split.scheme.isNone && split.residual.isEmpty

end SplitName

namespace CompositeName

/-- Whether an emptied first component stays in front of the components that follow it. -/
def keepsEmptyFront : List String → Bool
  | [] => false
  | next :: _ => !next.isEmpty

/-- Takes the scheme off the first component. -/
def split (name : CompositeName) : SplitName :=
  match name.components with
  | [] => ⟨none, name⟩
  | first :: rest =>
    match Text.cutAt ':' first.toList with
    | (_, none) => ⟨none, name⟩
    | (scheme, some segment) =>
      let residual :=
        if !segment.isEmpty || keepsEmptyFront rest then String.ofList segment :: rest else rest
      ⟨if scheme.isEmpty then none else some (String.ofList scheme), ⟨residual⟩⟩

end CompositeName

end NameRouting
