import NameRouting.Property
import NameRouting.Table
import NameRouting.Text.Alphanumeric
import NameRouting.Text.Blank
import NameRouting.Text.Pieces
import NameRouting.Value

/-!
# Where URL contexts are looked for

A URL context may be offered by a module whose name is a package prefix from the environment
followed by the scheme. Characters of the scheme that cannot stand in the name of a module become
low lines.
-/

namespace NameRouting.UrlContext

/-- The scheme as the last part of the name of a module. -/
def schemeModule (scheme : String) : String :=
  String.ofList (scheme.toList.map fun c => if Text.isWordCharacter c then c else '_')

/-- The module that may offer a URL context for a scheme below a package prefix. -/
def moduleName (start scheme : String) : String :=
  start ++ "." ++ schemeModule scheme

/-- The package prefixes of an environment, in order; blank ones do not count. -/
def packagePrefixes (env : Table Value) : List String :=
  match env.get? Property.urlPackages with
  | none => []
  | some value =>
    if value.isBare then
      []
    else
      ((Text.pieces ':' value.toText.toList).map Text.trim |>.filter (!·.isEmpty)).map
        String.ofList

/-- Whether a missing module is the wanted one or one of the packages that hold it. -/
def isOnTheWay (missing wanted : String) : Bool :=
  missing == wanted || (missing ++ ".").toList.isPrefixOf wanted.toList

end NameRouting.UrlContext
