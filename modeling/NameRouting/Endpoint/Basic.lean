import NameRouting.Text.Blank
import NameRouting.Uri.Parts

/-!
# Provider endpoints

A provider endpoint is an address that a provider can be reached at. It is read strictly: every
character must be one that addresses allow, every escape must be complete, the scheme must be well
formed, and brackets may only enclose a host that is an address of eight groups.
-/

namespace NameRouting

/-- An endpoint: the text it was read from, and the parts that routing looks at. -/
structure Endpoint where
  raw : String
  scheme : Option String
  host : Option String
  port : Option Nat
  path : String
deriving DecidableEq, Inhabited, Repr

namespace Endpoint

/-- Whether an endpoint has a scheme; an empty one does not count. -/
def hasScheme (endpoint : Endpoint) : Bool :=
  endpoint.scheme.any (!·.isEmpty)

/-- An ASCII character that addresses allow. -/
def isUriChar (c : Char) : Bool :=
  c.isAlphanum || "-._~:/?#[]@!$&'()*+,;=%".toList.contains c

/-- A character that may stand in an endpoint without an escape. -/
def isAllowed (c : Char) : Bool :=
  isUriChar c || (c.toNat ≥ 0x80 && !Text.isBlank c && Text.isPrintable c)

/-- Refuses the first character, counted from `index`, that is not allowed or starts an incomplete
escape. -/
def checkCharacters (index : Nat) : List Char → Except UriFault Unit
  | [] => .ok ()
  | c :: rest =>
    if c = '%' then
      match rest with
      | d :: e :: _ =>
        if Uri.isHexDigit d && Uri.isHexDigit e then checkCharacters (index + 1) rest
        else .error (.malformedEscape index)
      | _ => .error (.malformedEscape index)
    else if isAllowed c then
      checkCharacters (index + 1) rest
    else
      .error (.illegalCharacter index)

/-- The text before the first colon, when no slash, question mark or number sign comes earlier. -/
def schemeCandidate? (cs : List Char) : Option (List Char) :=
  match cs.span fun c => c ≠ ':' && !Uri.endsAuthority c with
  | (before, ':' :: _) => some before
  | _ => none

/-- The scheme as it is written, when there is one. -/
def scheme? (cs : List Char) : Except UriFault (Option (List Char)) :=
  match schemeCandidate? cs with
  | none => .ok none
  | some scheme => if Uri.isScheme scheme then .ok (some scheme) else .error .expectedScheme

/-- Refuses a bracketed host that is no address of eight groups. -/
def checkHost (parts : Uri.Parts) : Except UriFault Unit :=
  if parts.authority.contains '[' && !(parts.host?.any Uri.isIpv6) then
    .error (.malformedIpv6 ((parts.host?.map String.ofList).getD "None"))
  else
    .ok ()

/-- Refuses brackets outside the authority. -/
def checkBracketPlaces (cs : List Char) (parts : Uri.Parts) : Except UriFault Unit :=
  if cs.count '[' = parts.authority.count '[' ∧ cs.count ']' = parts.authority.count ']' then
    .ok ()
  else
    .error .strayBracket

/-- Reads an endpoint. -/
def parse (text : String) : Except UriFault Endpoint := do
  let cs := text.toList
  checkCharacters 0 cs
  if cs.count '#' > 1 then
    throw .secondFragment
  let scheme ← scheme? cs
  let parts ← Uri.split cs
  checkBracketPlaces cs parts
  let port ← parts.port?
  checkHost parts
  return {
    raw := text
    scheme := scheme.map String.ofList
    host := parts.host?.map String.ofList
    port := port
    path := String.ofList parts.path }

end Endpoint

end NameRouting
