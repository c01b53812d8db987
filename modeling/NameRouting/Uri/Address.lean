import NameRouting.Text.Digit
import NameRouting.Text.Pieces

/-!
# Numeric addresses

The texts of addresses of four octets and of eight groups. In the second kind one run of zero
groups may be left out, the last two groups may be written as four octets, and a scope may follow
a percent sign.
-/

namespace NameRouting.Uri

/-- An octet: up to three digits without a leading zero, of a value below 256. -/
def isOctet (cs : List Char) : Bool :=
  cs.length ≤ 3 && (cs == ['0'] || cs.head? != some '0') &&
    (Text.natural? cs).any (· ≤ 255)

/-- Four octets separated by periods. -/
def isIpv4 (cs : List Char) : Bool :=
  let octets := Text.pieces '.' cs
  octets.length == 4 && octets.all isOctet

/-- A hexadecimal digit. -/
def isHexDigit (c : Char) : Bool :=
  c.isDigit || ('a' ≤ c && c ≤ 'f') || ('A' ≤ c && c ≤ 'F')

/-- A group: one to four hexadecimal digits. -/
def isGroup (cs : List Char) : Bool :=
  !cs.isEmpty && cs.length ≤ 4 && cs.all isHexDigit

/-- The number of groups on one side of a gap; a side that is one empty text has none. -/
def sideCount? (side : List (List Char)) : Option Nat :=
  if side == [[]] then some 0
  else if side.all isGroup then some side.length
  else none

/-- The groups in front of the first gap and those behind it; a gap is an empty text that is
neither the first nor the last. -/
def aroundGap? : List (List Char) → Option (List (List Char) × List (List Char))
  | first :: second :: third :: rest =>
    if second.isEmpty then
      some ([first], third :: rest)
    else
      (aroundGap? (second :: third :: rest)).map fun (front, back) => (first :: front, back)
  | _ => none

/-- Eight groups, or fewer around a gap that stands for at least one. -/
def areGroups (groups : List (List Char)) : Bool :=
  match aroundGap? groups with
  | none => groups.length == 8 && groups.all isGroup
  | some (front, back) =>
    match sideCount? front, sideCount? back with
    | some m, some n => m + n ≤ 7
    | _, _ => false

/-- The groups of an address, two of them in place of four octets at the end. -/
def groups? (cs : List Char) : Option (List (List Char)) :=
  let groups := Text.pieces ':' cs
  match groups.getLast? with
  | none => none
  | some last =>
    if last.contains '.' then
      if isIpv4 last then some (groups.dropLast ++ [['0'], ['0']]) else none
    else
      some groups

/-- An address of eight groups with an optional scope, which is not empty and holds no percent
sign. -/
def isIpv6 (cs : List Char) : Bool :=
  let (address, scope) := Text.cutAt '%' cs
  !cs.contains '/' && scope.all (fun s => !s.isEmpty && !s.contains '%') &&
    (groups? address).any areGroups

end NameRouting.Uri
