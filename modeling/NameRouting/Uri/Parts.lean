import NameRouting.Fault
import NameRouting.Text.Lowercase
import NameRouting.Uri.Address

/-!
# The parts of an address

A text is divided into scheme, authority, path, query and fragment, and the authority into user
information, host and port. Brackets in an authority must surround the whole host; they are the
only part that is checked here.
-/

namespace NameRouting.Uri

/-- The parts of an address as they are written, the scheme in small letters. Parts that are
missing are empty. -/
structure Parts where
  scheme : List Char
  authority : List Char
  path : List Char
  query : List Char
  fragment : List Char
deriving DecidableEq, Inhabited, Repr

/-- A character of a scheme. -/
def isSchemeChar (c : Char) : Bool :=
  c.isAlphanum || c == '+' || c == '-' || c == '.'

/-- A scheme: a letter followed by letters, digits and the three signs of schemes. -/
def isScheme : List Char → Bool
  | [] => false
  | c :: rest => c.isAlpha && rest.all isSchemeChar

/-- Takes the scheme off a text when it starts with one. -/
def takeScheme (cs : List Char) : List Char × List Char :=
  match Text.cutAt ':' cs with
  | (before, some after) => if isScheme before then (before.map Char.toLower, after) else ([], cs)
  | (_, none) => ([], cs)

/-- A character that ends an authority. -/
def endsAuthority (c : Char) : Bool :=
  c == '/' || c == '?' || c == '#'

/-- Takes the authority off a text when it starts with one. -/
def takeAuthority : List Char → List Char × List Char
  | '/' :: '/' :: rest => rest.span fun c => !endsAuthority c
  | cs => ([], cs)

/-- The host and the port of an authority as they are written; the brackets of a host are left
out. -/
def hostAndPort (authority : List Char) : List Char × List Char :=
  let info := (Text.cutAtLast '@' authority).2
  match Text.cutAt '[' info with
  | (_, some bracketed) =>
    let (host, after) := Text.cutAt ']' bracketed
    (host, (Text.cutAt ':' (after.getD [])).2.getD [])
  | (_, none) =>
    let (host, port) := Text.cutAt ':' info
    (host, port.getD [])

/-- The version of an address of a future kind: `v`, hexadecimal digits, a period and more. -/
def isFutureAddress : List Char → Bool
  | 'v' :: rest =>
    let (digits, after) := rest.span isHexDigit
    !digits.isEmpty && (match after with
      | '.' :: c :: more => (c :: more).all (· ≠ '\n')
      | _ => false)
  | _ => false

/-- Refuses a bracketed host that is no address of eight groups and of no future kind. -/
def checkBracketedHost (host : List Char) : Except UriFault Unit :=
  if host.head? = some 'v' then
    if isFutureAddress host then .ok () else .error .futureAddress
  else if isIpv4 host then
    .error .bracketedIpv4
  else if isIpv6 host then
    .ok ()
  else
    .error (.notAnAddress (String.ofList host))

/-- Refuses brackets that do not pair, and text between a bracket and the border of the host. -/
def checkBrackets (authority : List Char) : Except UriFault Unit :=
  match authority.contains '[', authority.contains ']' with
  | false, false => .ok ()
  | true, true =>
    let info := (Text.cutAtLast '@' authority).2
    match Text.cutAt '[' info with
    | (before, some bracketed) =>
      let (host, after) := Text.cutAt ']' bracketed
      let port := after.getD []
      if !before.isEmpty || !(port.isEmpty || port.head? == some ':') then
        .error .unpairedBracket
      else
        checkBracketedHost host
    | (_, none) => checkBracketedHost (Text.cutAt ':' info).1
  | _, _ => .error .unpairedBracket

/-- The characters whose compatibility form holds one of the delimiters of an authority. -/
def hidesDelimiter (c : Char) : Bool :=
  [0x2047, 0x2048, 0x2049, 0x2100, 0x2101, 0x2105, 0x2106, 0x2A74, 0xFE13, 0xFE16, 0xFE55, 0xFE56,
    0xFE5F, 0xFE6B, 0xFF03, 0xFF0F, 0xFF1A, 0xFF1F, 0xFF20].contains c.toNat

/-- Divides a text into parts. Controls and spaces in front do not count, and neither do tabs and
line ends anywhere. -/
def split (cs : List Char) : Except UriFault Parts := do
  let visible := (cs.dropWhile fun c => c.toNat ≤ 0x20).filter fun c =>
    c ≠ '\t' && c ≠ '\r' && c ≠ '\n'
  let (scheme, rest) := takeScheme visible
  let (authority, rest) := takeAuthority rest
  checkBrackets authority
  let (rest, fragment) := Text.cutAt '#' rest
  let (path, query) := Text.cutAt '?' rest
  if authority.any hidesDelimiter then
    throw (.compatibilityForm (String.ofList authority))
  return ⟨scheme, authority, path, query.getD [], fragment.getD []⟩

namespace Parts

/-- The host in lower case, up to a scope; there is none when it is empty. -/
def host? (parts : Parts) : Option (List Char) :=
  let host := (hostAndPort parts.authority).1
  if host.isEmpty then
    none
  else
    match Text.cutAt '%' host with
    | (name, none) => some (Text.lowercase name)
    | (name, some scope) => some (Text.lowercase name ++ '%' :: scope)

/-- The port, when one is written. -/
def port? (parts : Parts) : Except UriFault (Option Nat) :=
  let port := (hostAndPort parts.authority).2
  if port.isEmpty then
    .ok none
  else
    match Text.natural? port with
    | none => .error (.portNotNumber (String.ofList port))
    | some n =>
      if port.length > Text.digitLimit then .error (.tooManyDigits port.length)
      else if n ≤ 65535 then .ok (some n)
      else .error .portOutOfRange

/-- The user information, when there is one. -/
def userInfo? (parts : Parts) : Option (List Char) :=
  (Text.cutAtLast '@' parts.authority).1

/-- The user name, empty when there is none. -/
def userName (parts : Parts) : List Char :=
  match parts.userInfo? with
  | none => []
  | some info => (Text.cutAt ':' info).1

/-- The password, when there is one. -/
def password? (parts : Parts) : Option (List Char) :=
  parts.userInfo?.bind fun info => (Text.cutAt ':' info).2

/-- The text that parts with an authority stand for. -/
def unsplit (parts : Parts) : List Char :=
  let scheme := if parts.scheme.isEmpty then [] else parts.scheme ++ [':']
  let path :=
    match parts.path with
    | [] => []
    | c :: rest => if c = '/' then c :: rest else '/' :: c :: rest
  let query := if parts.query.isEmpty then [] else '?' :: parts.query
  let fragment := if parts.fragment.isEmpty then [] else '#' :: parts.fragment
  scheme ++ '/' :: '/' :: parts.authority ++ path ++ query ++ fragment

end Parts

/-- The text with the password, if there is one, replaced by three asterisks. A text that cannot
be divided into parts, or whose port cannot be read, is left as it is. -/
def masked (cs : List Char) : List Char :=
  match split cs with
  | .error _ => cs
  | .ok parts =>
    match parts.port?, parts.password? with
    | .error _, _ => cs
    | .ok _, none => cs
    | .ok port, some _ =>
      let host := parts.host?.getD []
      let shown := if host.contains ':' then '[' :: host ++ [']'] else host
      let tail := port.elim [] fun n => ':' :: (toString n).toList
      let user := parts.userName ++ [':', '*', '*', '*', '@']
      { parts with authority := user ++ shown ++ tail }.unsplit

end NameRouting.Uri
