import NameRouting.Reader.Yaml.Scalar

/-!
# Tokens

A YAML text as a list of tokens. Indentation becomes explicit: a collection that is marked by
indentation alone has tokens for its start and its end. A scalar turns out to be a key only when a
colon follows it, so the token of a key is put in front of it afterwards; that works on one line
and over a limited distance.
-/

namespace NameRouting.Reader.Yaml

/-- A token. -/
inductive Token where
  | version (major : Nat)
  | directive
  | documentStart
  | documentEnd
  | sequenceStart
  | mappingStart
  | blockEnd
  | openBracket
  | closeBracket
  | openBrace
  | closeBrace
  | comma
  | entry
  | key
  | value
  | alias (name : List Char)
  | anchor (name : List Char)
  | tag (name : List Char)
  | scalar (content : List Char) (plain : Bool)
deriving DecidableEq, Inhabited, Repr

/-- A place where a key may have started: the number of tokens in front of it, the place, and
whether a key must be there because nothing else fits the indentation. -/
structure PossibleKey where
  tokens : Nat
  required : Bool
  index : Nat
  line : Nat
  column : Nat
deriving Inhabited

/-- How far the tokens of a text are read: the place, the tokens so far, the depth of brackets, the
columns of the open collections with the innermost first, whether a key may start here, and the
possible keys by depth of brackets. -/
structure Scan where
  place : Place
  tokens : List Token
  depth : Nat
  indent : Int
  indents : List Int
  keyAllowed : Bool
  keys : List (Nat × PossibleKey)
deriving Inhabited

namespace Scan

/-- The start of a text. -/
def start (cs : List Char) : Scan :=
  let place := Place.start cs
  let place := if cs.head? == some '\ufeff' then place.next else place
  ⟨place, [], 0, -1, [], true, []⟩

/-- Adds a token. -/
def push (scan : Scan) (token : Token) : Scan :=
  { scan with tokens := scan.tokens ++ [token] }

/-- Puts a token in front of the tokens from the given number on. -/
def insert (scan : Scan) (place : Nat) (token : Token) : Scan :=
  { scan with tokens := scan.tokens.take place ++ token :: scan.tokens.drop place }

/-- Goes behind the next characters. -/
def skip (scan : Scan) (count : Nat) : Scan :=
  { scan with place := scan.place.skip count }

/-- Closes the collections that are indented further than a column. -/
def unwindTo (column : Int) (scan : Scan) : (indents : List Int) → Scan
  | [] => { scan with indents := [] }
  | outer :: others =>
    if scan.indent > column then
      unwindTo column { scan.push .blockEnd with indent := outer } others
    else
      { scan with indents := outer :: others }

/-- Closes the collections that are indented further than a column, outside of brackets. -/
def unwind (scan : Scan) (column : Int) : Scan :=
  if scan.depth > 0 then scan else unwindTo column scan scan.indents

/-- Opens a collection at a column unless one is open there; tells whether it did. -/
def addIndent (scan : Scan) (column : Nat) : Scan × Bool :=
  if scan.indent < column then
    ({ scan with indents := scan.indent :: scan.indents, indent := column }, true)
  else
    (scan, false)

/-- Gives up a possible key at the present depth of brackets; a required one is missed. -/
def dropKey (scan : Scan) : Except ReadFault Scan :=
  match scan.keys.lookup scan.depth with
  | none => .ok scan
  | some key =>
    if key.required then .error illFormed
    else .ok { scan with keys := scan.keys.filter (·.1 ≠ scan.depth) }

/-- Notes that a key may start here. -/
def noteKey (scan : Scan) : Except ReadFault Scan :=
  if scan.keyAllowed then do
    let cleared ← scan.dropKey
    let place := scan.place
    let required := scan.depth == 0 && scan.indent == place.column
    let key : PossibleKey :=
      ⟨scan.tokens.length, required, place.index, place.line, place.column⟩
    return { cleared with keys := (scan.depth, key) :: cleared.keys }
  else
    .ok scan

/-- Gives up the possible keys that are on earlier lines or too far away. -/
def dropStaleKeys (scan : Scan) : Except ReadFault Scan :=
  let isStale (key : PossibleKey) : Bool :=
    key.line != scan.place.line || scan.place.index - key.index > 1024
  if scan.keys.any fun (_, key) => isStale key && key.required then .error illFormed
  else .ok { scan with keys := scan.keys.filter fun (_, key) => !isStale key }

/-- Ends all collections, for a line that belongs to no document. -/
def leaveAll (scan : Scan) : Except ReadFault Scan := do
  let scan ← (scan.unwind (-1)).dropKey
  return { scan with keyAllowed := false }

/-- Adds a token for the next characters. -/
def take (scan : Scan) (count : Nat) (token : Token) : Scan :=
  (scan.skip count).push token

/-- An opening bracket. -/
def openFlow (scan : Scan) (token : Token) : Except ReadFault Scan := do
  let scan ← scan.noteKey
  return { scan.take 1 token with depth := scan.depth + 1, keyAllowed := true }

/-- A closing bracket. -/
def closeFlow (scan : Scan) (token : Token) : Except ReadFault Scan := do
  let scan ← scan.dropKey
  if scan.depth == 0 then
    throw illFormed
  return { scan.take 1 token with depth := scan.depth - 1, keyAllowed := false }

/-- A comma. -/
def comma (scan : Scan) : Except ReadFault Scan := do
  let scan ← scan.dropKey
  return { scan.take 1 .comma with keyAllowed := true }

/-- Opens a collection of the given kind at the present column, outside of brackets. -/
def openBlock (scan : Scan) (token : Token) : Except ReadFault Scan :=
  if scan.depth > 0 then
    .ok scan
  else if !scan.keyAllowed then
    .error illFormed
  else
    match scan.addIndent scan.place.column with
    | (scan, true) => .ok (scan.push token)
    | (scan, false) => .ok scan

/-- The mark of a sequence entry. -/
def blockEntry (scan : Scan) : Except ReadFault Scan := do
  let scan ← scan.openBlock .sequenceStart
  let scan ← scan.dropKey
  return { scan.take 1 .entry with keyAllowed := true }

/-- The mark of an explicit key. -/
def explicitKey (scan : Scan) : Except ReadFault Scan := do
  let scan ← scan.openBlock .mappingStart
  let scan ← scan.dropKey
  return { scan.take 1 .key with keyAllowed := scan.depth == 0 }

/-- The colon behind a key. -/
def keyValue (scan : Scan) : Except ReadFault Scan :=
  match scan.keys.lookup scan.depth with
  | some key =>
    let scan := { scan with keys := scan.keys.filter (·.1 ≠ scan.depth) }
    let scan := scan.insert key.tokens .key
    let scan :=
      if scan.depth > 0 then
        scan
      else
        match scan.addIndent key.column with
        | (scan, true) => scan.insert key.tokens .mappingStart
        | (scan, false) => scan
    .ok { scan.take 1 .value with keyAllowed := false }
  | none => do
    let scan ← scan.openBlock .mappingStart
    let scan ← scan.dropKey
    return { scan.take 1 .value with keyAllowed := scan.depth == 0 }

/-- Adds the token of a scalar that ends where `rest` starts. -/
def scalar (scan : Scan) (content rest : List Char) (plain : Bool) : Scan :=
  { scan with place := scan.place.moveTo rest }.push (.scalar content plain)

/-- A quoted scalar. -/
def quoted (scan : Scan) (quote : Char) : Except ReadFault Scan := do
  let scan ← scan.noteKey
  let body := scan.place.rest.drop 1
  let (content, rest) ← quotedScalar quote (body.length + 1) body
  return { scan.scalar content rest false with keyAllowed := false }

/-- A plain scalar. -/
def plain (scan : Scan) : Except ReadFault Scan := do
  let scan ← scan.noteKey
  let cs := scan.place.rest
  let (content, rest, crossed) := plainScalar (scan.depth > 0) (scan.indent + 1) (cs.length + 1) cs
  return { scan.scalar content rest true with keyAllowed := crossed }

/-- A block scalar. -/
def block (scan : Scan) (folded : Bool) : Except ReadFault Scan := do
  let scan ← scan.dropKey
  let (content, rest) ← blockScalar folded scan.indent (scan.place.rest.drop 1)
  return { scan.scalar content rest false with keyAllowed := true }

/-- A character of the name of an anchor. -/
def isAnchorChar (c : Char) : Bool :=
  c.isAlphanum || c == '-' || c == '_'

/-- An anchor or an alias. -/
def named (scan : Scan) (token : List Char → Token) : Except ReadFault Scan := do
  let scan ← scan.noteKey
  let (name, rest) := (scan.place.rest.drop 1).span isAnchorChar
  let ended := atGap rest ||
    rest.head?.any ['?', ':', ',', ']', '\x7d', '%', '@', Char.ofNat 0x60].contains
  if name.isEmpty || !ended then
    throw illFormed
  return { scan.take (name.length + 1) (token name) with keyAllowed := false }

/-- A character of a tag. -/
def isTagChar (c : Char) : Bool :=
  c.isAlphanum || "-;/?:@&=+$,_.~*'()[]%!".toList.contains c

/-- The name that a tag stands for: a tag of the standard after two exclamation marks, one between
angle brackets as it is, and one of the text's own after a single exclamation mark. -/
def tagName? (cs : List Char) : Option (List Char) :=
  match cs with
  | ['!'] => some ['!']
  | '!' :: '!' :: suffix =>
    if suffix.isEmpty || suffix.contains '!' then none
    else some ("tag:yaml.org,2002:".toList ++ suffix)
  | '!' :: '<' :: rest =>
    match rest.getLast? with
    | some '>' => if rest.dropLast.isEmpty then none else some rest.dropLast
    | _ => none
  | _ => if (cs.drop 1).contains '!' then none else some cs

/-- A tag. -/
def tagged (scan : Scan) : Except ReadFault Scan := do
  let scan ← scan.noteKey
  let word := scan.place.rest.takeWhile (!isGap ·)
  let inner := word.filter fun c => c != '<' && c != '>'
  match tagName? word with
  | some name =>
    if inner.all isTagChar && !(scan.place.rest.drop word.length).head?.any (· == '\t') then
      return { scan.take word.length (.tag name) with keyAllowed := false }
    else
      throw illFormed
  | none => throw illFormed

/-- A directive: it names the version of the format, or it says something that does not matter. -/
def directive (scan : Scan) : Except ReadFault Scan := do
  let scan ← scan.leaveAll
  let line := scan.place.rest.takeWhile (!isBreak ·)
  let (name, arguments) := (line.drop 1).span isAnchorChar
  let token ←
    if name == "YAML".toList then
      let (major, after) := (arguments.dropWhile (· == ' ')).span Char.isDigit
      let (minor, rest) := (after.drop 1).span Char.isDigit
      let tail := rest.dropWhile (· == ' ')
      let ended := atGap rest && (tail.isEmpty || tail.head? == some '#')
      match Text.natural? major, after.head? with
      | some n, some '.' => if minor.isEmpty || !ended then throw illFormed else pure (.version n)
      | _, _ => throw illFormed
    else if name.isEmpty || !(arguments.isEmpty || arguments.head? == some ' ') then
      throw illFormed
    else
      pure .directive
  return scan.take line.length token

/-- Whether a plain scalar may start with a character in front of the given text. -/
def startsPlain (inFlow : Bool) (c : Char) (rest : List Char) : Bool :=
  !(isGap c || "-?:,[]\x7b\x7d#&*!|>'\"%@".toList.contains c || c.toNat == 0x60) ||
    (!atGap rest && (c == '-' || (!inFlow && (c == '?' || c == ':'))))

/-- Reads the next token, or the last ones at the end of the text; then there is no scan to go on
with. -/
def step (scan : Scan) : Except ReadFault (Scan × Bool) := do
  let (rest, crossed) := skipGaps false scan.place.rest
  let scan := { scan with
    place := scan.place.moveTo rest
    keyAllowed := scan.keyAllowed || (crossed && scan.depth == 0) }
  let scan ← scan.dropStaleKeys
  let scan := scan.unwind scan.place.column
  let inFlow := scan.depth > 0
  let more (next : Except ReadFault Scan) : Except ReadFault (Scan × Bool) :=
    next.map fun scan => (scan, true)
  match scan.place.rest with
  | [] => do
    let scan ← scan.leaveAll
    return (scan, false)
  | c :: rest =>
    let atLineStart := scan.place.column == 0
    if c == '%' && atLineStart then more scan.directive
    else if atLineStart && atSeparator (c :: rest) then
      more do
        let scan ← scan.leaveAll
        return scan.take 3 (if c == '-' then .documentStart else .documentEnd)
    else if c == '[' then more (scan.openFlow .openBracket)
    else if c == '\x7b' then more (scan.openFlow .openBrace)
    else if c == ']' then more (scan.closeFlow .closeBracket)
    else if c == '\x7d' then more (scan.closeFlow .closeBrace)
    else if c == ',' then more scan.comma
    else if c == '-' && atGap rest then more scan.blockEntry
    else if c == '?' && (inFlow || atGap rest) then more scan.explicitKey
    else if c == ':' && (inFlow || atGap rest) then more scan.keyValue
    else if c == '*' then more (scan.named .alias)
    else if c == '&' then more (scan.named .anchor)
    else if c == '!' then more scan.tagged
    else if c == '|' && !inFlow then more (scan.block false)
    else if c == '>' && !inFlow then more (scan.block true)
    else if c == '\'' || c == '"' then more (scan.quoted c)
    else if startsPlain inFlow c rest then more scan.plain
    else throw illFormed

/-- Reads tokens to the end of the text. -/
def run : (budget : Nat) → Scan → Except ReadFault (List Token)
  | 0, _ => .error illFormed
  | budget + 1, scan => do
    match ← scan.step with
    | (scan, true) => run budget scan
    | (scan, false) => return scan.tokens

end Scan

/-- The tokens of a text. Every step but the last reads a character at least, so the length of the
text bounds their number. -/
def tokens (cs : List Char) : Except ReadFault (List Token) :=
  if cs.all isPermitted then
    Scan.run (cs.length + 1) (Scan.start cs)
  else
    .error illFormed

end NameRouting.Reader.Yaml
