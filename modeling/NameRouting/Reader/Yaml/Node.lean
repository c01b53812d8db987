import NameRouting.Reader.Yaml.Token

/-!
# Nodes

The structure of a YAML text: scalars, sequences and mappings, before scalars have a type. An alias
is replaced by the node that it names, which must be complete by then.
-/

namespace NameRouting.Reader.Yaml

/-- A node, with the tag that the text gives it. -/
inductive Node where
  | scalar (tag : Option (List Char)) (content : List Char) (plain : Bool)
  | sequence (tag : Option (List Char)) (items : List Node)
  | mapping (tag : Option (List Char)) (entries : List (Node × Node))
deriving Inhabited

/-- The node where nothing is written. -/
def Node.empty : Node :=
  .scalar none [] true

/-- The tokens that are still to be read, and the nodes that have names. -/
structure Cursor where
  tokens : List Token
  anchors : List (List Char × Node)

/-- A computation that reads tokens. -/
abbrev Reading := StateT Cursor (Except ReadFault)

namespace Reading

/-- The next token. -/
def peek : Reading (Option Token) :=
  return (← get).tokens.head?

/-- Goes behind the next token. -/
def skip : Reading Unit :=
  modify fun cursor => { cursor with tokens := cursor.tokens.drop 1 }

/-- Goes behind the next token if it is the given one, and tells whether it was. -/
def accept (token : Token) : Reading Bool := do
  if (← peek) == some token then
    skip
    return true
  else
    return false

/-- Goes behind the next token, which must be the given one. -/
def expect (token : Token) : Reading Unit := do
  unless ← accept token do
    throw illFormed

/-- Whether the next token is one of the given ones. -/
def at? (tokens : List Token) : Reading Bool := do
  return (← peek).any tokens.contains

/-- The name of a node, when one is written here. -/
def anchor? : Reading (Option (List Char)) := do
  match ← peek with
  | some (.anchor name) =>
    skip
    return some name
  | _ => return none

/-- The tag of a node, when one is written here. -/
def tag? : Reading (Option (List Char)) := do
  match ← peek with
  | some (.tag name) =>
    skip
    return some name
  | _ => return none

/-- Gives a node its name; a name that is taken is refused. -/
def name (anchor : Option (List Char)) (node : Node) : Reading Node := do
  match anchor with
  | none => return node
  | some name =>
    let cursor ← get
    if (cursor.anchors.lookup name).isSome then
      throw illFormed
    set { cursor with anchors := (name, node) :: cursor.anchors }
    return node

/-- The node of a name. -/
def named (name : List Char) : Reading Node := do
  match (← get).anchors.lookup name with
  | some node => return node
  | none => throw illFormed

end Reading

open Reading

/-- The tag of a node; a single exclamation mark leaves it open. -/
def openTag (tag : Option (List Char)) : Option (List Char) :=
  tag.filter (· ≠ ['!'])

mutual

/-- A node. Collections marked by indentation are read where `block` allows them, and a sequence
that is not indented further than the mapping around it where `indentless` does. -/
def readNode : (budget : Nat) → (block indentless : Bool) → Reading Node
  | 0, _, _ => throw illFormed
  | budget + 1, block, indentless => do
    match ← peek with
    | some (.alias name) =>
      skip
      named name
    | _ =>
      let before ← anchor?
      let written ← tag?
      let after ← if before.isNone then anchor? else pure none
      let anchor := before.or after
      let tag := openTag written
      let node : Node ←
        match ← peek with
        | some (.scalar content plain) =>
          skip
          pure (.scalar tag content (plain || written == some ['!']))
        | some .openBracket =>
          skip
          pure (.sequence tag (← readFlowItems budget true))
        | some .openBrace =>
          skip
          pure (.mapping tag (← readFlowEntries budget true))
        | some .entry =>
          if indentless then
            pure (.sequence tag (← readIndentlessItems budget))
          else if anchor.isSome || written.isSome then
            pure (.scalar tag [] true)
          else
            throw illFormed
        | other =>
          if block && other == some .sequenceStart then
            skip
            pure (.sequence tag (← readBlockItems budget))
          else if block && other == some .mappingStart then
            skip
            pure (.mapping tag (← readBlockEntries budget))
          else if anchor.isSome || written.isSome then
            pure (.scalar tag [] true)
          else
            throw illFormed
      name anchor node

/-- The items of an indented sequence. -/
def readBlockItems : (budget : Nat) → Reading (List Node)
  | 0 => throw illFormed
  | budget + 1 => do
    if ← accept .entry then
      let item ←
        if ← at? [.entry, .blockEnd] then pure .empty else readNode budget true false
      return item :: (← readBlockItems budget)
    else
      expect .blockEnd
      return []

/-- The items of a sequence that has no indentation of its own. -/
def readIndentlessItems : (budget : Nat) → Reading (List Node)
  | 0 => throw illFormed
  | budget + 1 => do
    if ← accept .entry then
      let item ←
        if ← at? [.entry, .key, .value, .blockEnd] then pure .empty
        else readNode budget true false
      return item :: (← readIndentlessItems budget)
    else
      return []

/-- The entries of an indented mapping. -/
def readBlockEntries : (budget : Nat) → Reading (List (Node × Node))
  | 0 => throw illFormed
  | budget + 1 => do
    if ← accept .blockEnd then
      return []
    else
      expect .key
      let key ←
        if ← at? [.key, .value, .blockEnd] then pure .empty else readNode budget true true
      let value ←
        if ← accept .value then
          if ← at? [.key, .value, .blockEnd] then pure .empty else readNode budget true true
        else
          pure .empty
      return (key, value) :: (← readBlockEntries budget)

/-- The items of a sequence in brackets. -/
def readFlowItems : (budget : Nat) → (first : Bool) → Reading (List Node)
  | 0, _ => throw illFormed
  | budget + 1, first => do
    if ← accept .closeBracket then
      return []
    unless first do
      expect .comma
    if ← accept .closeBracket then
      return []
    let item ←
      if ← accept .key then
        let key ←
          if ← at? [.value, .comma, .closeBracket] then pure .empty
          else readNode budget false false
        let value ←
          if ← accept .value then
            if ← at? [.comma, .closeBracket] then pure .empty else readNode budget false false
          else
            pure .empty
        pure (.mapping none [(key, value)])
      else
        readNode budget false false
    return item :: (← readFlowItems budget false)

/-- The entries of a mapping in braces. -/
def readFlowEntries : (budget : Nat) → (first : Bool) → Reading (List (Node × Node))
  | 0, _ => throw illFormed
  | budget + 1, first => do
    if ← accept .closeBrace then
      return []
    unless first do
      expect .comma
    if ← accept .closeBrace then
      return []
    let entry ←
      if ← accept .key then
        let key ←
          if ← at? [.value, .comma, .closeBrace] then pure .empty
          else readNode budget false false
        let value ←
          if ← accept .value then
            if ← at? [.comma, .closeBrace] then pure .empty else readNode budget false false
          else
            pure .empty
        pure (key, value)
      else
        pure (← readNode budget false false, .empty)
    return entry :: (← readFlowEntries budget false)

end

/-- The directives in front of a document: at most one names the version, which must be known. -/
def readDirectives : (budget : Nat) → (versioned : Bool) → Reading Bool
  | 0, _ => throw illFormed
  | budget + 1, versioned => do
    match ← peek with
    | some .directive =>
      skip
      let _ ← readDirectives budget versioned
      return true
    | some (.version major) =>
      if versioned || major != 1 then
        throw illFormed
      skip
      let _ ← readDirectives budget true
      return true
    | _ => return false

/-- Drops the marks of ended documents. -/
def dropEnds (tokens : List Token) : List Token :=
  tokens.dropWhile (· == .documentEnd)

/-- The document of a text; there is none in a text without content. -/
def readDocument (budget : Nat) : Reading (Option Node) := do
  let directives ← readDirectives budget false
  let node ←
    match ← peek with
    | none => if directives then throw illFormed else pure none
    | some .documentStart =>
      skip
      match ← peek with
      | none | some .documentStart | some .documentEnd | some .directive | some (.version _) =>
        pure (some .empty)
      | _ => some <$> readNode budget true false
    | _ => if directives then throw illFormed else some <$> readNode budget true false
  let cursor ← get
  if (dropEnds cursor.tokens).isEmpty then
    return node
  else
    throw illFormed

/-- The node of a text. Every step of the reading uses up a token or goes down into a node that
does, so the number of tokens bounds their number. -/
def node? (cs : List Char) : Except ReadFault (Option Node) := do
  let tokens ← tokens cs
  let (node, _) ← (readDocument (2 * tokens.length + 2)).run ⟨tokens, []⟩
  return node

end NameRouting.Reader.Yaml
