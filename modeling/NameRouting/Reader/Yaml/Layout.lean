/-!
# Layout of YAML texts

Characters that end lines and words, and the place of a character in its line. Lines end at line
feeds and at the line and paragraph separators of Unicode.
-/

namespace NameRouting.Reader.Yaml

/-- A character that ends a line. -/
def isBreak (c : Char) : Bool :=
  c == '\n' || c == '\r' || c == '\x85' || c == '\u2028' || c == '\u2029'

/-- What a line end contributes to a text: the separators of Unicode stay, all others become a
line feed. -/
def breakChar (c : Char) : Char :=
  if c == '\u2028' || c == '\u2029' then c else '\n'

/-- A space, a tab or a line end. -/
def isGap (c : Char) : Bool :=
  c == ' ' || c == '\t' || isBreak c

/-- At a gap or at the end of the text. -/
def atGap : List Char → Bool
  | [] => true
  | c :: _ => isGap c

/-- At a line end or at the end of the text. -/
def atLineEnd : List Char → Bool
  | [] => true
  | c :: _ => isBreak c

/-- A line that separates documents starts here. -/
def atSeparator : List Char → Bool
  | '-' :: '-' :: '-' :: rest => atGap rest
  | '.' :: '.' :: '.' :: rest => atGap rest
  | _ => false

/-- A character that a text may hold. -/
def isPermitted (c : Char) : Bool :=
  let n := c.toNat
  n == 0x09 || n == 0x0A || n == 0x0D || (0x20 ≤ n && n ≤ 0x7E) || n == 0x85 ||
    (0xA0 ≤ n && n ≤ 0xD7FF) || (0xE000 ≤ n && n ≤ 0xFFFD) || 0x10000 ≤ n

/-- A place in a text: what is still to be read, how many characters were read, and the line and
column reached. -/
structure Place where
  rest : List Char
  index : Nat
  line : Nat
  column : Nat
deriving Inhabited

namespace Place

/-- The place behind the next character; a byte order mark takes no column. -/
def next (place : Place) : Place :=
  match place.rest with
  | [] => place
  | c :: rest =>
    if isBreak c then ⟨rest, place.index + 1, place.line + 1, 0⟩
    else
      let column := if c == '\ufeff' then place.column else place.column + 1
      ⟨rest, place.index + 1, place.line, column⟩

/-- The place behind the next characters. -/
def skip : (count : Nat) → Place → Place
  | 0, place => place
  | count + 1, place => skip count place.next

/-- The place where only `rest` is still to be read. -/
def moveTo (place : Place) (rest : List Char) : Place :=
  place.skip (place.rest.length - rest.length)

/-- The start of a text. -/
def start (cs : List Char) : Place :=
  ⟨cs, 0, 0, 0⟩

end Place

/-- The rest of a text behind spaces, comments and line ends, and whether a line end was among
them. -/
def skipGaps (inComment : Bool) : List Char → List Char × Bool
  | [] => ([], false)
  | c :: rest =>
    if isBreak c then ((skipGaps false rest).1, true)
    else if inComment then skipGaps true rest
    else if c == ' ' then skipGaps false rest
    else if c == '#' then skipGaps true rest
    else (c :: rest, false)

end NameRouting.Reader.Yaml
