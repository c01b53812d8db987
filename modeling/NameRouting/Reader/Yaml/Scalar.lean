import NameRouting.Reader.Json
import NameRouting.Reader.Yaml.Layout

/-!
# Scalars

The three ways to write a scalar: between quotes, plain, and as an indented block. Line ends inside
quotes and inside plain text are folded: one becomes a space, and of several the first vanishes.
-/

namespace NameRouting.Reader.Yaml

/-- The content of a scalar and what follows it. -/
abbrev Read := Except ReadFault (List Char × List Char)

/-! ## Quoted scalars -/

/-- What single characters behind a backslash stand for. -/
def escapes : List (Char × Char) :=
  [('0', '\x00'), ('a', '\x07'), ('b', '\x08'), ('t', '\x09'), ('\t', '\x09'), ('n', '\n'),
    ('v', '\x0b'), ('f', '\x0c'), ('r', '\r'), ('e', '\x1b'), (' ', ' '), ('"', '"'),
    ('\\', '\\'), ('/', '/'), ('N', '\x85'), ('_', '\u00a0'), ('L', '\u2028'), ('P', '\u2029')]

/-- How many hexadecimal digits follow a mark behind a backslash. -/
def escapeWidth? : Char → Option Nat
  | 'x' => some 2
  | 'u' => some 4
  | 'U' => some 8
  | _ => none

/-- The line ends at the start of lines inside quotes, without the blanks of these lines. -/
def foldedBreaks : (budget : Nat) → List Char → Read
  | 0, _ => .error illFormed
  | budget + 1, cs =>
    if atSeparator cs then
      .error illFormed
    else
      match cs.dropWhile fun c => c == ' ' || c == '\t' with
      | [] => .ok ([], [])
      | c :: rest =>
        if isBreak c then do
          let (breaks, after) ← foldedBreaks budget rest
          return (breakChar c :: breaks, after)
        else
          .ok ([], c :: rest)

/-- What a line end and the line ends after it contribute. -/
def foldBreaks (first : Char) (others : List Char) : List Char :=
  if breakChar first != '\n' then breakChar first :: others
  else if others.isEmpty then [' ']
  else others

/-- The blanks inside quotes: those around a line end vanish. -/
def quotedBlanks (cs : List Char) : Read :=
  let (blanks, rest) := cs.span fun c => c == ' ' || c == '\t'
  match rest with
  | [] => .error illFormed
  | c :: after =>
    if isBreak c then do
      let (others, left) ← foldedBreaks (after.length + 1) after
      return (foldBreaks c others, left)
    else
      .ok (blanks, rest)

/-- What an escape stands for, and what follows it; the line ends behind an escaped line end
stay. -/
def readEscape : List Char → Read
  | [] => .error illFormed
  | c :: rest =>
    match escapes.lookup c, escapeWidth? c with
    | some escaped, _ => .ok ([escaped], rest)
    | none, some width =>
      let digits := rest.take width
      match Json.hexNumber? digits with
      | some code =>
        if digits.length < width then .error illFormed
        else if code > 0x7FFFFFFF then
          .error (.raised (.other "OverflowError" "Python int too large to convert to C int"))
        else if code > 0x10FFFF then .error (noValue "chr() arg not in range(0x110000)")
        else .ok ([Char.ofNat code], rest.drop width)
      | none => .error illFormed
    | none, none =>
      if isBreak c then foldedBreaks (rest.length + 1) rest else .error illFormed

/-- The content between quotes up to the closing one. -/
def quotedScalar (quote : Char) : (budget : Nat) → List Char → Read
  | 0, _ => .error illFormed
  | _, [] => .error illFormed
  | budget + 1, c :: rest =>
    if c == quote then
      match rest with
      | d :: more =>
        if quote == '\'' && d == '\'' then do
          let (chars, after) ← quotedScalar quote budget more
          return (d :: chars, after)
        else
          .ok ([], rest)
      | [] => .ok ([], [])
    else if isGap c then do
      let (blanks, left) ← quotedBlanks (c :: rest)
      let (chars, after) ← quotedScalar quote budget left
      return (blanks ++ chars, after)
    else if quote == '"' && c == '\\' then do
      let (escaped, left) ← readEscape rest
      let (chars, after) ← quotedScalar quote budget left
      return (escaped ++ chars, after)
    else do
      let (chars, after) ← quotedScalar quote budget rest
      return (c :: chars, after)

/-! ## Plain scalars -/

/-- A colon in front of this text ends a plain scalar. -/
def colonEnds (inFlow : Bool) : List Char → Bool
  | [] => true
  | c :: _ => isGap c || (inFlow && [',', '[', ']', '\x7b', '\x7d'].contains c)

/-- The first word of a plain scalar and what follows it. -/
def plainWord (inFlow : Bool) : List Char → List Char × List Char
  | [] => ([], [])
  | c :: rest =>
    if isGap c || (c == ':' && colonEnds inFlow rest) ||
        (inFlow && [',', '?', '[', ']', '\x7b', '\x7d'].contains c) then
      ([], c :: rest)
    else
      let (word, after) := plainWord inFlow rest
      (c :: word, after)

/-- What stands between two words of a plain scalar: its content, what follows it, the column of
what follows when a line end was crossed, and whether the scalar may go on. -/
structure PlainGap where
  content : List Char
  rest : List Char
  column : Option Nat
  continues : Bool

/-- The line ends and spaces behind the first line end of a plain scalar; a line that separates
documents ends the scalar. -/
def plainBreaks (column : Nat) : List Char → PlainGap
  | [] => ⟨[], [], some column, true⟩
  | c :: rest =>
    if c == ' ' then
      plainBreaks (column + 1) rest
    else if isBreak c then
      if atSeparator rest then
        ⟨[], rest, some 0, false⟩
      else
        let gap := plainBreaks 0 rest
        { gap with content := breakChar c :: gap.content }
    else
      ⟨[], c :: rest, some column, true⟩

/-- The gap after a word of a plain scalar. -/
def plainGap (cs : List Char) : PlainGap :=
  let (spaces, rest) := cs.span (· == ' ')
  match rest with
  | [] => ⟨spaces, rest, none, !spaces.isEmpty⟩
  | c :: after =>
    if !isBreak c then
      ⟨spaces, rest, none, !spaces.isEmpty⟩
    else if atSeparator after then
      ⟨[], after, some 0, false⟩
    else
      let gap := plainBreaks 0 after
      { gap with content := foldBreaks c gap.content }

/-- A plain scalar: its content, what follows it, and whether a line end precedes that. Lines
after the first must be indented by `indent` columns at least. -/
def plainScalar (inFlow : Bool) (indent : Int) : (budget : Nat) → List Char →
    List Char × List Char × Bool
  | 0, cs => ([], cs, false)
  | budget + 1, cs =>
    let (word, after) := plainWord inFlow cs
    let gap := plainGap after
    let crossed := gap.column.isSome
    let outside := gap.column.any fun column => !inFlow && (column : Int) < indent
    let (next, _) := plainWord inFlow gap.rest
    if !gap.continues || outside || gap.rest.head? == some '#' || next.isEmpty then
      (word, gap.rest, crossed)
    else
      let (others, left, crossed) := plainScalar inFlow indent budget gap.rest
      (word ++ gap.content ++ others, left, crossed)

/-! ## Block scalars -/

/-- What happens to the line ends at the end of a block scalar. -/
inductive Chomping where
  | strip
  | clip
  | keep
deriving DecidableEq, Inhabited, Repr

/-- The value of an indentation mark. -/
def indentation? (c : Char) : Option Nat :=
  if '1' ≤ c && c ≤ '9' then some (c.toNat - '0'.toNat) else none

/-- The chomping that a sign asks for. -/
def chomping? : Char → Option Chomping
  | '+' => some .keep
  | '-' => some .strip
  | _ => none

/-- The signs and the indentation behind the mark of a block scalar, in either order. -/
def blockHeader (cs : List Char) : Except ReadFault (Chomping × Option Nat × List Char) :=
  let (chomping, indentation, rest) :=
    match cs with
    | [] => (none, none, [])
    | c :: rest =>
      match chomping? c, indentation? c with
      | some sign, _ =>
        match rest with
        | d :: more =>
          match indentation? d with
          | some width => (some sign, some width, more)
          | none => (some sign, none, rest)
        | [] => (some sign, none, [])
      | none, some width =>
        match rest with
        | d :: more =>
          match chomping? d with
          | some sign => (some sign, some width, more)
          | none => (none, some width, rest)
        | [] => (none, some width, [])
      | none, none => (none, none, cs)
  let spaced := rest.dropWhile (· == ' ')
  let left := if spaced.head? == some '#' then spaced.dropWhile (!isBreak ·) else spaced
  if rest.head? == some '\t' || rest.head? == some '#' || !atLineEnd left then
    .error illFormed
  else
    .ok (chomping.getD .clip, indentation, left.drop 1)

/-- The empty lines in front of a block, what follows them, the column reached there, and the
greatest column reached on the way. -/
def blockStart (column widest : Nat) : List Char → List Char × List Char × Nat × Nat
  | [] => ([], [], column, widest)
  | c :: rest =>
    if c == ' ' then
      blockStart (column + 1) (max widest (column + 1)) rest
    else if isBreak c then
      let (breaks, after) := blockStart 0 widest rest
      (breakChar c :: breaks, after)
    else
      ([], c :: rest, column, widest)

/-- The empty lines inside a block of the given indentation, what follows them, and the column
reached there. -/
def blockBreaks (indent column : Nat) : List Char → List Char × List Char × Nat
  | [] => ([], [], column)
  | c :: rest =>
    if c == ' ' && column < indent then
      blockBreaks indent (column + 1) rest
    else if isBreak c then
      let (breaks, after) := blockBreaks indent 0 rest
      (breakChar c :: breaks, after)
    else
      ([], c :: rest, column)

/-- The lines of a block, the line ends after the last of them, and what follows. The lines start
behind the empty lines `breaks`; those of a folded block that are not indented further are put
together. -/
def blockLines (folded : Bool) (indent : Nat) : (budget : Nat) → (breaks : List Char) →
    List Char → List Char × List Char × List Char × List Char
  | 0, breaks, cs => ([], [], breaks, cs)
  | budget + 1, breaks, cs =>
    let (line, rest) := cs.span (!isBreak ·)
    let lineEnd := (rest.head?.map breakChar).toList
    let (others, after, column) := blockBreaks indent 0 (rest.drop 1)
    let opensBlank (text : List Char) : Bool :=
      text.head?.any fun c => c == ' ' || c == '\t'
    if column == indent && !after.isEmpty && !rest.isEmpty then
      let joint :=
        if folded && lineEnd == ['\n'] && !opensBlank cs && !opensBlank after then
          if others.isEmpty then [' '] else []
        else
          lineEnd
      let (lines, last, tail, left) := blockLines folded indent budget others after
      (breaks ++ line ++ joint ++ lines, last, tail, left)
    else
      (breaks ++ line, lineEnd, others, after)

/-- A block scalar behind its mark; `indent` is the indentation of the collection around it. -/
def blockScalar (folded : Bool) (indent : Int) (cs : List Char) : Read := do
  let (chomping, width, body) ← blockHeader cs
  let least : Nat := max (indent + 1) 1 |>.toNat
  let (breaks, rest, column, depth) : List Char × List Char × Nat × Nat :=
    match width with
    | none =>
      let (breaks, rest, column, widest) := blockStart 0 0 body
      (breaks, rest, column, max least widest)
    | some width =>
      let (breaks, rest, column) := blockBreaks (least + width - 1) 0 body
      (breaks, rest, column, least + width - 1)
  let (lines, last, tail, left) : List Char × List Char × List Char × List Char :=
    if column == depth && !rest.isEmpty then
      blockLines folded depth (rest.length + 1) breaks rest
    else
      ([], [], breaks, rest)
  let ending :=
    match chomping with
    | .strip => []
    | .clip => last
    | .keep => last ++ tail
  return (lines ++ ending, left)

end NameRouting.Reader.Yaml
