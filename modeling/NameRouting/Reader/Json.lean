import NameRouting.Interpreter
import NameRouting.Text.Digit
import NameRouting.Uri.Address

/-!
# JSON texts

Reads a JSON text into a value. Beyond the standard, the words for infinities and for no number
are values, and of two members with one name the later one counts, at the place of the first.

A text has no place for one half of a pair of code units. The last characters of all, which cannot
be printed either, stand for the halves.
-/

namespace NameRouting.Reader

/-- A text does not follow its format, and nothing more is said about it. -/
def illFormed : ReadFault :=
  .malformed "not well-formed"

/-- A text follows its format, but what it writes has no value. -/
def noValue (message : String) : ReadFault :=
  .raised (.value "ValueError" message)

namespace Json

/-- The blanks between the parts of a text. -/
def isSpace (c : Char) : Bool :=
  c == ' ' || c == '\t' || c == '\n' || c == '\r'

/-- Drops the blanks in front. -/
def skip (cs : List Char) : List Char :=
  cs.dropWhile isSpace

/-- The value of a hexadecimal digit. -/
def hexValue? (c : Char) : Option Nat :=
  if c.isDigit then some (c.toNat - '0'.toNat)
  else if 'a' ≤ c && c ≤ 'f' then some (c.toNat - 'a'.toNat + 10)
  else if 'A' ≤ c && c ≤ 'F' then some (c.toNat - 'A'.toNat + 10)
  else none

/-- The number that hexadecimal digits write. -/
def hexNumber? (cs : List Char) : Option Nat :=
  cs.foldlM (fun n c => (hexValue? c).map (16 * n + ·)) 0

/-- The characters that follow a backslash as themselves or for a control. -/
def escape? : Char → Option Char
  | '"' => some '"'
  | '\\' => some '\\'
  | '/' => some '/'
  | 'b' => some '\x08'
  | 'f' => some '\x0c'
  | 'n' => some '\n'
  | 'r' => some '\r'
  | 't' => some '\t'
  | _ => none

/-- A code unit that opens a pair. -/
def opensPair (unit : Nat) : Bool :=
  0xD800 ≤ unit && unit ≤ 0xDBFF

/-- A code unit that closes a pair. -/
def closesPair (unit : Nat) : Bool :=
  0xDC00 ≤ unit && unit ≤ 0xDFFF

/-- The character of a single code unit, or the one that stands for half a pair. -/
def unitChar (unit : Nat) : Char :=
  if opensPair unit || closesPair unit then Char.ofNat (0x10F800 + (unit - 0xD800))
  else Char.ofNat unit

/-- The characters of a string up to its closing quote, and what follows the quote. -/
def stringBody : List Char → Except ReadFault (List Char × List Char)
  | '\\' :: 'u' :: a :: b :: c :: d :: '\\' :: 'u' :: e :: f :: g :: h :: rest =>
    match hexNumber? [a, b, c, d], hexNumber? [e, f, g, h] with
    | some first, some second =>
      if opensPair first && closesPair second then do
        let (chars, after) ← stringBody rest
        return (Char.ofNat (0x10000 + (first - 0xD800) * 0x400 + (second - 0xDC00)) :: chars, after)
      else do
        let (chars, after) ← stringBody ('\\' :: 'u' :: e :: f :: g :: h :: rest)
        return (unitChar first :: chars, after)
    | _, _ => .error illFormed
  | '\\' :: 'u' :: a :: b :: c :: d :: rest =>
    match hexNumber? [a, b, c, d] with
    | some unit => do
      let (chars, after) ← stringBody rest
      return (unitChar unit :: chars, after)
    | none => .error illFormed
  | '\\' :: mark :: rest =>
    match escape? mark with
    | some escaped => do
      let (chars, after) ← stringBody rest
      return (escaped :: chars, after)
    | none => .error illFormed
  | c :: rest =>
    if c = '"' then .ok ([], rest)
    else if c.toNat < 0x20 || c = '\\' then .error illFormed
    else do
      let (chars, after) ← stringBody rest
      return (c :: chars, after)
  | [] => .error illFormed

/-- The digits behind a mark, when there are some. -/
def digitsAfter (mark : Char → Bool) (cs : List Char) : List Char × List Char :=
  match cs with
  | c :: rest =>
    let (digits, after) := rest.span Char.isDigit
    if mark c && !digits.isEmpty then (digits, after) else ([], cs)
  | [] => ([], [])

/-- The exponent of a number, when one is written. -/
def exponent? (cs : List Char) : Option (Int × List Char) :=
  match cs with
  | c :: rest =>
    let (negative, digits) :=
      match rest with
      | '-' :: more => (true, more)
      | '+' :: more => (false, more)
      | _ => (false, rest)
    let (digits, after) := digits.span Char.isDigit
    match Text.natural? digits with
    | some n =>
      if c == 'e' || c == 'E' then some (if negative then -(n : Int) else n, after) else none
    | none => none
  | [] => none

/-- A number: it is a whole number unless it has a fraction or an exponent. -/
def number (negative : Bool) (cs : List Char) : Except ReadFault (Value × List Char) :=
  let (whole, rest) :=
    match cs with
    | '0' :: rest => (['0'], rest)
    | _ => cs.span Char.isDigit
  if whole.isEmpty then
    .error illFormed
  else
    let (fraction, rest) := digitsAfter (· == '.') rest
    let exponent := exponent? rest
    if fraction.isEmpty && exponent.isNone then
      if whole.length > Text.digitLimit then
        .error (noValue (UriFault.digitLimit whole.length))
      else
        let n : Int := (Text.natural? whole).getD 0
        .ok (.int (if negative then -n else n), rest)
    else
      let digits := (Text.natural? (whole ++ fraction)).getD 0
      let (power, rest) := exponent.getD (0, rest)
      .ok (.float (Decimal.ofDecimal negative digits (power - fraction.length)), rest)

mutual

/-- The value at the start of a text, and what follows it. -/
def readValue : (depth : Nat) → List Char → Except ReadFault (Value × List Char)
  | 0, _ => .error illFormed
  | depth + 1, cs =>
    match cs with
    | '"' :: rest => do
      let (chars, after) ← stringBody rest
      return (.text (String.ofList chars), after)
    | '\x7b' :: rest => do
      let (entries, after) ← readMembers depth true (skip rest)
      return (Value.ofEntries entries, after)
    | '[' :: rest => do
      let (items, after) ← readItems depth true (skip rest)
      return (.list items, after)
    | 'n' :: 'u' :: 'l' :: 'l' :: rest => .ok (.null, rest)
    | 't' :: 'r' :: 'u' :: 'e' :: rest => .ok (.bool true, rest)
    | 'f' :: 'a' :: 'l' :: 's' :: 'e' :: rest => .ok (.bool false, rest)
    | 'N' :: 'a' :: 'N' :: rest => .ok (.float (0.0 / 0.0), rest)
    | 'I' :: 'n' :: 'f' :: 'i' :: 'n' :: 'i' :: 't' :: 'y' :: rest => .ok (.float (1.0 / 0.0), rest)
    | '-' :: 'I' :: 'n' :: 'f' :: 'i' :: 'n' :: 'i' :: 't' :: 'y' :: rest =>
      .ok (.float (-1.0 / 0.0), rest)
    | '-' :: rest => number true rest
    | _ => number false cs

/-- The items of a list up to its closing bracket. -/
def readItems : (depth : Nat) → (first : Bool) → List Char →
    Except ReadFault (List Value × List Char)
  | 0, _, _ => .error illFormed
  | depth + 1, first, cs =>
    match first, cs with
    | true, ']' :: rest => .ok ([], rest)
    | _, _ => do
      let (item, after) ← readValue depth cs
      match skip after with
      | ',' :: rest =>
        let (items, after) ← readItems depth false (skip rest)
        return (item :: items, after)
      | ']' :: rest => return ([item], rest)
      | _ => throw illFormed

/-- The members of an object up to its closing brace. -/
def readMembers : (depth : Nat) → (first : Bool) → List Char →
    Except ReadFault (List (Value × Value) × List Char)
  | 0, _, _ => .error illFormed
  | depth + 1, first, cs =>
    match first, cs with
    | true, '\x7d' :: rest => .ok ([], rest)
    | _, '"' :: rest => do
      let (key, after) ← stringBody rest
      match skip after with
      | ':' :: rest =>
        let (value, after) ← readValue depth (skip rest)
        let entry : Value × Value := (.text (String.ofList key), value)
        match skip after with
        | ',' :: rest =>
          let (entries, after) ← readMembers depth false (skip rest)
          return (entry :: entries, after)
        | '\x7d' :: rest => return ([entry], rest)
        | _ => throw illFormed
      | _ => throw illFormed
    | _, _ => .error illFormed

end

/-- The value of a text. A step into a value, an item or a member uses up a character at least, so
the length of the text bounds the depth. -/
def parse (cs : List Char) : Except ReadFault Value :=
  if cs.head? = some '\ufeff' then
    .error illFormed
  else do
    let (value, after) ← readValue (2 * cs.length + 2) (skip cs)
    if (skip after).isEmpty then return value else throw illFormed

end Json

end NameRouting.Reader
