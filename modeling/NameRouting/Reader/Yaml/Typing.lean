import NameRouting.Reader.Yaml.Node
import NameRouting.Text.Blank
import NameRouting.Text.Lowercase

/-!
# Typed values

A plain scalar is a number, a truth value or nothing when it is written like one, and a text
otherwise; a quoted scalar is a text. Keys of mappings have types as well, and must not be
collections. The key `<<` takes over the entries of other mappings.
-/

namespace NameRouting.Reader.Yaml

/-- A tag of the standard. -/
def standardTag (name : String) : List Char :=
  ("tag:yaml.org,2002:" ++ name).toList

/-- Takes the sign off a number. -/
def takeSign : List Char → Bool × List Char
  | '-' :: rest => (true, rest)
  | '+' :: rest => (false, rest)
  | cs => (false, cs)

/-- A digit, or the low line that may stand between digits. -/
def isGrouped (isDigit : Char → Bool) (c : Char) : Bool :=
  isDigit c || c == '_'

/-- The text without the low lines between digits. -/
def ungrouped (cs : List Char) : List Char :=
  cs.filter (· != '_')

/-- A number has neither a sign nor a digit in front. -/
def noFirst : ReadFault :=
  .raised (.other "IndexError" "string index out of range")

/-- The value of a digit below a base. -/
def digitBelow? (base : Nat) (c : Char) : Option Nat :=
  ((Text.digitValue? c).or (Json.hexValue? c)).filter (· < base)

/-- The whole number that a text writes in a base: blanks may stand around it, a sign in front, and
then the mark of the base. -/
def wholeLiteral (base : Nat) (cs : List Char) : Except ReadFault Int :=
  let (negative, signless) := takeSign (Text.trim cs)
  let mark := if base = 2 then 'b' else if base = 8 then 'o' else 'x'
  let digits :=
    match signless with
    | '0' :: c :: rest => if base ≠ 10 && c.toLower == mark then rest else signless
    | _ => signless
  match digits.mapM (digitBelow? base) with
  | none | some [] =>
    .error (noValue ("invalid literal for int() with base " ++ toString base ++ ": " ++
      Text.quoted (String.ofList cs)))
  | some values =>
    if base = 10 && values.length > Text.digitLimit then
      .error (noValue (UriFault.digitLimit values.length))
    else
      let n : Nat := values.foldl (base * · + ·) 0
      .ok (if negative then -n else n)

/-- The whole number that a scalar with the type of whole numbers writes. -/
def wholeValue (content : List Char) : Except ReadFault Value :=
  let text := ungrouped content
  let (negative, digits) := takeSign text
  let found : Except ReadFault Int :=
    if text.isEmpty || digits.isEmpty then
      .error noFirst
    else if digits == ['0'] then
      .ok 0
    else
      match digits with
      | '0' :: 'b' :: rest => wholeLiteral 2 rest
      | '0' :: 'x' :: rest => wholeLiteral 16 rest
      | '0' :: _ => wholeLiteral 8 digits
      | _ =>
        ((Text.pieces ':' digits).mapM (wholeLiteral 10)).map
          (·.foldl (fun n part => 60 * n + part) 0)
  found.map fun n => .int (if negative then -n else n)

/-- A part of a number in base sixty: one or two digits below sixty. -/
def isSixtieth (cs : List Char) : Bool :=
  match cs with
  | [c] => c.isDigit
  | [c, d] => '0' ≤ c && c ≤ '5' && d.isDigit
  | _ => false

/-- A digit of base eight. -/
def isOctalDigit (c : Char) : Bool :=
  '0' ≤ c && c ≤ '7'

/-- Whether a plain scalar is written like a whole number. -/
def isWhole (cs : List Char) : Bool :=
  match (takeSign cs).2 with
  | [] => false
  | ['0'] => true
  | '0' :: 'b' :: rest => !rest.isEmpty && rest.all (isGrouped fun c => c == '0' || c == '1')
  | '0' :: 'x' :: rest => !rest.isEmpty && rest.all (isGrouped Uri.isHexDigit)
  | '0' :: rest => rest.all (isGrouped isOctalDigit)
  | c :: rest =>
    match Text.pieces ':' (c :: rest) with
    | first :: others => c.isDigit && first.all (isGrouped Char.isDigit) && others.all isSixtieth
    | [] => false

/-- The digits behind a mark, when there are some, and what follows them. -/
def exponent (cs : List Char) : Option (Int × List Char) :=
  match cs with
  | [] => some (0, [])
  | mark :: rest =>
    let (negative, digits) := takeSign rest
    let (digits, after) := digits.span Char.isDigit
    if mark == 'e' || mark == 'E' then
      (Text.natural? digits).map fun n => (if negative then -(n : Int) else n, after)
    else
      none

/-- The number that a text writes in decimal digits, perhaps with a fraction and an exponent; there
are words for infinity and for no number. -/
def fractionLiteral (cs : List Char) : Except ReadFault Float :=
  let (negative, signless) := takeSign (Text.trim cs)
  let word := String.ofList (Text.lowercase signless)
  let magnitude? : Option Float :=
    if word == "inf" || word == "infinity" then
      some (1.0 / 0.0)
    else if word == "nan" then
      some (0.0 / 0.0)
    else
      let (front, rest) := signless.span Char.isDigit
      let (back, rest) :=
        match rest with
        | '.' :: tail => tail.span Char.isDigit
        | _ => ([], rest)
      match Text.natural? (front ++ back), exponent rest with
      | some digits, some (power, []) =>
        some (Decimal.ofDecimal false digits (power - back.length))
      | _, _ => none
  match magnitude? with
  | some x => .ok (if negative then -x else x)
  | none =>
    .error (noValue ("could not convert string to float: " ++ Text.quoted (String.ofList cs)))

/-- The number that a scalar with the type of numbers with a fraction writes. -/
def fractionValue (content : List Char) : Except ReadFault Value :=
  let text := Text.lowercase (ungrouped content)
  let (negative, digits) := takeSign text
  let found : Except ReadFault Float :=
    if text.isEmpty then
      .error noFirst
    else if digits == ".inf".toList then
      .ok (1.0 / 0.0)
    else if digits == ".nan".toList then
      .ok (0.0 / 0.0)
    else
      ((Text.pieces ':' digits).mapM fractionLiteral).map fun parts =>
        (parts.reverse.foldl (fun (sum, unit) part =>
          (sum + part * Float.ofNat unit, unit * 60)) ((0.0 : Float), 1)).1
  found.map fun x => .float (if negative then -x else x)

/-- Whether a text is the end of a number behind its point: digits, and perhaps an exponent, which
must have a sign. -/
def isTail (cs : List Char) : Bool :=
  match cs.dropWhile (isGrouped Char.isDigit) with
  | [] => true
  | mark :: sign :: digits =>
    (mark == 'e' || mark == 'E') && (sign == '-' || sign == '+') && !digits.isEmpty &&
      digits.all Char.isDigit
  | _ => false

/-- Whether a plain scalar is written like a number with a fraction. -/
def isFraction (cs : List Char) : Bool :=
  let digits := (takeSign cs).2
  [".inf", ".Inf", ".INF"].contains (String.ofList digits) ||
    [".nan", ".NaN", ".NAN"].contains (String.ofList cs) ||
    match Text.cutAt '.' digits with
    | (_, none) => false
    | ([], some tail) => cs.head? == some '.' && tail.head?.any Char.isDigit && isTail tail
    | (front, some tail) =>
      match Text.pieces ':' front with
      | first :: others =>
        first.head?.any Char.isDigit && first.all (isGrouped Char.isDigit) &&
          others.all isSixtieth &&
          if others.isEmpty then isTail tail else tail.all (isGrouped Char.isDigit)
      | [] => false

/-- The words for nothing. -/
def nullWords : List String :=
  ["", "~", "null", "Null", "NULL"]

/-- The words for truth. -/
def trueWords : List String :=
  ["yes", "Yes", "YES", "true", "True", "TRUE", "on", "On", "ON"]

/-- The words for falsehood. -/
def falseWords : List String :=
  ["no", "No", "NO", "false", "False", "FALSE", "off", "Off", "OFF"]

/-- The value of a plain scalar. The word for a default value has none. -/
def plainValue (cs : List Char) : Except ReadFault Value :=
  let word := String.ofList cs
  if nullWords.contains word then .ok .null
  else if trueWords.contains word then .ok (.bool true)
  else if falseWords.contains word then .ok (.bool false)
  else if word == "=" || word == "<<" then .error illFormed
  else if isWhole cs then wholeValue cs
  else if isFraction cs then fractionValue cs
  else .ok (.text word)

/-- The truth value that a scalar with the type of truth values writes. -/
def truthValue (content : List Char) : Except ReadFault Value :=
  let word := String.ofList (Text.lowercase content)
  if trueWords.contains word then .ok (.bool true)
  else if falseWords.contains word then .ok (.bool false)
  else .error (.raised (.other "KeyError" (Text.quoted word)))

/-- Whether a text is written like a date, perhaps with a time behind it. -/
def isMoment (cs : List Char) : Bool :=
  match Text.pieces '-' cs with
  | year :: month :: day :: _ =>
    year.length == 4 && year.all Char.isDigit && !month.isEmpty && month.length ≤ 2 &&
      month.all Char.isDigit && day.head?.any Char.isDigit
  | _ => false

/-- The value of a scalar. -/
def scalarValue (tag : Option (List Char)) (content : List Char) (plain : Bool) :
    Except ReadFault Value :=
  match tag with
  | none => if plain then plainValue content else .ok (.text (String.ofList content))
  | some tag =>
    if tag == standardTag "str" then .ok (.text (String.ofList content))
    else if tag == standardTag "null" then .ok .null
    else if tag == standardTag "bool" then truthValue content
    else if tag == standardTag "int" then wholeValue content
    else if tag == standardTag "float" then fractionValue content
    else if tag == standardTag "timestamp" then
      if isMoment content then .ok (.text (String.ofList content))
      else
        .error (.raised (.other "AttributeError"
          "'NoneType' object has no attribute 'groupdict'"))
    else .error illFormed

/-- Whether a key takes over entries of other mappings. -/
def isMerge : Node → Bool
  | .scalar none content plain => plain && content == ['<', '<']
  | .scalar (some tag) _ _ => tag == standardTag "merge"
  | _ => false

/-- Whether a key is the word for a default value, which is a text among keys. -/
def isDefault : Node → Bool
  | .scalar none content plain => plain && content == ['=']
  | _ => false

/-- Whether a collection has the tag of its kind, or none. -/
def fitsTag (tag : Option (List Char)) (name : String) : Bool :=
  tag.all (· == standardTag name)

mutual

/-- The value of a node. -/
def nodeValue : Node → Except ReadFault Value
  | .scalar tag content plain => scalarValue tag content plain
  | .sequence tag items =>
    if fitsTag tag "seq" then do
      return .list (← itemValues items)
    else
      .error illFormed
  | .mapping tag entries =>
    if fitsTag tag "map" then do
      let (taken, own) ← entryValues entries
      return Value.ofEntries (taken ++ own)
    else
      .error illFormed

/-- The values of the items of a sequence. -/
def itemValues : List Node → Except ReadFault (List Value)
  | [] => .ok []
  | item :: rest => do
    let value ← nodeValue item
    let values ← itemValues rest
    return value :: values

/-- The entries that a mapping takes over from others, and its own. -/
def entryValues : List (Node × Node) →
    Except ReadFault (List (Value × Value) × List (Value × Value))
  | [] => .ok ([], [])
  | (key, value) :: rest =>
    if isMerge key then do
      let merged ← mergedEntries value
      let (taken, own) ← entryValues rest
      return (merged ++ taken, own)
    else do
      let key ← if isDefault key then pure (.text "=") else nodeValue key
      if !key.canBeKey then
        throw illFormed
      let value ← nodeValue value
      let (taken, own) ← entryValues rest
      return (taken, (key, value) :: own)

/-- The entries of a mapping or of several, of which earlier ones count. -/
def mergedEntries : Node → Except ReadFault (List (Value × Value))
  | .mapping _ entries => do
    let (taken, own) ← entryValues entries
    return taken ++ own
  | .sequence _ items => mergedItems items
  | .scalar _ _ _ => .error illFormed

/-- The entries of several mappings, the last mapping first. -/
def mergedItems : List Node → Except ReadFault (List (Value × Value))
  | [] => .ok []
  | .mapping _ entries :: rest => do
    let others ← mergedItems rest
    let (taken, own) ← entryValues entries
    return others ++ (taken ++ own)
  | _ :: _ => .error illFormed

end

/-- The value of a text; a text without content has none, which counts as nothing. -/
def parse (cs : List Char) : Except ReadFault Value := do
  match ← node? cs with
  | none => return .null
  | some node => nodeValue node

end NameRouting.Reader.Yaml
