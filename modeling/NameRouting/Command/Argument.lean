import NameRouting.Text.Digit
import NameRouting.Text.Pieces

/-!
# Arguments of a command line

An argument is a flag, possibly with a value attached to it, or plain. A flag is written with two
hyphens and a word, which may be cut short as long as it stays unambiguous, or with one hyphen and
a letter. Two hyphens alone make all arguments after them plain.
-/

namespace NameRouting.Command

/-- What a flag asks for. -/
inductive Flag where
  | help
  | config
  | override
  | logLevel
  | logFile
deriving DecidableEq, Inhabited, Repr

/-- Why a command line does not become an invocation: it asks for help, or it is malformed. -/
inductive Refusal where
  | help
  | misuse
deriving DecidableEq, Inhabited, Repr

/-- The exit code of a refusal. -/
def Refusal.code : Refusal → Nat
  | help => 0
  | misuse => 2

/-- A flag as it is written. -/
structure Spelling where
  text : List Char
  flag : Flag
deriving Inhabited, Repr

/-- A flag with one hyphen and a letter. -/
def Spelling.short (letter : Char) (flag : Flag) : Spelling :=
  ⟨['-', letter], flag⟩

/-- A flag with two hyphens and a word. -/
def Spelling.long (word : String) (flag : Flag) : Spelling :=
  ⟨'-' :: '-' :: word.toList, flag⟩

/-- A flag that was recognised: whether it has one hyphen, and the value that is attached. -/
structure Flagged where
  short : Bool
  flag : Flag
  attached : Option (List Char)
deriving Inhabited, Repr

/-- What an argument is. -/
inductive Piece where
  | plain
  /-- Two hyphens alone. -/
  | divider
  | flagged (found : Flagged)
  /-- It looks like a flag and is none. -/
  | unknown
deriving Inhabited, Repr

/-- The flag that is spelled exactly so. -/
def exactFlag? (spellings : List Spelling) (text : List Char) : Option Flag :=
  (spellings.find? (·.text == text)).map (·.flag)

/-- The digits at the beginning of a text, and what follows them. -/
def spanDigits (cs : List Char) : List Char × List Char :=
  cs.span fun c => (Text.digitValue? c).isSome

/-- Whether a text is a negative number; a line end may follow it. -/
def isNegativeNumber (cs : List Char) : Bool :=
  let atEnd (rest : List Char) : Bool := rest == [] || rest == ['\n']
  match cs with
  | '-' :: rest =>
    match spanDigits rest with
    | (_, '.' :: fraction) =>
      let (digits, after) := spanDigits fraction
      !digits.isEmpty && atEnd after
    | (whole, after) => !whole.isEmpty && atEnd after
  | _ => false

/-- The flags that an argument may mean, when no flag is spelled exactly like it: with two hyphens,
those that begin like the part in front of an equals sign; with one hyphen, the letter that what
follows is attached to. -/
def candidates (spellings : List Spelling) (arg : List Char) : List Flagged :=
  match arg with
  | '-' :: '-' :: _ =>
    let (front, attached) := Text.cutAt '=' arg
    (spellings.filter fun spelling => front.isPrefixOf spelling.text).map fun spelling =>
      ⟨false, spelling.flag, attached⟩
  | '-' :: letter :: rest =>
    ((spellings.filter (·.text == ['-', letter])).map fun spelling =>
      ⟨true, spelling.flag, some rest⟩)
  | _ => []

/-- What an argument in front of a divider is; an ambiguous one is refused. -/
def classify (spellings : List Spelling) (arg : List Char) : Except Refusal Piece :=
  match arg with
  | '-' :: next :: _ =>
    let short := next != '-'
    match exactFlag? spellings arg with
    | some flag => .ok (.flagged ⟨short, flag, none⟩)
    | none =>
      match Text.cutAt '=' arg with
      | (front, some value) =>
        match exactFlag? spellings front with
        | some flag => .ok (.flagged ⟨short, flag, some value⟩)
        | none => choose (candidates spellings arg)
      | (_, none) => choose (candidates spellings arg)
  | _ => .ok .plain
where
  /-- Takes the only candidate; without one, numbers and texts with a blank are plain. -/
  choose : List Flagged → Except Refusal Piece
    | [] => .ok (if isNegativeNumber arg || arg.contains ' ' then .plain else .unknown)
    | [found] => .ok (.flagged found)
    | _ => .error .misuse

/-- The arguments of a command line with what each of them is. -/
def pieces (spellings : List Spelling) : List String → Except Refusal (List (String × Piece))
  | [] => .ok []
  | arg :: rest =>
    if arg = "--" then
      .ok ((arg, .divider) :: rest.map fun other => (other, .plain))
    else
      match classify spellings arg.toList with
      | .error refusal => .error refusal
      | .ok piece => (pieces spellings rest).map ((arg, piece) :: ·)

/-- What a flag that asks for help comes to. Letters that are attached to it with one hyphen are
flags themselves; a flag with a value needs one, attached or in the next argument, before help is
given. -/
def helpOutcome (spellings : List Spelling) (short nextIsPlain : Bool) : List Char → Refusal
  | [] => .help
  | letter :: rest =>
    if !short then
      .misuse
    else
      match exactFlag? spellings ['-', letter] with
      | none => .misuse
      | some .help => helpOutcome spellings short nextIsPlain rest
      | some _ => if !rest.isEmpty || nextIsPlain then .help else .misuse

/-- What a recognised flag that asks for help comes to. -/
def Flagged.help (found : Flagged) (spellings : List Spelling) (nextIsPlain : Bool) : Refusal :=
  match found.attached with
  | none => .help
  | some [] => .misuse
  | some letters => helpOutcome spellings found.short nextIsPlain letters

end NameRouting.Command
