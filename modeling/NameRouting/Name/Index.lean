import NameRouting.Text.Blank
import NameRouting.Text.Digit
import NameRouting.Value

/-!
# Values as positions

A component is inserted at a position that may be given by any value that has a whole number:
a truth value, a number, whose fraction is dropped, or a text that writes one.
-/

namespace NameRouting

/-- The digits of a written number; one low line may stand between two of them. -/
def groupedDigits? : List Char → Option (List Nat)
  | [] => none
  | [c] => (Text.digitValue? c).map ([·])
  | c :: '_' :: rest => do
    let digit ← Text.digitValue? c
    let others ← groupedDigits? rest
    return digit :: others
  | c :: rest => do
    let digit ← Text.digitValue? c
    let others ← groupedDigits? rest
    return digit :: others

/-- The whole number that a text writes, with blanks around it and a sign in front. -/
def readWhole (text : String) : Except Fault Int :=
  let inner := Text.trim text.toList
  let (negative, digits) :=
    match inner with
    | '-' :: rest => (true, rest)
    | '+' :: rest => (false, rest)
    | _ => (false, inner)
  match groupedDigits? digits with
  | none => .error (.position (.notANumber text))
  | some found =>
    if found.length > Text.digitLimit then
      .error (.uri (.tooManyDigits found.length))
    else
      .ok (if negative then -(Text.ofDigits found : Int) else Text.ofDigits found)

namespace Value

/-- The whole number that a value has. -/
def toWhole : Value → Except Fault Int
  | bool b => .ok (if b then 1 else 0)
  | int n => .ok n
  | float x =>
    match Decimal.truncated? x with
    | some n => .ok n
    | none => .error (.position (if x.isNaN then .notAFraction else .infinite))
  | text s => readWhole s
  | value => .error (.position (.notConvertible value.kind))

end Value

end NameRouting
