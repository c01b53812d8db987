import NameRouting.Decimal.Binary

/-!
# Shortest decimal texts

The text of a number has the fewest digits that read back as the same number, and among those the
ones nearest to it. On a decimal grid only the two neighbours of the number have to be tried: when
some point of the grid reads back, one of them does.
-/

namespace NameRouting.Decimal

/-- The decimals that read back as one number, over a common denominator: the number itself, the
two ends, and whether the ends belong to it. -/
structure Interval where
  low : Nat
  value : Nat
  high : Nat
  unit : Nat
  closed : Bool

/-- The decimals that read back as `mantissa * 2 ^ exponent`. -/
def Interval.around (mantissa : Nat) (exponent : Int) : Interval :=
  let quarter := exponent - 2
  let scale := twoTo quarter.toNat
  let below := if mantissa == twoTo 52 && exponent > -1074 then 1 else 2
  { low := (4 * mantissa - below) * scale
    value := 4 * mantissa * scale
    high := (4 * mantissa + 2) * scale
    unit := twoTo (-quarter).toNat
    closed := mantissa % 2 == 0 }

/-- Whether the fraction `num / den` belongs to the interval. -/
def Interval.holds (interval : Interval) (num den : Nat) : Bool :=
  let point := num * interval.unit
  if interval.closed then interval.low * den ≤ point && point ≤ interval.high * den
  else interval.low * den < point && point < interval.high * den

/-- The number of digits in front of the decimal point of `num / den`, negative when zeros follow
the point. -/
def leadingPlace (num den : Nat) : Int :=
  if den ≤ num then
    (Nat.toDigits 10 (num / den)).length
  else
    let zeros : Nat := ((List.range 400).takeWhile fun k => num * tenTo (k + 1) < den).length
    0 - (zeros : Int)

/-- A positive decimal `digits * 10 ^ exponent`. -/
structure Digits where
  digits : Nat
  exponent : Int
deriving DecidableEq, Inhabited, Repr

/-- The neighbour of the value on the grid of `count` digits that reads back and is nearer. -/
def neighbour? (interval : Interval) (place : Int) (count : Nat) : Option Digits :=
  let exponent := place - count
  let up := tenTo exponent.toNat
  let down := tenTo (-exponent).toNat
  let num := interval.value * down
  let den := interval.unit * up
  let lower := num / den
  let rest := num % den
  let takesLower := interval.holds (lower * up) down
  let takesUpper := interval.holds ((lower + 1) * up) down
  let nearer := if 2 * rest == den then lower % 2 == 0 else 2 * rest < den
  if takesLower && (nearer || !takesUpper) then some ⟨lower, exponent⟩
  else if takesUpper then some ⟨lower + 1, exponent⟩
  else none

/-- The shortest digits of the positive number `mantissa * 2 ^ exponent`. -/
def shortest (mantissa : Nat) (exponent : Int) : Digits :=
  let interval := Interval.around mantissa exponent
  let place := leadingPlace interval.value interval.unit
  ((List.range 17).findSome? fun k => neighbour? interval place (k + 1)).getD ⟨0, 0⟩

/-- How a number is written: positionally, with at least one digit on both sides of the point,
while the place of its first digit lies between the two bounds, and otherwise as one digit, the
others behind a point, and an exponent with a sign and at least two digits. -/
structure Style where
  leastPlace : Int
  greatestPlace : Int
  exponentMark : Char
  exponentDigits : Nat

/-- Digits in the given style; `place` counts from the first digit. -/
def Style.write (style : Style) (digits : List Char) (place : Int) : String :=
  let count := digits.length
  String.ofList <|
    if style.leastPlace ≤ place ∧ place ≤ style.greatestPlace then
      if place ≤ 0 then
        '0' :: '.' :: (List.replicate (-place).toNat '0' ++ digits)
      else if place ≥ count then
        digits ++ List.replicate (place - count).toNat '0' ++ ['.', '0']
      else
        digits.take place.toNat ++ '.' :: digits.drop place.toNat
    else
      let power := place - 1
      let powerDigits := Nat.toDigits 10 power.natAbs
      let fraction := digits.drop 1
      digits.take 1 ++ (if fraction.isEmpty then [] else '.' :: fraction) ++
        style.exponentMark :: (if power < 0 then '-' else '+') ::
          (List.replicate (style.exponentDigits - powerDigits.length) '0' ++ powerDigits)

/-- Drops the zeros at the end of a list of digits. -/
def dropTrailingZeros (digits : List Char) : List Char :=
  (digits.reverse.dropWhile (· == '0')).reverse

/-- The notation of numbers in values: positional from `0.0001` up to sixteen digits in front of
the point. -/
def valueStyle : Style :=
  { leastPlace := -3, greatestPlace := 16, exponentMark := 'e', exponentDigits := 2 }

/-- The text of a number. -/
def display (x : Float) : String :=
  match Binary.ofFloat x with
  | .notANumber => "nan"
  | .infinite negative => if negative then "-inf" else "inf"
  | .finite negative mantissa exponent =>
    let text :=
      if mantissa == 0 then "0.0"
      else
        let found := shortest mantissa exponent
        let written := Nat.toDigits 10 found.digits
        valueStyle.write (dropTrailingZeros written) (written.length + found.exponent)
    if negative then "-" ++ text else text

end NameRouting.Decimal
