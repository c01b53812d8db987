/-!
# Binary numbers

A finite number of 64 bits is a sign, a whole number below `2 ^ 53` and a power of two. Here such
numbers are taken apart and put together, and a fraction is rounded to the nearest of them, a tie
going to the even neighbour.
-/

namespace NameRouting.Decimal

/-- The power of two with an exponent. -/
def twoTo (exponent : Nat) : Nat :=
  Nat.pow 2 exponent

/-- The power of ten with an exponent. -/
def tenTo (exponent : Nat) : Nat :=
  Nat.pow 10 exponent

/-- What a number of 64 bits stands for: `± mantissa * 2 ^ exponent`, an infinity or no number. -/
inductive Binary where
  | finite (negative : Bool) (mantissa : Nat) (exponent : Int)
  | infinite (negative : Bool)
  | notANumber
deriving DecidableEq, Inhabited, Repr

/-- Takes a number apart. -/
def Binary.ofFloat (x : Float) : Binary :=
  let bits : Nat := x.toBits.toNat
  let negative := bits / twoTo 63 == 1
  let biased : Nat := bits / twoTo 52 % twoTo 11
  let fraction : Nat := bits % twoTo 52
  if biased == 2047 then
    if fraction == 0 then .infinite negative else .notANumber
  else if biased == 0 then
    .finite negative fraction (-1074)
  else
    .finite negative (fraction + twoTo 52) ((biased : Int) - 1075)

/-- The nearest whole number to `num / den`, a tie going to the even neighbour. -/
def nearestEven (num den : Nat) : Nat :=
  let whole := num / den
  let twice := 2 * (num % den)
  if twice < den then whole
  else if den < twice then whole + 1
  else whole + whole % 2

/-- The bits of the number nearest to the positive fraction `num / den`: the exponent is chosen so
that the mantissa has 53 bits, or the least exponent when that would be smaller. -/
def nearestBits (num den : Nat) : Nat :=
  let estimate : Int := (num.log2 : Int) - den.log2 - 52
  let scaled (e : Int) : Nat × Nat := (num * twoTo (-e).toNat, den * twoTo e.toNat)
  let exact : Int :=
    let (n, d) := scaled estimate
    if n / d < twoTo 52 then estimate - 1 else estimate
  let e := max exact (-1074)
  let (n, d) := scaled e
  let mantissa := nearestEven n d
  let (mantissa, e) := if mantissa == twoTo 53 then (twoTo 52, e + 1) else (mantissa, e)
  if e > 971 then 2047 * twoTo 52
  else if mantissa < twoTo 52 then mantissa
  else (e + 1075).toNat * twoTo 52 + (mantissa - twoTo 52)

/-- The number nearest to `± digits * 10 ^ exponent`. -/
def ofDecimal (negative : Bool) (digits : Nat) (exponent : Int) : Float :=
  let size : Int := (Nat.toDigits 10 digits).length + exponent
  let bits :=
    if digits == 0 || size < -340 then 0
    else if size > 320 then 2047 * twoTo 52
    else nearestBits (digits * tenTo exponent.toNat) (tenTo (-exponent).toNat)
  Float.ofBits (UInt64.ofNat (if negative then bits + twoTo 63 else bits))

/-- The whole part of a number, toward zero; there is none for an infinity and for no number. -/
def truncated? (x : Float) : Option Int :=
  match Binary.ofFloat x with
  | .finite negative mantissa exponent =>
    let magnitude : Nat := mantissa * twoTo exponent.toNat / twoTo (-exponent).toNat
    some (if negative then -(magnitude : Int) else magnitude)
  | _ => none

/-- Whether a number is exactly the given whole number. -/
def isExactly (x : Float) (n : Int) : Bool :=
  match Binary.ofFloat x with
  | .finite negative mantissa exponent =>
    let left : Int := mantissa * twoTo exponent.toNat
    let right : Int := n * twoTo (-exponent).toNat
    (if negative then -left else left) == right
  | _ => false

end NameRouting.Decimal
