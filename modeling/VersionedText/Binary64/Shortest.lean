import VersionedText.Binary64

namespace VersionedText.Binary64

/-!
# The shortest decimal of a number

A decimal stands for the number that it rounds to.  Among the decimals of the
fewest digits that stand for a number, the one nearest to it is written; of two
equally near ones, the one with the even last digit.  Decimal places are tried
from one digit on, and on each grid only the two neighbours of the number count.
-/

/-- The decimal `digits · 10 ^ power`. -/
structure Decimal where
  digits : Nat
  power : Int
  deriving Repr, DecidableEq, Inhabited

/--
Four times a number and the distances within which decimals stand for it, all in
units of a quarter of the last binary place: the number, the distance below, the
distance above.
-/
def surroundings (number : Binary64) : Nat × Nat × Nat :=
  let isLowest := number.significand == significandBound / 2 && leastExponent < number.exponent
  (4 * number.significand, if isLowest then 1 else 2, 2)

/-- Whether a decimal, in units of a quarter of the last place, stands for a number. -/
def isMeant (number : Binary64) (numerator denominator : Nat) : Bool :=
  let (centre, below, above) := number.surroundings
  let least := (centre - below) * denominator
  let most := (centre + above) * denominator
  if number.significand % 2 == 0 then
    least ≤ numerator && numerator ≤ most
  else
    least < numerator && numerator < most

/--
The multiples of `10 ^ power` next to a number that stand for it, if there are
any: the nearer one, and of two equally near ones the even one.
-/
def onGrid? (number : Binary64) (power : Int) : Option Decimal :=
  let shift := number.exponent - 2
  -- One step of the grid is `step / unit` quarters of the last binary place.
  let step := Nat.pow 10 power.toNat * Nat.pow 2 (-shift).toNat
  let unit := Nat.pow 10 (-power).toNat * Nat.pow 2 shift.toNat
  let centre := 4 * number.significand * unit
  let low := centre / step
  let high := low + 1
  let lowMeant := number.isMeant (low * step) unit
  let highMeant := number.isMeant (high * step) unit
  let lowDistance := centre - low * step
  let highDistance := high * step - centre
  let preferLow :=
    lowDistance < highDistance || (lowDistance == highDistance && low % 2 == 0)
  if lowMeant && (preferLow || !highMeant) then
    some ⟨low, power⟩
  else if highMeant then
    some ⟨high, power⟩
  else
    none

/-- The digits of a whole number. -/
def digitsOf (number : Nat) : List Char :=
  Nat.toDigits 10 number

/-- The place of the first digit of a positive quotient; the last place before the point is one. -/
def leadingPlace (numerator denominator : Nat) : Int :=
  if denominator ≤ numerator then
    (digitsOf (numerator / denominator)).length
  else
    1 - ((digitsOf ((denominator - 1) / numerator)).length : Int)

/-- Drop trailing zeros, at most so many. -/
def dropZeros : Nat → Decimal → Decimal
  | 0, decimal => decimal
  | most + 1, decimal =>
      if decimal.digits % 10 == 0 then
        dropZeros most ⟨decimal.digits / 10, decimal.power + 1⟩
      else
        decimal

/-- Seventeen digits tell all numbers apart. -/
def mostDigits : Nat :=
  17

/-- The shortest decimal of a number that is not zero. -/
def shortest (number : Binary64) : Decimal :=
  let (numerator, denominator) := number.quotient
  let place := leadingPlace numerator denominator
  let powers := (List.range mostDigits).map fun (count : Nat) => place - count - 1
  dropZeros mostDigits ((powers.findSome? number.onGrid?).getD ⟨0, 0⟩)

/-- The greatest exponent of ten, either way, of numbers that are written without an exponent. -/
def positionalExponents : Int × Int :=
  (-5, 15)

/-- A decimal written with a point, and with at least one digit on each side of it. -/
def positional (decimal : Decimal) : List Char :=
  let digits := digitsOf decimal.digits
  let whole := decimal.power + digits.length
  if 0 ≤ decimal.power then
    digits ++ List.replicate decimal.power.toNat '0' ++ ['.', '0']
  else if 0 < whole then
    digits.take whole.toNat ++ '.' :: digits.drop whole.toNat
  else
    '0' :: '.' :: List.replicate (-whole).toNat '0' ++ digits

/-- A decimal written with one digit before the point and a signed exponent of ten. -/
def scientific (decimal : Decimal) : List Char :=
  let digits := digitsOf decimal.digits
  let exponent := decimal.power + digits.length - 1
  let fraction := if digits.length = 1 then [] else '.' :: digits.drop 1
  let sign := if exponent < 0 then '-' else '+'
  digits.take 1 ++ fraction ++ 'e' :: sign :: digitsOf exponent.natAbs

/-- The magnitude of a number in its shortest form. -/
def magnitudeText (number : Binary64) : List Char :=
  if number.isZero then
    ['0', '.', '0']
  else
    let decimal := number.shortest
    let exponent := decimal.power + (digitsOf decimal.digits).length - 1
    let (least, greatest) := positionalExponents
    if least ≤ exponent ∧ exponent ≤ greatest then
      positional decimal
    else
      scientific decimal

/-- The written form of a number. -/
def text (number : Binary64) : String :=
  String.ofList ((if number.isNegative then ['-'] else []) ++ number.magnitudeText)

end VersionedText.Binary64
