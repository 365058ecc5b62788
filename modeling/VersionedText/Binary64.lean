namespace VersionedText

/-!
# Floating point numbers

A finite number of 64 bits is a sign, a significand below 2⁵³ and a power of two.
Results of arithmetic are exact quotients rounded to the nearest such number; of
two that are equally near, the one with the even significand is taken.
-/

/-- The number `± significand · 2 ^ exponent`. -/
structure Binary64 where
  isNegative : Bool
  significand : Nat
  exponent : Int
  deriving Repr, DecidableEq, Inhabited

namespace Binary64

/-- The least exponent, which the numbers next to zero have. -/
def leastExponent : Int :=
  -1074

/-- The greatest exponent of a finite number. -/
def greatestExponent : Int :=
  971

/-- Significands are below this bound. -/
def significandBound : Nat :=
  Nat.pow 2 53

/-- Zero, with a sign. -/
def zero (isNegative : Bool) : Binary64 :=
  ⟨isNegative, 0, leastExponent⟩

/-- Whether a number is zero, of either sign. -/
def isZero (number : Binary64) : Bool :=
  number.significand == 0

/-- The same magnitude under a sign. -/
def withSign (isNegative : Bool) (number : Binary64) : Binary64 :=
  { number with isNegative := isNegative }

/-- A quotient of whole numbers, rounded to the nearest; a half goes to the even neighbour. -/
def roundQuotient (numerator denominator : Nat) : Nat :=
  let quotient := numerator / denominator
  let excess := 2 * (numerator % denominator)
  if excess < denominator then
    quotient
  else if denominator < excess then
    quotient + 1
  else
    quotient + quotient % 2

/-- A quotient divided by a power of two, as a quotient. -/
def scaleDown (numerator denominator : Nat) (exponent : Int) : Nat × Nat :=
  (numerator * Nat.pow 2 (-exponent).toNat, denominator * Nat.pow 2 exponent.toNat)

/--
The exponent at which a positive quotient has a significand of full length, or
the least exponent if that is greater.
-/
def exponentOf (numerator denominator : Nat) : Int :=
  let guess := (numerator.log2 : Int) - denominator.log2 - 53
  let (upper, lower) := scaleDown numerator denominator guess
  max leastExponent (if upper < significandBound * lower then guess else guess + 1)

/-- The number nearest to a quotient; none if that is not finite. -/
def ofQuotient? (isNegative : Bool) (numerator denominator : Nat) : Option Binary64 :=
  if numerator = 0 then
    some (zero isNegative)
  else
    let exponent := exponentOf numerator denominator
    let (upper, lower) := scaleDown numerator denominator exponent
    let significand := roundQuotient upper lower
    let rounded :=
      if significand < significandBound then
        ⟨isNegative, significand, exponent⟩
      else
        ⟨isNegative, significand / 2, exponent + 1⟩
    if rounded.exponent ≤ greatestExponent then some rounded else none

/-- The magnitude of a number as a quotient of whole numbers. -/
def quotient (number : Binary64) : Nat × Nat :=
  (number.significand * Nat.pow 2 number.exponent.toNat, Nat.pow 2 (-number.exponent).toNat)

/-- The product of two numbers, unless it is too great. -/
def multiply? (first second : Binary64) : Option Binary64 :=
  let (numerator, denominator) := first.quotient
  let (numerator', denominator') := second.quotient
  ofQuotient? (first.isNegative != second.isNegative)
    (numerator * numerator') (denominator * denominator')

/-- The quotient of two numbers, unless it is too great or the divisor is zero. -/
def divide? (first second : Binary64) : Option Binary64 :=
  if second.isZero then
    none
  else
    let (numerator, denominator) := first.quotient
    let (numerator', denominator') := second.quotient
    ofQuotient? (first.isNegative != second.isNegative)
      (numerator * denominator') (denominator * numerator')

end Binary64

end VersionedText
