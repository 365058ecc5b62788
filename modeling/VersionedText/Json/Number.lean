import VersionedText.Json

namespace VersionedText.Json

/-!
# Reading JSON numbers

The digits of a number are gathered in a significand of 64 bits with a power of
ten; digits that no longer fit are dropped.  A number with a fraction or an
exponent, or too great for an integer, is the rounded significand times or over
the rounded power of ten, and so may be off the nearest floating point number in
its last place.
-/

namespace Number

/-- A number as far as it has been read: `significand · 10 ^ power`. -/
structure Draft where
  significand : Nat
  power : Int
  /-- Whether a digit has been dropped. -/
  isCut : Bool
  deriving Repr, DecidableEq

namespace Draft

/-- Significands are below this bound. -/
def bound : Nat :=
  Nat.pow 2 64

/-- The significand with a further digit, if that fits. -/
def append? (draft : Draft) (digit : Char) : Option Nat :=
  let grown := 10 * draft.significand + (digit.toNat - '0'.toNat)
  if grown < bound then some grown else none

/-- Take a digit before the point; once one is dropped, so are all that follow. -/
def takeWhole (draft : Draft) (digit : Char) : Draft :=
  match if draft.isCut then none else draft.append? digit with
  | some significand => { draft with significand := significand }
  | none => { draft with power := draft.power + 1, isCut := true }

/-- Take a digit behind the point; once one is dropped, so are all that follow. -/
def takeFraction (draft : Draft) (digit : Char) : Draft :=
  match if draft.isCut then none else draft.append? digit with
  | some significand => { draft with significand := significand, power := draft.power - 1 }
  | none => { draft with isCut := true }

/-- The digits before the point. -/
def ofWhole (digits : List Char) : Draft :=
  digits.foldl takeWhole ⟨0, 0, false⟩

/-- The digits behind the point, which are counted afresh. -/
def withFraction (draft : Draft) (digits : List Char) : Draft :=
  digits.foldl takeFraction { draft with isCut := false }

end Draft

/-- The greatest power of ten that is a number. -/
def greatestPower : Nat :=
  308

/-- A power of ten, rounded. -/
def powerOfTen? (power : Nat) : Option Binary64 :=
  Binary64.ofQuotient? false (Nat.pow 10 power) 1

/-- Divide by a power of ten in steps that are numbers; what has come to nothing stays so. -/
def divideByPower? : Nat → Binary64 → Nat → Option Binary64
  | 0, number, _ => some number
  | budget + 1, number, power =>
      if power ≤ greatestPower then do
        number.divide? (← powerOfTen? power)
      else if number.isZero then
        some number
      else do
        let quotient ← number.divide? (← powerOfTen? greatestPower)
        divideByPower? budget quotient (power - greatestPower)

/-- Two steps bring every significand to nothing; a third is always the last. -/
def mostSteps : Nat :=
  4

/-- The number that a significand and a power of ten stand for, unless it is too great. -/
def scale? (significand : Nat) (power : Int) : Option Binary64 := do
  let number ← Binary64.ofQuotient? false significand 1
  match power with
  | .ofNat power =>
      if power ≤ greatestPower then
        number.multiply? (← powerOfTen? power)
      else if number.isZero then
        some number
      else
        none
  | .negSucc power => divideByPower? mostSteps number (power + 1)

/-- Exponents from here on are not computed with. -/
def exponentBound : Nat :=
  Nat.pow 2 31

/-- The number of a draft under a written exponent. -/
def applyExponent? (draft : Draft) (isNegative : Bool) (exponent : Nat) : Option Binary64 :=
  if exponent < exponentBound then
    scale? draft.significand (if isNegative then draft.power - exponent else draft.power + exponent)
  else if isNegative || draft.significand == 0 then
    some (.zero false)
  else
    none

end Number

namespace Reader

/-- Value of a run of decimal digits. -/
def decimalValue (digits : List Char) : Nat :=
  digits.foldl (fun value digit => 10 * value + (digit.toNat - '0'.toNat)) 0

/-- At least one digit, then the rest. -/
def digits? (input : List Char) : Option (List Char × List Char) :=
  match input.span Char.isDigit with
  | ([], _) => none
  | found => some found

/-- Digits without a leading zero, then the rest. -/
def wholePart? (input : List Char) : Option (List Char × List Char) :=
  match digits? input with
  | some ('0' :: _ :: _, _) => none
  | found => found

/-- The digits behind a point, if there is one. -/
def fraction? : List Char → Option (Option (List Char) × List Char)
  | '.' :: rest => (digits? rest).map fun found => (some found.1, found.2)
  | input => some (none, input)

/-- Whether an exponent is negative, and its value, if there is one. -/
def exponent? : List Char → Option (Option (Bool × Nat) × List Char)
  | [] => some (none, [])
  | mark :: rest =>
      if mark == 'e' || mark == 'E' then do
        let (isNegative, unsigned) :=
          match rest with
          | '-' :: more => (true, more)
          | '+' :: more => (false, more)
          | _ => (false, rest)
        let (digits, rest) ← digits? unsigned
        return (some (isNegative, decimalValue digits), rest)
      else
        some (none, mark :: rest)

/-- The value of a number from its parts. -/
def assemble?
    (isNegative : Bool)
    (whole : List Char)
    (fraction : Option (List Char))
    (exponent : Option (Bool × Nat)) :
    Option Json :=
  let magnitude := (decimalValue whole : Int)
  let value := if isNegative then -magnitude else magnitude
  let isInteger :=
    fraction.isNone && exponent.isNone && fitsWord value && !(isNegative && value == 0)
  if isInteger then
    some (.integer value)
  else do
    let draft := (Number.Draft.ofWhole whole).withFraction (fraction.getD [])
    let (exponentIsNegative, exponent) := exponent.getD (false, 0)
    let number ← Number.applyExponent? draft exponentIsNegative exponent
    return .float (number.withSign isNegative)

/-- A number. -/
def number? (input : List Char) : Option (Json × List Char) := do
  let (isNegative, unsigned) :=
    match input with
    | '-' :: rest => (true, rest)
    | _ => (false, input)
  let (whole, rest) ← wholePart? unsigned
  let (fraction, rest) ← fraction? rest
  let (exponent, rest) ← exponent? rest
  let value ← assemble? isNegative whole fraction exponent
  return (value, rest)

end Reader

end VersionedText.Json
