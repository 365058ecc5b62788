import VersionedText.Hexadecimal
import VersionedText.Toml

namespace VersionedText.Toml

/-!
# TOML numbers and times

Integers have 64 bits and a sign and may be written in four bases; underscores
may stand between digits.  Floats and times are only recognised.  A reader takes
what it needs and returns the rest.
-/

/-- Digits with single underscores between them, then the rest. -/
def digits? (isDigit : Char → Bool) (input : List Char) : Option (List Char × List Char) :=
  let (run, rest) := input.span fun character => isDigit character || character == '_'
  let separated := run.splitBy fun before after => before != '_' || after != '_'
  if run.isEmpty || run.head? == some '_' || run.getLast? == some '_' ||
      separated.length != 1 then
    none
  else
    some (run.filter (· != '_'), rest)

/-- A digit of the given base. -/
def isDigitOf (base : Nat) (character : Char) : Bool :=
  (Hexadecimal.value? character).any (· < base)

/-- The number that digits of a base stand for. -/
def valueOf (base : Nat) (digits : List Char) : Nat :=
  digits.foldl (fun value digit => base * value + (Hexadecimal.value? digit).getD 0) 0

/-- The integers of 64 bits with a sign. -/
def fitsInteger (value : Int) : Bool :=
  -(Nat.pow 2 63 : Int) ≤ value && value < (Nat.pow 2 63 : Int)

/-- An optional sign, and whether it was a minus. -/
def sign : List Char → Bool × List Char
  | '+' :: rest => (false, rest)
  | '-' :: rest => (true, rest)
  | input => (false, input)

/-- Decimal digits without a leading zero. -/
def wholePart? (input : List Char) : Option (List Char × List Char) :=
  match digits? Char.isDigit input with
  | some ('0' :: _ :: _, _) => none
  | found => found

/-- An integer that fits its 64 bits. -/
def fittingInteger? (value : Int) (rest : List Char) : Option (Value × List Char) :=
  if fitsInteger value then some (.integer value, rest) else none

/-- An integer whose base has been named. -/
def integerOfBase? (base : Nat) (input : List Char) : Option (Value × List Char) := do
  let (digits, rest) ← digits? (isDigitOf base) input
  fittingInteger? (valueOf base digits) rest

/-- An integer in any base. -/
def integer? (input : List Char) : Option (Value × List Char) :=
  match input with
  | '0' :: 'x' :: rest => integerOfBase? 16 rest
  | '0' :: 'o' :: rest => integerOfBase? 8 rest
  | '0' :: 'b' :: rest => integerOfBase? 2 rest
  | _ => do
      let (negative, unsigned) := sign input
      let (digits, rest) ← wholePart? unsigned
      let magnitude := (valueOf 10 digits : Int)
      fittingInteger? (if negative then -magnitude else magnitude) rest

/--
Whether digits with a decimal exponent round to infinity as a double.  Only
numbers of about three hundred places have to be compared exactly.
-/
def overflows (digits : List Char) (exponent : Int) : Bool :=
  let significant := digits.dropWhile (· == '0')
  let places := (significant.length : Int) + exponent
  if significant.isEmpty || places < 300 then
    false
  else if 400 < places then
    true
  else if 0 ≤ exponent then
    Nat.pow 2 1024 - Nat.pow 2 970 ≤ valueOf 10 significant * Nat.pow 10 exponent.toNat
  else
    (Nat.pow 2 1024 - Nat.pow 2 970) * Nat.pow 10 (-exponent).toNat ≤ valueOf 10 significant

/-- A decimal fraction with its point, if there is one. -/
def fraction? : List Char → Option (List Char × List Char)
  | '.' :: rest => digits? Char.isDigit rest
  | input => some ([], input)

/-- An exponent, if there is one. -/
def exponent? : List Char → Option (Option Int × List Char)
  | [] => some (none, [])
  | mark :: rest =>
      if mark == 'e' || mark == 'E' then do
        let (negative, unsigned) := sign rest
        let (digits, rest) ← digits? Char.isDigit unsigned
        let magnitude := (valueOf 10 digits : Int)
        return (some (if negative then -magnitude else magnitude), rest)
      else
        some (none, mark :: rest)

/-- A float: digits with a fraction, an exponent, or both; a positive one has to be finite. -/
def float? (input : List Char) : Option (Value × List Char) := do
  let (negative, unsigned) := sign input
  let (whole, afterWhole) ← wholePart? unsigned
  let (fraction, afterFraction) ← fraction? afterWhole
  let (exponent, rest) ← exponent? afterFraction
  if fraction.isEmpty && exponent.isNone then
    none
  else if !negative && overflows (whole ++ fraction) (exponent.getD 0 - fraction.length) then
    none
  else
    some (.float, rest)

/-- The floats that are words, with or without a sign. -/
def specialFloat? (input : List Char) : Option (Value × List Char) :=
  let (_, unsigned) := sign input
  match unsigned with
  | 'i' :: 'n' :: 'f' :: rest => some (.float, rest)
  | 'n' :: 'a' :: 'n' :: rest => some (.float, rest)
  | _ => none

/-- A number of exactly so many digits between two bounds. -/
def fixedNumber? (width low high : Nat) (input : List Char) : Option (Nat × List Char) :=
  let digits := input.take width
  let value := valueOf 10 digits
  if digits.length == width && digits.all Char.isDigit && low ≤ value && value ≤ high then
    some (value, input.drop width)
  else
    none

/-- An expected character. -/
def mark? (expected : Char) : List Char → Option (List Char)
  | [] => none
  | character :: rest => if character == expected then some rest else none

/-- Number of days of a month. -/
def daysIn (year month : Nat) : Nat :=
  if month == 2 then
    if year % 4 == 0 && (year % 100 != 0 || year % 400 == 0) then 29 else 28
  else if [4, 6, 9, 11].contains month then
    30
  else
    31

/-- A calendar date. -/
def date? (input : List Char) : Option (List Char) := do
  let (year, rest) ← fixedNumber? 4 0 9999 input
  let rest ← mark? '-' rest
  let (month, rest) ← fixedNumber? 2 1 12 rest
  let rest ← mark? '-' rest
  let (_, rest) ← fixedNumber? 2 1 (daysIn year month) rest
  return rest

/-- A fraction of a second, if there is one. -/
def secondFraction (input : List Char) : List Char :=
  match input with
  | '.' :: digit :: rest => if digit.isDigit then rest.dropWhile Char.isDigit else input
  | _ => input

/-- A time of day. -/
def clock? (input : List Char) : Option (List Char) := do
  let (_, rest) ← fixedNumber? 2 0 23 input
  let rest ← mark? ':' rest
  let (_, rest) ← fixedNumber? 2 0 59 rest
  let rest ← mark? ':' rest
  let (_, rest) ← fixedNumber? 2 0 60 rest
  return secondFraction rest

/-- An offset from universal time, if there is one. -/
def zone (input : List Char) : List Char :=
  match input with
  | [] => []
  | first :: rest =>
      if first == 'Z' || first == 'z' then
        rest
      else if first == '+' || first == '-' then
        (do
          let (_, rest) ← fixedNumber? 2 0 23 rest
          let rest ← mark? ':' rest
          let (_, rest) ← fixedNumber? 2 0 59 rest
          return rest).getD input
      else
        input

/-- A date, a time, or both with or without an offset. -/
def time? (input : List Char) : Option (Value × List Char) :=
  match date? input with
  | some rest =>
      match rest with
      | first :: more =>
          if first == 'T' || first == 't' || first == ' ' then
            match clock? more with
            | some rest => some (.time, zone rest)
            | none => some (.time, first :: more)
          else
            some (.time, first :: more)
      | [] => some (.time, [])
  | none => (clock? input).map fun rest => (.time, rest)

/-- A number or a time. -/
def numeral? (input : List Char) : Option (Value × List Char) :=
  time? input <|> float? input <|> specialFloat? input <|> integer? input

end VersionedText.Toml
