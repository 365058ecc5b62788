namespace VersionedText.Uri.Punycode

/-!
# Punycode

A label outside ASCII is written as its ASCII characters, a hyphen, and a series
of numbers that say which other character stands where.  The characters are
inserted in ascending order; each number counts the places passed since the last
insertion.  Numbers are written in base 36, lowest digit first, and a threshold
that follows the size of the numbers before tells the last digit.
-/

/-- The base of the digits. -/
def base : Nat :=
  36

/-- The character that stands for a digit. -/
def digitOf (value : Nat) : Char :=
  if value < 26 then
    Char.ofNat ('a'.toNat + value)
  else
    Char.ofNat ('0'.toNat + (value - 26))

/-- The digit that a character stands for. -/
def valueOf? (character : Char) : Option Nat :=
  if character.isDigit then
    some (character.toNat - '0'.toNat + 26)
  else if character.isLower then
    some (character.toNat - 'a'.toNat)
  else if character.isUpper then
    some (character.toNat - 'A'.toNat)
  else
    none

/-- The threshold of a digit; places are counted in steps of the base. -/
def threshold (place bias : Nat) : Nat :=
  max 1 (min 26 (place - bias))

theorem one_le_threshold (place bias : Nat) : 1 ≤ threshold place bias := by
  unfold threshold
  omega

/-- Bring a number into the range of the bias, counting the steps. -/
def shrink (number bias : Nat) : Nat :=
  if 455 < number then
    shrink (number / 35) (bias + base)
  else
    bias + 36 * number / (number + 38)
termination_by number
decreasing_by exact Nat.div_lt_self (by omega) (by omega)

/-- The bias after a number, when so many characters are in place. -/
def adapt (number count : Nat) (isFirst : Bool) : Nat :=
  let damped := if isFirst then number / 700 else number / 2
  shrink (damped + damped / count) 0

/-- The digits of a number. -/
def digits (bias place number : Nat) : List Char :=
  let limit := threshold place bias
  if number < limit then
    [digitOf number]
  else
    digitOf (limit + (number - limit) % (base - limit)) ::
      digits bias (place + base) ((number - limit) / (base - limit))
termination_by number
decreasing_by
  have positive := one_le_threshold place bias
  exact Nat.lt_of_le_of_lt (Nat.div_le_self _ _) (by omega)

/-- Where the writing of a label stands. -/
structure Writing where
  /-- The digits so far. -/
  written : List Char
  /-- Places passed since the last insertion. -/
  passed : Nat
  bias : Nat
  /-- Characters in place. -/
  count : Nat

/--
Pass a character of the label while the characters of one number are inserted;
`plain` characters were in place from the start.
-/
def pass (plain inserted : Nat) (writing : Writing) (character : Char) : Writing :=
  if character.toNat < inserted then
    { writing with passed := writing.passed + 1 }
  else if character.toNat = inserted then
    { written := writing.written ++ digits writing.bias base writing.passed
      passed := 0
      bias := adapt writing.passed (writing.count + 1) (writing.count == plain)
      count := writing.count + 1 }
  else
    writing

/-- Insert the characters of the given numbers, which ascend from `next` on. -/
def insertAll (label : List Char) (plain : Nat) :
    List Nat → Nat → Writing → Writing
  | [], _, writing => writing
  | number :: rest, next, writing =>
      let skipped := { writing with
        passed := writing.passed + (number - next) * (writing.count + 1) }
      let after := label.foldl (pass plain number) skipped
      insertAll label plain rest (number + 1) { after with passed := after.passed + 1 }

/-- Put a number in its place among ascending ones, once. -/
def insertOnce (number : Nat) : List Nat → List Nat
  | [] => [number]
  | other :: rest =>
      if number < other then
        number :: other :: rest
      else if number = other then
        other :: rest
      else
        other :: insertOnce number rest

/-- Characters that stand for themselves. -/
def isPlain (character : Char) : Bool :=
  character.toNat < 0x80

/-- The written form of a label. -/
def encode (label : List Char) : List Char :=
  let plain := label.filter isPlain
  let others := (label.filter (!isPlain ·)).foldl (fun known character =>
    insertOnce character.toNat known) []
  let writing := insertAll label plain.length others 0x80 ⟨[], 0, 72, plain.length⟩
  (if plain.isEmpty then [] else plain ++ ['-']) ++ writing.written

/-- The number at the front of some digits, and the digits behind it. -/
def number? (bias : Nat) :
    List Char → (place weight sum : Nat) → Option (Nat × List Char)
  | [], _, _, _ => none
  | digit :: rest, place, weight, sum => do
      let value ← valueOf? digit
      let limit := threshold place bias
      let sum := sum + value * weight
      if value < limit then
        some (sum, rest)
      else
        number? bias rest (place + base) (weight * (base - limit)) sum

/-- The character of a number, if there is one. -/
def character? (number : Nat) : Option Char :=
  if number.isValidChar then some (Char.ofNat number) else none

/--
Insert characters as the digits say; `place` is where the search goes on, `last`
the number of the character inserted last.  Every character takes a digit, so the
number of digits is budget enough.
-/
def decodeFrom : Nat → (digits label : List Char) → (place last bias : Nat) →
    Option (List Char)
  | _, [], label, _, _, _ => some label
  | 0, _ :: _, _, _, _, _ => none
  | budget + 1, digits, label, place, last, bias => do
      let (passed, rest) ← number? bias digits base 1 0
      let count := label.length + 1
      let position := place + passed
      let number := last + position / count
      let character ← character? number
      let grown := label.insertIdx (position % count) character
      decodeFrom budget rest grown (position % count + 1) number
        (adapt passed count (place == 0))

/-- Cut at the last hyphen; without one, or with nothing before it, all of the text is digits. -/
def cutAtLastHyphen (text : List Char) : List Char × List Char :=
  let (behind, before) := text.reverse.span (· != '-')
  match before.drop 1 with
  | [] => ([], text)
  | plain => (plain.reverse, behind.reverse)

/-- The label of a written form. -/
def decode? (text : List Char) : Option (List Char) :=
  let (plain, digits) := cutAtLastHyphen text
  decodeFrom digits.length digits plain 0 0x80 72

end VersionedText.Uri.Punycode
