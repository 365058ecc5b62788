import VersionedText.Hexadecimal
import VersionedText.Json.Number

namespace VersionedText.Json

/-!
# Reading JSON

A reader takes the characters it needs and returns the rest.  Values nest, so
the readers of values, items and members call one another; each of them spends
one unit of a budget per call, and twice the length of the input is always
enough.  Members are kept in the order of their names, and of a name that occurs
twice in one object the last value counts.
-/

namespace Reader

/-- Drop blanks between tokens. -/
def skipBlanks (input : List Char) : List Char :=
  input.dropWhile fun character => [' ', '\t', '\n', '\r'].contains character

/-- Drop an expected word. -/
def word? (expected : String) (input : List Char) : Option (List Char) :=
  if expected.toList.isPrefixOf input then
    some (input.drop expected.length)
  else
    none

/-- Where the reader of a string stands. -/
inductive StringState where
  /-- Between two characters. -/
  | plain
  /-- Behind a backslash. -/
  | escaped
  /-- Inside an escape by number, with so many digits to come. -/
  | numbered (left value : Nat)

/-- The character that a one-letter escape stands for. -/
def shortEscape? (letter : Char) : Option Char :=
  if ['\x22', '\x5c', '/'].contains letter then
    some letter
  else
    [('b', '\x08'), ('f', '\x0c'), ('n', '\n'), ('r', '\r'), ('t', '\t')].lookup letter

/-- The first half of a character written as two units. -/
def isHighHalf (unit : Nat) : Bool :=
  0xD800 ≤ unit && unit < 0xDC00

/-- The second half of a character written as two units. -/
def isLowHalf (unit : Nat) : Bool :=
  0xDC00 ≤ unit && unit < 0xE000

/--
The characters of a string up to its closing quote.  `pending` is a first half
that still needs its second; `done` holds the characters so far, last first.
-/
def string? :
    StringState → Option Nat → List Char → List Char → Option (List Char × List Char)
  | _, _, _, [] => none
  | .plain, pending, done, character :: rest =>
      if character == '\x5c' then
        string? .escaped pending done rest
      else if pending.isSome then
        none
      else if character == '\x22' then
        some (done.reverse, rest)
      else if character.toNat < 0x20 then
        none
      else
        string? .plain none (character :: done) rest
  | .escaped, pending, done, character :: rest =>
      if character == 'u' then
        string? (.numbered 4 0) pending done rest
      else if pending.isSome then
        none
      else
        match shortEscape? character with
        | some meant => string? .plain none (meant :: done) rest
        | none => none
  | .numbered left value, pending, done, character :: rest =>
      match Hexadecimal.value? character with
      | none => none
      | some digit =>
          let unit := 16 * value + digit
          if 1 < left then
            string? (.numbered (left - 1) unit) pending done rest
          else
            match pending with
            | some high =>
                if isLowHalf unit then
                  let meant := 0x10000 + (high - 0xD800) * 0x400 + (unit - 0xDC00)
                  string? .plain none (Char.ofNat meant :: done) rest
                else
                  none
            | none =>
                if isHighHalf unit then
                  string? .plain (some unit) done rest
                else if isLowHalf unit then
                  none
                else
                  string? .plain none (Char.ofNat unit :: done) rest

mutual

/-- A value, after blanks. -/
def value? : Nat → List Char → Option (Json × List Char)
  | 0, _ => none
  | budget + 1, input =>
      match skipBlanks input with
      | [] => none
      | first :: rest =>
          if first == '[' then
            match skipBlanks rest with
            | ']' :: rest => some (.array [], rest)
            | rest => items? budget [] rest
          else if first == '\x7b' then
            match skipBlanks rest with
            | '\x7d' :: rest => some (.object [], rest)
            | rest => members? budget [] rest
          else if first == '\x22' then do
            let (text, rest) ← string? .plain none [] rest
            return (.string (String.ofList text), rest)
          else if first == 'n' then
            (word? "null" (first :: rest)).map fun rest => (.null, rest)
          else if first == 't' then
            (word? "true" (first :: rest)).map fun rest => (.boolean true, rest)
          else if first == 'f' then
            (word? "false" (first :: rest)).map fun rest => (.boolean false, rest)
          else
            number? (first :: rest)

/-- The next item of an array and all that follow; `done` holds the items so far, last first. -/
def items? : Nat → List Json → List Char → Option (Json × List Char)
  | 0, _, _ => none
  | budget + 1, done, input =>
      match value? budget input with
      | none => none
      | some (item, rest) =>
          match skipBlanks rest with
          | ',' :: rest => items? budget (item :: done) rest
          | ']' :: rest => some (.array (item :: done).reverse, rest)
          | _ => none

/-- The next member of an object and all that follow. -/
def members? : Nat → List (String × Json) → List Char → Option (Json × List Char)
  | 0, _, _ => none
  | budget + 1, done, input =>
      match skipBlanks input with
      | '\x22' :: rest =>
          match string? .plain none [] rest with
          | none => none
          | some (name, rest) =>
              match skipBlanks rest with
              | ':' :: rest =>
                  match value? budget rest with
                  | none => none
                  | some (value, rest) =>
                      let known := insertMember (String.ofList name) value done
                      match skipBlanks rest with
                      | ',' :: rest => members? budget known rest
                      | '\x7d' :: rest => some (.object known, rest)
                      | _ => none
              | _ => none
      | _ => none

end

end Reader

/-- Read a text that holds one JSON value and nothing else. -/
def read? (text : String) : Option Json :=
  let input := text.toList
  match Reader.value? (2 * input.length + 2) input with
  | some (value, rest) => if (Reader.skipBlanks rest).isEmpty then some value else none
  | none => none

end VersionedText.Json
