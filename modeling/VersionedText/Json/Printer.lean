import VersionedText.Binary64.Shortest
import VersionedText.Hexadecimal
import VersionedText.Json

namespace VersionedText.Json

/-!
# The written form of JSON

Values are written without blanks.  Control characters are escaped, by a letter
where there is one; all other characters stand for themselves.
-/

/-- Four hexadecimal digits, lower case. -/
def fourHexDigits (value : Nat) : List Char :=
  [value / 4096, value / 256 % 16, value / 16 % 16, value % 16].map fun digit =>
    (Hexadecimal.digit digit).toLower

/-- The letter of an escape that has one. -/
def escapeLetter? (character : Char) : Option Char :=
  [('\x22', '\x22'), ('\x5c', '\x5c'), ('\x08', 'b'), ('\x0c', 'f'), ('\n', 'n'), ('\r', 'r'),
    ('\t', 't')].lookup character

/-- One character inside a string. -/
def escapeCharacter (character : Char) : List Char :=
  match escapeLetter? character with
  | some letter => ['\x5c', letter]
  | none =>
      if character.toNat < 0x20 then
        '\x5c' :: 'u' :: fourHexDigits character.toNat
      else
        [character]

/-- A string with its quotes. -/
def quote (text : String) : String :=
  String.ofList ('\x22' :: text.toList.flatMap escapeCharacter ++ ['\x22'])

mutual

/-- The written form of a value. -/
def print : Json → String
  | .null => "null"
  | .boolean value => if value then "true" else "false"
  | .integer value => toString value
  | .float value => value.text
  | .string value => quote value
  | .array items => "[" ++ printItems items ++ "]"
  | .object members => "\x7b" ++ printMembers members ++ "\x7d"

/-- The items of an array, with commas between them. -/
def printItems : List Json → String
  | [] => ""
  | [item] => print item
  | item :: rest => print item ++ "," ++ printItems rest

/-- The members of an object, with commas between them. -/
def printMembers : List (String × Json) → String
  | [] => ""
  | [(name, value)] => quote name ++ ":" ++ print value
  | (name, value) :: rest => quote name ++ ":" ++ print value ++ "," ++ printMembers rest

end

end VersionedText.Json
