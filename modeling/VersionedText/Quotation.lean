import VersionedText.Quotation.Invisible

namespace VersionedText.Quotation

/-!
# Quoted texts in messages

A message that quotes a text shows it between double quotes.  Quotes and
backslashes are escaped, and so is every character that could not be told by
sight: by a letter, or by its number in braces.
-/

/-- The letter of an escape that has one. -/
def escapeLetter? (character : Char) : Option Char :=
  [('\x00', '0'), ('\t', 't'), ('\n', 'n'), ('\r', 'r'), ('\x22', '\x22'),
    ('\x5c', '\x5c')].lookup character

/-- Characters that need no look into the table. -/
def isPlain (character : Char) : Bool :=
  0x20 ≤ character.toNat && character.toNat < 0x7F

/-- One character inside a quotation. -/
def escapeCharacter (character : Char) : List Char :=
  match escapeLetter? character with
  | some letter => ['\x5c', letter]
  | none =>
      if !isPlain character && invisible.contains character then
        "\\u\x7b".toList ++ Nat.toDigits 16 character.toNat ++ ['\x7d']
      else
        [character]

/-- A text between quotes. -/
def quote (text : String) : String :=
  String.ofList ('\x22' :: text.toList.flatMap escapeCharacter ++ ['\x22'])

end VersionedText.Quotation
