import VersionedText.Hexadecimal

namespace VersionedText

/-!
# Sets of characters

Classes of characters that follow no rule are given as ranges of their numbers.
In a table every word is a number or a range of numbers, in hexadecimal.
-/

/-- A set of characters, as ranges of numbers with both ends included. -/
structure CharacterSet where
  ranges : List (Nat × Nat)
  deriving Repr, DecidableEq, Inhabited

namespace CharacterSet

/-- Whether a character is in the set. -/
def contains (set : CharacterSet) (character : Char) : Bool :=
  set.ranges.any fun range => range.1 ≤ character.toNat && character.toNat ≤ range.2

/-- The number that hexadecimal digits stand for. -/
def readNumber (digits : List Char) : Nat :=
  digits.foldl (fun value digit => 16 * value + (Hexadecimal.value? digit).getD 0) 0

/-- The range that a word of a table stands for. -/
def readRange (word : List Char) : Nat × Nat :=
  let (first, rest) := word.span (· != '-')
  match rest with
  | [] => (readNumber first, readNumber first)
  | _ :: last => (readNumber first, readNumber last)

/-- The words of a line of a table. -/
def words (line : String) : List (List Char) :=
  (line.splitOn " ").map String.toList

/-- The set that a table describes. -/
def ofTable (lines : List String) : CharacterSet :=
  ⟨lines.flatMap fun line => (words line).map readRange⟩

end CharacterSet

end VersionedText
