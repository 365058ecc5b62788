import VersionedText.Hexadecimal
import VersionedText.Uri.ParseError
import VersionedText.Uri.Pieces

namespace VersionedText.Uri

/-!
# IPv6 addresses

An address is eight groups of sixteen bits.  In writing, two colons stand for one
or more groups of zero, and the last two groups may be written as four decimal
bytes.  Written again, the first longest run of at least two groups of zero is
left out.
-/

/-- An address of eight groups. -/
structure Ipv6 where
  groups : List Nat
  eight : groups.length = 8
  deriving DecidableEq

namespace Ipv6

/-- One group: up to four hexadecimal digits. -/
def group? (digits : List Char) : Option Nat :=
  if digits.isEmpty || 4 < digits.length then
    none
  else
    digits.foldlM (fun value digit => (Hexadecimal.value? digit).map (16 * value + ·)) 0

/-- A decimal byte without a leading zero. -/
def byte? (digits : List Char) : Option Nat :=
  match digits with
  | [] => none
  | '0' :: _ :: _ => none
  | _ =>
      if digits.all Char.isDigit && digits.length ≤ 3 then
        let value := digits.foldl (fun value digit => 10 * value + (digit.toNat - '0'.toNat)) 0
        if value < 256 then some value else none
      else
        none

/-- The two groups that four decimal bytes stand for. -/
def bytePairs? (text : List Char) : Option (List Nat) := do
  match ← (pieces (· == '.') text).mapM byte? with
  | [first, second, third, fourth] => some [256 * first + second, 256 * third + fourth]
  | _ => none

/-- The groups of a text without two colons; only the last piece may be in decimal bytes. -/
def groupsOf? : List (List Char) → Option (List Nat)
  | [] => some []
  | [last] => if last.contains '.' then bytePairs? last else (group? last).map ([·])
  | first :: rest => do
      let group ← group? first
      return group :: (← groupsOf? rest)

/-- The groups of a text that may be empty. -/
def run? (text : List Char) : Option (List Nat) :=
  if text.isEmpty then some [] else groupsOf? (pieces (· == ':') text)

/-- Cut a text at its first two colons. -/
def cutAtGap : List Char → Option (List Char × List Char)
  | [] => none
  | ':' :: ':' :: rest => some ([], rest)
  | character :: rest => (cutAtGap rest).map fun (before, behind) => (character :: before, behind)

/-- The groups of an address. -/
def groups? (text : List Char) : Option (List Nat) :=
  match cutAtGap text with
  | none => if text.isEmpty then none else run? text
  | some (before, behind) => do
      let before ← if before.contains '.' then none else run? before
      let behind ← run? behind
      let known := before.length + behind.length
      if known < 8 then
        some (before ++ List.replicate (8 - known) 0 ++ behind)
      else
        none

/-- The address that a text between brackets stands for. -/
def parse (text : List Char) : Except ParseError Ipv6 :=
  match groups? text with
  | none => .error .invalidIpv6
  | some groups => if eight : groups.length = 8 then .ok ⟨groups, eight⟩ else .error .invalidIpv6

/-- How many groups of zero a list begins with. -/
def zeros (groups : List Nat) : Nat :=
  (groups.takeWhile (· == 0)).length

/-- Start and length of the first longest run of zeros, the longest of length zero if there is none. -/
def longestGap : List Nat → Nat × Nat
  | [] => (0, 0)
  | group :: rest =>
      let here := zeros (group :: rest)
      let (start, length) := longestGap rest
      if length ≤ here then (0, here) else (start + 1, length)

/-- Groups in lower-case hexadecimal, with colons between them. -/
def textOf (groups : List Nat) : String :=
  ":".intercalate (groups.map fun group => String.ofList (Nat.toDigits 16 group))

/-- The written form of an address, with its brackets. -/
def text (address : Ipv6) : String :=
  let (start, length) := longestGap address.groups
  let inner :=
    if 2 ≤ length then
      textOf (address.groups.take start) ++ "::" ++ textOf (address.groups.drop (start + length))
    else
      textOf address.groups
  "[" ++ inner ++ "]"

end Ipv6

end VersionedText.Uri
