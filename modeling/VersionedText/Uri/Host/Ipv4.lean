import VersionedText.Hexadecimal
import VersionedText.Uri.ParseError
import VersionedText.Uri.Pieces

namespace VersionedText.Uri

/-!
# IPv4 addresses

A host whose last part is a number is an address of four bytes.  Parts are
decimal, octal behind a zero, or hexadecimal behind `0x`; the last part fills all
the bytes that the parts before it leave over.
-/

/-- An address of four bytes, as one number. -/
structure Ipv4 where
  value : Nat
  fits : value < Nat.pow 2 32
  deriving DecidableEq

namespace Ipv4

/-- The value of digits of a base, unless one of them is not a digit of that base. -/
def digitsValue? (base : Nat) (digits : List Char) : Option Nat :=
  digits.foldlM
    (fun value digit => do
      let worth ← Hexadecimal.value? digit
      if worth < base then some (base * value + worth) else none)
    0

/-- The number that a part of a host stands for; a bare sign of a base stands for zero. -/
def partValue? : List Char → Option Nat
  | [] => none
  | ['0'] => some 0
  | '0' :: 'x' :: digits => digitsValue? 16 digits
  | '0' :: 'X' :: digits => digitsValue? 16 digits
  | '0' :: digits => digitsValue? 8 digits
  | digits => digitsValue? 10 digits

/-- The parts of a host, without the empty part behind a dot at the end. -/
def parts (host : List Char) : List (List Char) :=
  let all := pieces (· == '.') host
  if all.getLast? == some [] then all.dropLast else all

/-- Whether a host has to be read as an address, because its last part is a number. -/
def isMeant (host : List Char) : Bool :=
  match (parts host).getLast? with
  | some [] => false
  | some last => last.all Char.isDigit || (partValue? last).isSome
  | none => false

/-- The address that the values of its parts make up. -/
def ofValues? (values : List Nat) : Option Ipv4 :=
  match values.reverse with
  | [] => none
  | last :: before =>
      let upper := before.reverse.zipIdx.map fun (value, place) => value * Nat.pow 256 (3 - place)
      let whole := upper.foldl (· + ·) last
      if last < Nat.pow 256 (4 - before.length) ∧ before.all (· < 256) then
        if fits : whole < Nat.pow 2 32 then some ⟨whole, fits⟩ else none
      else
        none

/-- The address that a host stands for. -/
def parse (host : List Char) : Except ParseError Ipv4 :=
  let parts := parts host
  let address := do
    let values ← parts.mapM partValue?
    if values.length ≤ 4 then ofValues? values else none
  match address with
  | some address => .ok address
  | none => .error .invalidIpv4

/-- The written form of an address: its bytes in decimal, with dots between them. -/
def text (address : Ipv4) : String :=
  let byte := fun place => toString (address.value / Nat.pow 256 place % 256)
  ".".intercalate [byte 3, byte 2, byte 1, byte 0]

end Ipv4

end VersionedText.Uri
