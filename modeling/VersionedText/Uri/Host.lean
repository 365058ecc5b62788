import VersionedText.Uri.Domain
import VersionedText.Uri.Host.Ipv4
import VersionedText.Uri.Host.Ipv6
import VersionedText.Uri.Percent

namespace VersionedText.Uri

/-!
# Hosts

Schemes of the web and of files name hosts by domain names and addresses, and the
spellings of one host have one written form.  Under all other schemes a host that
is no address in brackets has no meaning of its own.
-/

/-- The host of a URI. -/
inductive Host where
  /-- A domain name in plain form. -/
  | domain (name : List Char)
  | ipv4 (address : Ipv4)
  | ipv6 (address : Ipv6)
  /-- A text without a meaning of its own, encoded. -/
  | uninterpreted (text : List Char)
  deriving DecidableEq

namespace Host

/-- The written form of a host. -/
def text : Host → List Char
  | .domain name => name
  | .ipv4 address => address.text.toList
  | .ipv6 address => address.text.toList
  | .uninterpreted text => text

/-- The name by which a machine calls itself. -/
def selfName : List Char :=
  ['l', 'o', 'c', 'a', 'l', 'h', 'o', 's', 't']

/-- The address between brackets, if a text begins with one. -/
def bracketed? : List Char → Option (Except ParseError Host)
  | '[' :: rest =>
      if rest.getLast? == some ']' then
        some ((Ipv6.parse rest.dropLast).map .ipv6)
      else
        some (.error .invalidIpv6)
  | _ => none

/-- The domain name that a host spells, before its plain form is taken. -/
def decodedName? (text : List Char) : Option (List Char) :=
  (Percent.textOfBytes? (Percent.decode text)).map String.toList

/-- A host of the web or of files. -/
def parse (text : List Char) : Except ParseError Host :=
  match bracketed? text with
  | some outcome => outcome
  | none =>
      match (decodedName? text).bind Domain.plain? with
      | none => .error .invalidDomain
      | some [] => .error .emptyHost
      | some name =>
          if Ipv4.isMeant name then
            (Ipv4.parse name).map .ipv4
          else
            .ok (.domain name)

/-- Characters that no host may hold. -/
def isForbidden (character : Char) : Bool :=
  ['\x00', '\t', '\n', '\r', ' ', '#', '/', ':', '<', '>', '?', '@', '[', '\\', ']', '^',
    '|'].contains character

/-- A host under a scheme that does not say what hosts mean. -/
def parseUninterpreted (text : List Char) : Except ParseError Host :=
  match bracketed? text with
  | some outcome => outcome
  | none =>
      if text.any isForbidden then
        .error .invalidHostCharacter
      else
        .ok (.uninterpreted (Percent.encode Percent.isControlOrWide text))

end Host

end VersionedText.Uri
