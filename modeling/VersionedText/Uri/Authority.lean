import VersionedText.Uri.Host
import VersionedText.Uri.Scheme

namespace VersionedText.Uri

/-!
# Authorities

Between two slashes and the path stand, each but the host optional, a user with a
password, a host and a port.  What is empty and the port that the scheme implies
are left out.
-/

/-- The written form of user and password, with the sign behind them. -/
def userText (spelling : List Char) : List Char :=
  let encode := Percent.encode Percent.needsEncodingInUser
  let (name, rest) := spelling.span (· != ':')
  let password := rest.drop 1
  let text :=
    encode name ++ if password.isEmpty then [] else ':' :: encode password
  if text.isEmpty then [] else text ++ ['@']

/-- Cut at the last sign behind a user; without one there is no user. -/
def cutUser (text : List Char) : Option (List Char) × List Char :=
  let (behind, before) := text.reverse.span (· != '@')
  match before with
  | [] => (none, text)
  | _ :: user => (some user.reverse, behind.reverse)

/-- The host at the front of a text, up to a colon outside brackets. -/
def cutHost : Bool → List Char → List Char × List Char
  | _, [] => ([], [])
  | inBrackets, character :: rest =>
      if character == ':' && !inBrackets then
        ([], character :: rest)
      else
        let inside := character == '[' || (inBrackets && character != ']')
        let (host, behind) := cutHost inside rest
        (character :: host, behind)

/-- The greatest port. -/
def greatestPort : Nat :=
  65535

/-- A port; no digits mean no port. -/
def parsePort (digits : List Char) : Except ParseError (Option Nat) :=
  if digits.isEmpty then
    .ok none
  else if digits.all Char.isDigit then
    let port := digits.foldl (fun value digit => 10 * value + (digit.toNat - '0'.toNat)) 0
    if port ≤ greatestPort then .ok (some port) else .error .invalidPort
  else
    .error .invalidPort

/-- The written form of a port that the scheme does not imply, with its colon. -/
def portText (scheme : Scheme) : Option Nat → List Char
  | none => []
  | some port =>
      if scheme.impliedPort = some port then [] else ':' :: (toString port).toList

/--
The written form of an authority, and what is left behind its port: under a scheme
of which nothing is known, a backslash ends the port.  `isLast` says that nothing
follows the authority.

What is behind the host's colon is judged after the host, and a user without a
host is refused last.
-/
def readAuthority (scheme : Scheme) (spelling : List Char) (isLast : Bool) :
    Except ParseError (List Char × List Char) := do
  let (user, hostAndPort) := cutUser spelling
  if user = some [] ∧ hostAndPort.isEmpty ∧ !isLast then
    throw .emptyHost
  let (hostSpelling, behind) := cutHost false hostAndPort
  if hostSpelling.isEmpty ∧ scheme.isSpecial then
    throw .emptyHost
  let host ←
    if scheme.isSpecial then Host.parse hostSpelling else Host.parseUninterpreted hostSpelling
  if host.text.isEmpty ∧ !behind.isEmpty then
    throw .emptyHost
  let (digits, left) := cutBefore (· == '\\') (behind.drop 1)
  let port ← parsePort digits
  let userText := userText (user.getD [])
  if host.text.isEmpty ∧ !userText.isEmpty then
    throw .emptyHost
  return (userText ++ host.text ++ portText scheme port, left)

end VersionedText.Uri
