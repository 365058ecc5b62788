import VersionedText.Uri.Pieces

namespace VersionedText.Uri

/-!
# Schemes

The scheme of a URI decides what the rest means.  Schemes of the web name hosts
and have hierarchical paths; the scheme of files does too, but has no ports and
may leave out the host; of all other schemes nothing is known.
-/

/-- What is known of a scheme. -/
inductive SchemeKind where
  | file
  | web
  | other
  deriving Repr, DecidableEq

/-- A scheme, in lower case. -/
structure Scheme where
  name : List Char
  deriving Repr, DecidableEq

namespace Scheme

/-- The schemes of the web, with the ports that they imply. -/
def webPorts : List (String × Nat) :=
  [("http", 80), ("https", 443), ("ws", 80), ("wss", 443), ("ftp", 21)]

/-- The port that a scheme implies. -/
def impliedPort (scheme : Scheme) : Option Nat :=
  webPorts.lookup (String.ofList scheme.name)

/-- What is known of a scheme. -/
def kind (scheme : Scheme) : SchemeKind :=
  if String.ofList scheme.name == "file" then
    .file
  else if scheme.impliedPort.isSome then
    .web
  else
    .other

/-- Whether something is known of a scheme. -/
def isSpecial (scheme : Scheme) : Bool :=
  scheme.kind != .other

/-- Characters of a scheme after its first letter. -/
def isSchemeCharacter (character : Char) : Bool :=
  character.isAlphanum || ['+', '-', '.'].contains character

/-- The scheme at the front of a text, and what follows its colon. -/
def cut? (text : List Char) : Option (Scheme × List Char) :=
  match text.span isSchemeCharacter with
  | (first :: more, ':' :: rest) =>
      if first.isAlpha then some (⟨(first :: more).map Char.toLower⟩, rest) else none
  | _ => none

/-- Whether a character separates the segments of paths under a scheme. -/
def isSlash (scheme : Scheme) (character : Char) : Bool :=
  character == '/' || (scheme.isSpecial && character == '\\')

end Scheme

end VersionedText.Uri
