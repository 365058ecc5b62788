import VersionedText.Uri.Domain.Label
import VersionedText.Uri.Domain.Mapping
import VersionedText.Uri.Domain.Punycode
import VersionedText.Uri.Pieces

namespace VersionedText.Uri.Domain

/-!
# Domain names

Two spellings of a domain name name one host, so a domain name is brought into a
plain form: its characters are mapped, among others to lower case, the result is
composed, and labels outside ASCII are written in Punycode behind `xn--`.  A label
that already has this form must be one that the mapping leaves alone.
-/

/-- What labels outside ASCII begin with. -/
def mark : List Char :=
  ['x', 'n', '-', '-']

/-- Whether a label lies within ASCII. -/
def isAscii (label : List Char) : Bool :=
  label.all Punycode.isPlain

/-- Cut a domain name into its labels. -/
def labels (domain : List Char) : List (List Char) :=
  pieces (· == '.') domain

/-- The characters that a label in plain form stands for. -/
def meaning? (label : List Char) : Option (List Char) :=
  if mark.isPrefixOf label then
    if isAscii label then Punycode.decode? (label.drop mark.length) else none
  else
    some label

/-- Whether a label that was written in Punycode is one that needs to be. -/
def isWellMarked (meaning : List Char) : Bool :=
  !isAscii meaning && meaning.all isKept && compose meaning == meaning

/-- The plain form of a mapped and composed label. -/
def plainLabel? (label : List Char) : Option (List Char) :=
  if mark.isPrefixOf label then do
    let meaning ← meaning? label
    if isWellMarked meaning && isValidLabel meaning then some label else none
  else if isAscii label then
    some label
  else if isValidLabel label then
    some (mark ++ Punycode.encode label)
  else
    none

/-- Whether the labels of a domain name do not mix directions. -/
def keepsDirections (labels : List (List Char)) : Bool :=
  match labels.mapM meaning? with
  | none => false
  | some meanings =>
      let occupied := meanings.filter (!·.isEmpty)
      !occupied.any turnsAround || occupied.all keepsDirection

/-- The labels of a domain name after mapping and composition, unless a character is refused. -/
def mappedLabels? (domain : List Char) : Option (List (List Char)) := do
  let mapped ← domain.mapM mapCharacter?
  return labels (compose mapped.flatten)

/-- The plain form of a domain name. -/
def plain? (domain : List Char) : Option (List Char) := do
  let mapped ← mappedLabels? domain
  let plain ← mapped.mapM plainLabel?
  if keepsDirections mapped then
    some (List.intercalate ['.'] plain)
  else
    none

end VersionedText.Uri.Domain
