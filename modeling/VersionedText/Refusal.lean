import VersionedText.Text
import VersionedText.Uri

namespace VersionedText

/-!
# Refusals

Offsets, lines and columns are never clamped.  A request that does not fit its
text, or that names a file that is not open, is refused with its cause, and the
cause alone decides the wording.
-/

/-- Why a request on a document was refused. -/
inductive Refusal where
  /-- An offset past the end of a text of `length` bytes. -/
  | offsetOutOfRange (offset length : Nat)
  /-- A span that is inverted or reaches past the end of a text of `length` bytes. -/
  | rangeOutOfRange (start stop length : Nat)
  /-- An offset inside a character. -/
  | notCharacterBoundary (offset : Nat)
  /-- A line at or past the number of lines. -/
  | lineOutOfRange (line lineCount : Nat)
  /-- A column that the line, of the given length, does not have. -/
  | columnOutOfRange (line column lineLength : Nat)
  /-- A file that is not open. -/
  | unknownFile (uri : Uri)
  deriving DecidableEq

namespace Refusal

/-- The wording of a refusal. -/
def message : Refusal → String
  | .offsetOutOfRange offset length =>
      s!"offset {offset} is out of range for text of length {length}"
  | .rangeOutOfRange start stop length =>
      s!"range {start}..{stop} is out of range for text of length {length}"
  | .notCharacterBoundary offset =>
      s!"offset {offset} is not on a character boundary"
  | .lineOutOfRange line lineCount =>
      s!"line {line} is out of range (document has {lineCount} lines)"
  | .columnOutOfRange line column lineLength =>
      s!"column {column} is out of range for line {line} of length {lineLength}"
  | .unknownFile uri =>
      "no open document for " ++ uri.text

end Refusal

namespace Text

/-- Accept an offset that is within the text and on a boundary. -/
def checkOffset (text : Text) (offset : Nat) : Except Refusal Unit :=
  if text.size < offset then
    .error (.offsetOutOfRange offset text.size)
  else if text.isBoundary offset then
    .ok ()
  else
    .error (.notCharacterBoundary offset)

/-- Accept an ordered span within the text whose ends are boundaries; the start is judged first. -/
def checkRange (text : Text) (start stop : Nat) : Except Refusal Unit :=
  if stop < start ∨ text.size < stop then
    .error (.rangeOutOfRange start stop text.size)
  else if !text.isBoundary start then
    .error (.notCharacterBoundary start)
  else if !text.isBoundary stop then
    .error (.notCharacterBoundary stop)
  else
    .ok ()

end Text

end VersionedText
