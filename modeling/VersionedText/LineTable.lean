import VersionedText.Refusal
import VersionedText.Span

namespace VersionedText

/-!
# Line tables

A line table remembers where the line breaks of a text lie and how long the
text is, not the text itself.  Line starts and line ends are read off the
breaks: the first line starts at zero and every break opens another line.

A carriage return directly before a line feed forms one break with it.  A lone
carriage return, a lone line feed, NEXT LINE, LINE SEPARATOR and PARAGRAPH
SEPARATOR are breaks of their own.
-/

/-- Characters that end a line by themselves, the carriage return apart. -/
def isLineEnd (character : Char) : Bool :=
  character == '\n' || character == '\u0085' ||
    character == '\u2028' || character == '\u2029'

namespace Text

/-- The line breaks of a text that begins at byte `offset`, in order. -/
def lineBreaksFrom : Nat → Text → List Span
  | _, [] => []
  | offset, '\r' :: '\n' :: rest =>
      ⟨offset, offset + 2⟩ :: lineBreaksFrom (offset + 2) rest
  | offset, character :: rest =>
      let next := offset + character.utf8Size
      if character == '\r' || isLineEnd character then
        ⟨offset, next⟩ :: lineBreaksFrom next rest
      else
        lineBreaksFrom next rest

/-- The line breaks of a text, in order. -/
def lineBreaks (text : Text) : List Span :=
  lineBreaksFrom 0 text

end Text

/-- The line breaks and the length of some text. -/
structure LineTable where
  breaks : List Span
  length : Nat
  deriving Repr, DecidableEq

namespace LineTable

/-- Scan a text for its lines. -/
def ofText (text : Text) : LineTable :=
  ⟨text.lineBreaks, text.size⟩

/-- Where each line starts; every break opens a line. -/
def starts (table : LineTable) : List Nat :=
  0 :: table.breaks.map Span.stop

/-- Where the content of each terminated line ends, before its break. -/
def ends (table : LineTable) : List Nat :=
  table.breaks.map Span.start

/-- Number of lines, the last and possibly empty one included. -/
def lineCount (table : LineTable) : Nat :=
  table.breaks.length + 1

/-- Whether the text has no bytes. -/
def isEmpty (table : LineTable) : Bool :=
  table.length == 0

/-- Start of an existing line. -/
def lineStart (table : LineTable) (line : Nat) : Except Refusal Nat :=
  match table.starts[line]? with
  | some start => .ok start
  | none => .error (.lineOutOfRange line table.lineCount)

/-- End of a line's content; the last line ends with the text. -/
def lineEnd (table : LineTable) (line : Nat) : Nat :=
  match table.breaks[line]? with
  | some lineBreak => lineBreak.start
  | none => table.length

/-- Byte lengths of all lines, their breaks left out. -/
def lineLengths (table : LineTable) : List Nat :=
  table.starts.zipWith (fun start stop => stop - start) (table.ends ++ [table.length])

/-- The line that an offset of the text falls on. -/
def lineContaining (table : LineTable) (offset : Nat) : Nat :=
  (table.breaks.takeWhile fun lineBreak => lineBreak.stop ≤ offset).length

/-- Start of the line that an offset falls on. -/
def startOfLineContaining (table : LineTable) (offset : Nat) : Nat :=
  (table.starts[table.lineContaining offset]?).getD 0

end LineTable

end VersionedText
