import VersionedText.LineTable

namespace VersionedText

/-!
# Places in a text

A place is named by its byte offset, by its line and byte column, or by its line
and UTF-16 column.  A line table converts between the three, and refuses what
does not name a place.
-/

/-- A line and a byte column, both counted from zero. -/
structure LineColumn where
  line : Nat
  column : Nat
  deriving Repr, DecidableEq

/-- A line and a UTF-16 column, both counted from zero, as editors count. -/
structure EditorPosition where
  line : Nat
  character : Nat
  deriving Repr, DecidableEq

/-- Two editor positions that delimit a piece of text. -/
structure EditorRange where
  start : EditorPosition
  stop : EditorPosition
  deriving Repr, DecidableEq

namespace LineTable

/-- Line and byte column of an offset within the text. -/
def lineColumnOf (table : LineTable) (offset : Nat) : Except Refusal LineColumn :=
  if table.length < offset then
    .error (.offsetOutOfRange offset table.length)
  else
    .ok ⟨table.lineContaining offset, offset - table.startOfLineContaining offset⟩

/--
Offset of a line and byte column.  The column may lie inside the line's break,
but the start of the next line is no column of this one.
-/
def offsetOf (table : LineTable) (place : LineColumn) : Except Refusal Nat := do
  let start ← table.lineStart place.line
  let limit :=
    match table.breaks[place.line]? with
    | some lineBreak => lineBreak.stop - 1
    | none => table.length
  if limit < start + place.column then
    .error (.columnOutOfRange place.line place.column (table.lineEnd place.line - start))
  else
    .ok (start + place.column)

/-- Editor position of a boundary offset in the text of the table. -/
def editorPositionOf
    (table : LineTable)
    (text : Text)
    (offset : Nat) :
    Except Refusal EditorPosition := do
  text.checkOffset offset
  let start := table.startOfLineContaining offset
  return ⟨table.lineContaining offset, (text.between start offset).units⟩

/--
Offset of an editor position in the text of the table.  The column has to be the
UTF-16 length of some leading characters of the line's content.
-/
def offsetOfEditorPosition
    (table : LineTable)
    (text : Text)
    (position : EditorPosition) :
    Except Refusal Nat := do
  let start ← table.lineStart position.line
  let content := text.between start (table.lineEnd position.line)
  match content.offsetOfUnits? position.character with
  | some distance => .ok (start + distance)
  | none => .error (.columnOutOfRange position.line position.character content.units)

/-- Editor range of a span of the text of the table. -/
def editorRangeOf
    (table : LineTable)
    (text : Text)
    (span : Span) :
    Except Refusal EditorRange := do
  text.checkRange span.start span.stop
  let start ← table.editorPositionOf text span.start
  let stop ← table.editorPositionOf text span.stop
  return ⟨start, stop⟩

end LineTable

end VersionedText
