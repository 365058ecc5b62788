import VersionedText.ByteOrderMark
import VersionedText.History
import VersionedText.LineTable.Place
import VersionedText.LineTable.Update

namespace VersionedText

/-!
# Documents

A document is the current text of one open file, with its version, its line
table and the history of its edits.  Every change of the text moves the version
on by one.  An edit is recorded; a wholesale replacement restarts the history,
and a replacement by the same text is no change.

Changes are requested by byte span or by editor position.
-/

/-- The state of one open file. -/
structure Document where
  uri : Uri
  /-- Which opening of its file this document is. -/
  opening : Nat
  version : Nat
  content : Text
  lines : LineTable
  history : History
  byteOrderMark : ByteOrderMark
  deriving DecidableEq

/-- A change in the form in which editors send it. -/
inductive ContentChange where
  /-- The text between two positions is replaced. -/
  | ranged (range : EditorRange) (text : Text)
  /-- The whole text is replaced. -/
  | full (text : Text)
  deriving Repr, DecidableEq

namespace Document

/-- A document at version one. -/
def create (uri : Uri) (opening : Nat) (text : Text) (limit : Option Nat) : Document where
  uri := uri
  opening := opening
  version := 1
  content := text
  lines := LineTable.ofText text
  history := History.start 1 text.size limit
  byteOrderMark := .absent

/-- Length of the current text in bytes. -/
def length (document : Document) : Nat :=
  document.content.size

/-- Note the mark of the file; the text and the version stay. -/
def setByteOrderMark (document : Document) (mark : ByteOrderMark) : Document :=
  { document with byteOrderMark := mark }

/-- Replace the whole text; the same text again is no change. -/
def replaceContent (document : Document) (text : Text) : Document :=
  if document.content = text then
    document
  else
    { document with
      version := document.version + 1
      content := text
      lines := LineTable.ofText text
      history := document.history.reset (document.version + 1) text.size }

/-- Replace the text between two byte offsets. -/
def edit
    (document : Document)
    (start stop : Nat)
    (inserted : Text) :
    Except Refusal Document := do
  document.content.checkRange start stop
  let edited := document.content.splice start stop inserted
  return { document with
    version := document.version + 1
    content := edited
    lines := document.lines.update edited start stop inserted.size
    history := document.history.push ⟨⟨start, stop⟩, inserted.size, edited.size⟩ }

/-- Text between two byte offsets. -/
def textBetween (document : Document) (start stop : Nat) : Except Refusal Text := do
  document.content.checkRange start stop
  return document.content.between start stop

/--
The change from one version to another, as far as the history knows it; what the
history of a document records are edits of texts.
-/
def changeBetween? (document : Document) (old new : Nat) : Option ChangeRange :=
  document.history.exactChangeBetween? old new

/-- Offset of a line and byte column; the offset has to be a boundary. -/
def offsetOf (document : Document) (place : LineColumn) : Except Refusal Nat := do
  let offset ← document.lines.offsetOf place
  document.content.checkOffset offset
  return offset

/-- Line and byte column of a boundary offset. -/
def lineColumnOf (document : Document) (offset : Nat) : Except Refusal LineColumn := do
  document.content.checkOffset offset
  document.lines.lineColumnOf offset

/-- Offset of an editor position. -/
def offsetOfEditorPosition
    (document : Document)
    (position : EditorPosition) :
    Except Refusal Nat :=
  document.lines.offsetOfEditorPosition document.content position

/-- Editor position of a boundary offset. -/
def editorPositionOf (document : Document) (offset : Nat) : Except Refusal EditorPosition :=
  document.lines.editorPositionOf document.content offset

/-- Editor range of a span. -/
def editorRangeOf (document : Document) (span : Span) : Except Refusal EditorRange :=
  document.lines.editorRangeOf document.content span

/--
Carry out one change from an editor.  Both positions are resolved against the
current text, the start first.
-/
def applyChange (document : Document) : ContentChange → Except Refusal Document
  | .full text => .ok (document.replaceContent text)
  | .ranged range text => do
      let start ← document.offsetOfEditorPosition range.start
      let stop ← document.offsetOfEditorPosition range.stop
      document.edit start stop text

/--
Carry out changes in order, each on the text that the one before left.  The
first refusal ends the batch; the changes before it stay.
-/
def applyChanges (document : Document) : List ContentChange → Document × Except Refusal Unit
  | [] => (document, .ok ())
  | change :: later =>
      match document.applyChange change with
      | .error refusal => (document, .error refusal)
      | .ok changed => changed.applyChanges later

end Document

end VersionedText
