import VersionedText.Editor.Shape

namespace VersionedText.Shape

/-!
# Shapes of edits to a workspace

An edit to a workspace changes documents, and may create, rename and delete files.
-/

open Json (Decoder)

/-- Changes of documents by their URIs. -/
def changesByUri : Shape
  | reading, .object members =>
      members.forM fun member => do
        uri reading (.string member.1)
        listOf edit reading member.2
  | _, value => .error (.invalidType value "map")

/-- A replacement of a range that names the reason for it. -/
def annotatedEdit : Shape :=
  merged "AnnotatedTextEdit" [field "annotationId" text] [.all editFields]

/-- Edits to one version of a document. -/
def documentEdit : Shape :=
  record "TextDocumentEdit"
    [field "textDocument"
        (record "OptionalVersionedTextDocumentIdentifier"
          [field "uri" uri, optional "version" number]),
      field "edits" (listOf (oneOf "OneOf" [edit, annotatedEdit]))]

/-- What happens to a file. -/
def fileChange : Shape :=
  .tagged "internally tagged enum ResourceOp" "kind"
    [("create", record "CreateFile"
        [field "uri" uri,
          optional "options" (record "CreateFileOptions"
            [optional "overwrite" flag, optional "ignoreIfExists" flag]),
          optional "annotationId" text]),
      ("rename", record "RenameFile"
        [field "oldUri" uri, field "newUri" uri,
          optional "options" (record "RenameFileOptions"
            [optional "overwrite" flag, optional "ignoreIfExists" flag]),
          optional "annotationId" text]),
      ("delete", record "DeleteFile"
        [field "uri" uri,
          optional "options" (record "DeleteFileOptions"
            [optional "recursive" flag, optional "ignoreIfNotExists" flag,
              optional "annotationId" text])])]

/-- An edit to a workspace. -/
def workspaceEdit : Shape :=
  record "WorkspaceEdit"
    [omissible "changes" changesByUri,
      optional "documentChanges"
        (oneOf "DocumentChanges"
          [listOf documentEdit,
            listOf (oneOf "DocumentChangeOperation" [fileChange, documentEdit])]),
      optional "changeAnnotations" (dictionaryOf
        (record "ChangeAnnotation"
          [field "label" text, optional "needsConfirmation" flag,
            optional "description" text]))]

end VersionedText.Shape
