import VersionedText.Wire

namespace VersionedText

/-!
# Shapes of editor messages

Much of what editors send has no effect on a session but has to be well-formed.  A
shape says what that means; it reads a value for its faults only.  This module
holds the shapes that messages of several kinds have in common.
-/

open Json (Decoder Fields)

namespace EditorPosition

/-- The written form of a position. -/
def toJson (position : EditorPosition) : Json :=
  .object
    [("line", .natural position.line), ("character", .natural position.character)]

/-- The fields of a position. -/
def fields : Fields EditorPosition :=
  .map (fun (line, character) => ⟨line, character⟩)
    (.both (.required "line" Decoder.word) (.required "character" Decoder.word))

/-- A position. -/
def decode : Decoder EditorPosition :=
  .record "struct Position" fields

end EditorPosition

namespace EditorRange

/-- The fields of a range. -/
def fields : Fields EditorRange :=
  .map (fun (start, stop) => ⟨start, stop⟩)
    (.both (.required "start" EditorPosition.decode) (.required "end" EditorPosition.decode))

/-- A range. -/
def decode : Decoder EditorRange :=
  .record "struct Range" fields

end EditorRange

/-- A reading for faults only. -/
abbrev Shape := Decoder Unit

namespace Shape

/-- A field that has to be there. -/
def field (name : String) (shape : Shape) : Fields Unit :=
  .required name shape

/-- A field that may be null, and in an object may be left out. -/
def optional (name : String) (shape : Shape) : Fields Unit :=
  (Fields.optional name shape).check

/-- A field that may be null or left out. -/
def omissible (name : String) (shape : Shape) : Fields Unit :=
  .withDefault name () (Decoder.nullable shape).check

/-- A record with a name. -/
def record (name : String) (fields : List (Fields Unit)) : Shape :=
  Decoder.record ("struct " ++ name) (Fields.all fields)

/-- A record with a name that shares its object with other fields. -/
def merged (name : String) (own others : List (Fields Unit)) : Shape :=
  Decoder.merged ("struct " ++ name) (Fields.all own) others

/-- Any value. -/
def any : Shape :=
  Decoder.any.check

/-- A boolean. -/
def flag : Shape :=
  Decoder.boolean.check

/-- A string. -/
def text : Shape :=
  Decoder.string.check

/-- A number without a sign. -/
def count : Shape :=
  Decoder.word.check

/-- A number with a sign, among others one that stands for one of several kinds. -/
def number : Shape :=
  Decoder.signedWord.check

/-- A URI. -/
def uri : Shape :=
  Uri.decode.check

/-- An array of values of one shape. -/
def listOf (shape : Shape) : Shape :=
  (Decoder.list shape).check

/-- An object whose values have one shape. -/
def dictionaryOf (shape : Shape) : Shape :=
  (Decoder.dictionary shape).check

/-- One of several names. -/
def nameAmong (names : List String) : Shape :=
  Decoder.named (names.map fun name => (name, ()))

/-- A value of one of several shapes. -/
def oneOf (choice : String) (shapes : List Shape) : Shape :=
  Decoder.oneOf choice shapes

/-- A position in a document. -/
def position : Shape :=
  EditorPosition.decode.check

/-- A range of a document. -/
def range : Shape :=
  EditorRange.decode.check

/-- A document that is named by its URI. -/
def document : Shape :=
  record "TextDocumentIdentifier" [field "uri" uri]

/-- A range of a document that is named by its URI. -/
def location : Shape :=
  record "Location" [field "uri" uri, field "range" range]

/-- A number or a text. -/
def numberOrText : Shape :=
  oneOf "NumberOrString" [number, text]

/-- How texts are marked up. -/
def markupKind : Shape :=
  nameAmong ["plaintext", "markdown"]

/-- A text that says how it is marked up. -/
def markup : Shape :=
  record "MarkupContent" [field "kind" markupKind, field "value" text]

/-- A plain text or one that is marked up. -/
def documentation (choice : String) : Shape :=
  oneOf choice [text, markup]

/-- A command of an editor. -/
def command : Shape :=
  record "Command"
    [field "title" text, field "command" text, optional "arguments" (listOf any)]

/-- The fields of a replacement of a range. -/
def editFields : List (Fields Unit) :=
  [field "range" range, field "newText" text]

/-- A replacement of a range. -/
def edit : Shape :=
  record "TextEdit" editFields

/-- A problem in a document. -/
def diagnostic : Shape :=
  record "Diagnostic"
    [field "range" range, optional "severity" number, optional "code" numberOrText,
      optional "codeDescription" (record "CodeDescription" [field "href" uri]),
      optional "source" text, field "message" text,
      optional "relatedInformation" (listOf
        (record "DiagnosticRelatedInformation"
          [field "location" location, field "message" text])),
      optional "tags" (listOf number), optional "data" any]

end Shape

end VersionedText
