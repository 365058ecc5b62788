import VersionedText.FileOperation
import VersionedText.Json.Record

namespace VersionedText

/-!
# Messages on the wire

The JSON form of what a host exchanges with the program: spans, change ranges,
byte order marks, file operations, and the question after a change range with
its answer.  Every message has one written form; reading accepts more.
-/

open Json (Decoder Fields)

/-- A question after the change of a file since a version. -/
structure ChangeQuery where
  uri : Uri
  sinceVersion : Nat
  deriving DecidableEq

/-- The answer to a change query; without a range the whole text counts as changed. -/
structure ChangeReport where
  version : Nat
  range : Option ChangeRange
  deriving DecidableEq

namespace Uri

/-- A URI is written as its text. -/
def toJson (uri : Uri) : Json :=
  .string uri.text

/-- A URI in any spelling. -/
def decode : Decoder Uri
  | _, .string spelling => (parse spelling).mapError fun error => .unreadable spelling error.message
  | _, value => .error (.invalidType value "a string representing an URL")

end Uri

namespace Span

/-- The written form of a span. -/
def toJson (span : Span) : Json :=
  .object [("start", .natural span.start), ("end", .natural span.stop)]

/-- The fields of a span. -/
def fields : Fields Span :=
  .map (fun (start, stop) => ⟨start, stop⟩)
    (.both (.required "start" Decoder.offset) (.required "end" Decoder.offset))

/-- A span, inverted or not. -/
def decode : Decoder Span :=
  .record "struct TextSpan" fields

end Span

namespace ChangeRange

/-- The written form of a change range. -/
def toJson (change : ChangeRange) : Json :=
  .object [("span", change.span.toJson), ("newLength", .natural change.newLength)]

/-- The fields of a change range. -/
def fields : Fields ChangeRange :=
  .map (fun (span, newLength) => ⟨span, newLength⟩)
    (.both (.required "span" Span.decode) (.required "newLength" Decoder.offset))

/-- A change range. -/
def decode : Decoder ChangeRange :=
  .record "struct TextChangeRange" fields

end ChangeRange

namespace ByteOrderMark

/-- A mark is written as its name. -/
def toJson (mark : ByteOrderMark) : Json :=
  .string mark.name

/-- A mark, by its name. -/
def decode : Decoder ByteOrderMark :=
  .named (all.map fun mark => (mark.name, mark))

end ByteOrderMark

namespace FileOperation

/-- The written form of an operation, an object that carries the operation's name. -/
def toJson : FileOperation → Json
  | .opened file text mark =>
      .object
        [("operation", .string "open"), ("fileId", file.toJson), ("text", .string text),
          ("byteOrderMark", mark.toJson)]
  | .edited file start stop text =>
      .object
        [("operation", .string "edit"), ("fileId", file.toJson), ("start", .natural start),
          ("end", .natural stop), ("text", .string text)]
  | .contentSet file text =>
      .object
        [("operation", .string "setContent"), ("fileId", file.toJson),
          ("text", .string text)]
  | .closed file =>
      .object [("operation", .string "close"), ("fileId", file.toJson)]

/-- The file that every operation is about. -/
def fileField : Fields Uri :=
  .required "fileId" Uri.decode

/-- The text that an operation brings. -/
def textField : Fields String :=
  .required "text" Decoder.string

/-- The fields of an opening. -/
def openedFields : Fields FileOperation :=
  .map (fun (file, text, mark) => .opened file text mark)
    (.both fileField
      (.both textField (.withDefault "byteOrderMark" .absent ByteOrderMark.decode)))

/-- The fields of an edit. -/
def editedFields : Fields FileOperation :=
  .map (fun (file, start, stop, text) => .edited file start stop text)
    (.both fileField
      (.both (.required "start" Decoder.offset)
        (.both (.required "end" Decoder.offset) textField)))

/-- The fields of a replaced text. -/
def contentSetFields : Fields FileOperation :=
  .map (fun (file, text) => .contentSet file text) (.both fileField textField)

/-- The fields of a closing. -/
def closedFields : Fields FileOperation :=
  .map .closed fileField

/-- The operations by name. -/
def forms : List (String × Decoder FileOperation) :=
  [("open", .record "struct variant FileOperation::Open" openedFields),
    ("edit", .record "struct variant FileOperation::Edit" editedFields),
    ("setContent", .record "struct variant FileOperation::SetContent" contentSetFields),
    ("close", .record "struct variant FileOperation::Close" closedFields)]

/--
An operation: an object with the operation's name among its members, or an array
of the name and the fields.
-/
def decode : Decoder FileOperation :=
  .tagged "internally tagged enum FileOperation" "operation" forms

end FileOperation

namespace ChangeQuery

/-- The written form of a change query. -/
def toJson (query : ChangeQuery) : Json :=
  .object [("uri", query.uri.toJson), ("sinceVersion", .natural query.sinceVersion)]

/-- The fields of a change query. -/
def fields : Fields ChangeQuery :=
  .map (fun (uri, sinceVersion) => ⟨uri, sinceVersion⟩)
    (.both (.required "uri" Uri.decode) (.required "sinceVersion" Decoder.word))

/-- A change query. -/
def decode : Decoder ChangeQuery :=
  .record "struct ChangeRangeParams" fields

end ChangeQuery

namespace ChangeReport

/-- The written form of a change report; an unknown range is null. -/
def toJson (report : ChangeReport) : Json :=
  .object
    [("version", .natural report.version),
      ("range", Json.ofOption ChangeRange.toJson report.range)]

/-- The fields of a change report. -/
def fields : Fields ChangeReport :=
  .map (fun (version, range) => ⟨version, range⟩)
    (.both (.required "version" Decoder.word) (.optional "range" ChangeRange.decode))

/-- A change report. -/
def decode : Decoder ChangeReport :=
  .record "struct ChangeRangeResponse" fields

end ChangeReport

end VersionedText
