import VersionedText.Editor.Capability

namespace VersionedText

/-!
# Messages from editors

The parameters of the standard language server calls that a session carries out:
the start of a session, and the opening, changing and closing of text documents.
-/

open Json (Decoder Fields)

namespace ContentChange

/-- The fields of a change; without a range it replaces the whole text. -/
def fields : Fields ContentChange :=
  .map
    (fun (range, _, text) =>
      match range with
      | some range => .ranged range text.toList
      | none => .full text.toList)
    (.both (.optional "range" EditorRange.decode)
      (.both (.optional "rangeLength" Decoder.word) (.required "text" Decoder.string)))

/-- A change. -/
def decode : Decoder ContentChange :=
  .record "struct TextDocumentContentChangeEvent" fields

end ContentChange

/-- A document as an editor opens it. -/
structure OpenedDocument where
  uri : Uri
  text : Text

namespace OpenedDocument

/-- The fields of a document that an editor has opened. -/
def fields : Fields OpenedDocument :=
  .map (fun (uri, _, _, text) => ⟨uri, text.toList⟩)
    (.both (.required "uri" Uri.decode)
      (.both (.required "languageId" Decoder.string)
        (.both (.required "version" Decoder.signedWord)
          (.required "text" Decoder.string))))

/-- The parameters of an opening. -/
def decodeParams : Decoder OpenedDocument :=
  .record "struct DidOpenTextDocumentParams"
    (.required "textDocument" (.record "struct TextDocumentItem" fields))

end OpenedDocument

/-- A batch of changes to one document. -/
structure ChangedDocument where
  uri : Uri
  changes : List ContentChange

namespace ChangedDocument

/-- The document that is meant, by URI and the editor's own version. -/
def decodeDocument : Decoder Uri :=
  .record "struct VersionedTextDocumentIdentifier"
    (.map (fun (uri, _) => uri)
      (.both (.required "uri" Uri.decode) (.required "version" Decoder.signedWord)))

/-- The parameters of a change. -/
def decodeParams : Decoder ChangedDocument :=
  .record "struct DidChangeTextDocumentParams"
    (.map (fun (uri, changes) => ⟨uri, changes⟩)
      (.both (.required "textDocument" decodeDocument)
        (.required "contentChanges" (Decoder.list ContentChange.decode))))

end ChangedDocument

/-- The document that an editor has closed. -/
def decodeClosedDocument : Decoder Uri :=
  .record "struct DidCloseTextDocumentParams"
    (.required "textDocument"
      (.record "struct TextDocumentIdentifier" (.required "uri" Uri.decode)))

/-- The readiness of a client, which brings no parameters. -/
def decodeReadiness : Decoder Unit :=
  Shape.record "InitializedParams" []

/-- Where an editor says its workspace is. -/
structure Workspace where
  rootUri : Option Uri
  folders : List Uri

namespace Workspace

/-- A folder of a workspace. -/
def decodeFolder : Decoder Uri :=
  .record "struct WorkspaceFolder"
    (.map (fun (uri, _) => uri)
      (.both (.required "uri" Uri.decode) (.required "name" Decoder.string)))

/-- What the client says of itself. -/
def client : Shape :=
  .record "ClientInfo" [Shape.field "name" Shape.text, Shape.optional "version" Shape.text]

/-- How much the client wants to be told. -/
def trace : Shape :=
  .nameAmong ["off", "messages", "verbose"]

/-- The fields before the workspace's folders that say where the workspace is. -/
def rootField : Fields (Option Uri) :=
  .map (fun (_, _, uri) => uri)
    (.both (Shape.optional "processId" Shape.count)
      (.both (Shape.optional "rootPath" Shape.text)
        (.withDefault "rootUri" none (Decoder.nullable Uri.decode))))

/-- The fields between the root and the folders. -/
def settingFields : Fields Unit :=
  .all
    [Shape.optional "initializationOptions" Shape.any,
      Shape.field "capabilities" Shape.capabilities, Shape.omissible "trace" trace]

/-- The folders of the workspace, and the fields behind them. -/
def folderField : Fields (Option (List Uri)) :=
  .map (fun (folders, _) => folders)
    (.both (.optional "workspaceFolders" (Decoder.list decodeFolder))
      (.all [Shape.optional "clientInfo" client, Shape.optional "locale" Shape.text]))

/-- The parameters that start a session. -/
def decodeParams : Decoder Workspace :=
  .record "struct InitializeParams"
    (.map (fun (rootUri, _, folders) => ⟨rootUri, folders.getD []⟩)
      (.both rootField (.both settingFields folderField)))

end Workspace

end VersionedText
