import VersionedText.Editor.WorkspaceEdit

namespace VersionedText

/-!
# Standard requests

The requests of the language server protocol that a session does not offer, with
the shapes of their parameters.  Such a request is refused, but its parameters are
read first.
-/

open Json (Decoder Fields)

namespace Shape

/-- The fields that name a position in a document. -/
def placeFields : List (Fields Unit) :=
  [field "textDocument" document, field "position" position]

/-- The fields of a request that is about a position. -/
def place : Fields Unit :=
  .all placeFields

/-- The field of a request whose progress may be reported. -/
def progress : Fields Unit :=
  optional "workDoneToken" numberOrText

/-- The field of a request whose results may be sent piece by piece. -/
def partialResults : Fields Unit :=
  optional "partialResultToken" numberOrText

/-- Parameters that may also ask for progress and partial results. -/
def query (name : String) (own : List (Fields Unit)) : Shape :=
  merged name own [progress, partialResults]

/-- Parameters about a position that may also ask for progress. -/
def placeQuery (name : String) (own : List (Fields Unit)) : Shape :=
  merged name own [place, progress]

/-- Parameters about a position that may also ask for progress and partial results. -/
def placeListQuery (name : String) (own : List (Fields Unit)) : Shape :=
  merged name own [place, progress, partialResults]

/-- A question after where something is declared, defined or carried out. -/
def gotoParams : Shape :=
  placeListQuery "GotoDefinitionParams" []

/-- The fields of what stands in a hierarchy. -/
def hierarchyFields (tags : Shape) : List (Fields Unit) :=
  [field "name" text, field "kind" number, optional "tags" tags, optional "detail" text,
    field "uri" uri, field "range" range, field "selectionRange" range, optional "data" any]

/-- What stands in a hierarchy of calls. -/
def callItem : Shape :=
  record "CallHierarchyItem" (hierarchyFields (listOf number))

/-- What stands in a hierarchy of types. -/
def typeItem : Shape :=
  record "TypeHierarchyItem" (hierarchyFields number)

/-- A link in a document. -/
def documentLink : Shape :=
  record "DocumentLink"
    [field "range" range, optional "target" uri, optional "tooltip" text, optional "data" any]

/-- A command that belongs to a range. -/
def codeLens : Shape :=
  record "CodeLens" [field "range" range, optional "command" command, optional "data" any]

/-- A hint that is shown inside a text. -/
def inlayHint : Shape :=
  record "InlayHint"
    [field "position" position,
      field "label" (oneOf "InlayHintLabel"
        [text,
          listOf (record "InlayHintLabelPart"
            [field "value" text,
              optional "tooltip" (documentation "InlayHintLabelPartTooltip"),
              optional "location" location, optional "command" command])]),
      optional "kind" number, optional "textEdits" (listOf edit),
      optional "tooltip" (documentation "InlayHintTooltip"), optional "paddingLeft" flag,
      optional "paddingRight" flag, optional "data" any]

/-- A proposal for completing a text. -/
def completionItem : Shape :=
  record "CompletionItem"
    [field "label" text,
      optional "labelDetails" (record "CompletionItemLabelDetails"
        [optional "detail" text, optional "description" text]),
      optional "kind" number, optional "detail" text,
      optional "documentation" (documentation "Documentation"),
      optional "deprecated" flag, optional "preselect" flag, optional "sortText" text,
      optional "filterText" text, optional "insertText" text,
      optional "insertTextFormat" number, optional "insertTextMode" number,
      optional "textEdit" (oneOf "CompletionTextEdit"
        [edit,
          record "InsertReplaceEdit"
            [field "newText" text, field "insert" range, field "replace" range]]),
      optional "additionalTextEdits" (listOf edit), optional "command" command,
      optional "commitCharacters" (listOf text), optional "data" any,
      optional "tags" (listOf number)]

/-- How a completion was asked for. -/
def completionContext : Shape :=
  record "CompletionContext" [field "triggerKind" number, optional "triggerCharacter" text]

/-- Two numbers in an array. -/
def pair : Shape
  | reading, .array [first, second] => do
      count reading first
      count reading second
  | _, value => .error (.invalidType value "an array of length 2")

/-- A parameter of a signature: its text, or where it stands in the signature. -/
def parameterLabel : Shape :=
  oneOf "ParameterLabel" [text, pair]

/-- The signatures that a call may have. -/
def signatureHelp : Shape :=
  record "SignatureHelp"
    [field "signatures" (listOf (record "SignatureInformation"
        [field "label" text, optional "documentation" (documentation "Documentation"),
          optional "parameters" (listOf (record "ParameterInformation"
            [field "label" parameterLabel,
              optional "documentation" (documentation "Documentation")])),
          optional "activeParameter" count])),
      optional "activeSignature" count, optional "activeParameter" count]

/-- How signatures were asked for. -/
def signatureHelpContext : Shape :=
  record "SignatureHelpContext"
    [field "triggerKind" number, optional "triggerCharacter" text, field "isRetrigger" flag,
      optional "activeSignatureHelp" signatureHelp]

/-- What actions are asked for. -/
def codeActionContext : Shape :=
  record "CodeActionContext"
    [field "diagnostics" (listOf diagnostic), optional "only" (listOf text),
      optional "triggerKind" number]

/-- An action that an editor offers. -/
def codeAction : Shape :=
  record "CodeAction"
    [field "title" text, optional "kind" text, optional "diagnostics" (listOf diagnostic),
      optional "edit" workspaceEdit, optional "command" command, optional "isPreferred" flag,
      optional "disabled" (record "CodeActionDisabled" [field "reason" text]),
      optional "data" any]

/-- A color. -/
def color : Shape :=
  record "Color"
    (["red", "green", "blue", "alpha"].map fun part => field part Decoder.fraction)

/-- The fields of formatting options that have a meaning of their own. -/
def formattingFields : List (String × Fields Unit) :=
  [("tabSize", field "tabSize" count), ("insertSpaces", field "insertSpaces" flag),
    ("trimTrailingWhitespace", optional "trimTrailingWhitespace" flag),
    ("insertFinalNewline", optional "insertFinalNewline" flag),
    ("trimFinalNewlines", optional "trimFinalNewlines" flag)]

/-- Options for formatting; those that have no meaning of their own are simple values. -/
def formattingOptions : Shape
  | reading, .object members => do
      merged "FormattingOptions" (formattingFields.map (·.2)) [] reading (.object members)
      let others := members.filter fun member => (formattingFields.lookup member.1).isNone
      dictionaryOf (oneOf "FormattingProperty" [flag, number, text]) .deferred (.object others)
  | _, value => .error (.invalidType value "struct FormattingOptions")

/-- A symbol of a workspace. -/
def workspaceSymbol : Shape :=
  record "WorkspaceSymbol"
    [field "name" text, field "kind" number, optional "tags" (listOf number),
      optional "containerName" text,
      field "location" (oneOf "OneOf" [location, record "WorkspaceLocation" [field "uri" uri]]),
      optional "data" any]

/-- Parameters that list files by some fields that are texts. -/
def files (name item : String) (fields : List String) : Shape :=
  record name
    [field "files" (listOf (record item (fields.map fun name => field name text)))]

end Shape

namespace Request

open Shape

/-- Requests about a whole document or a workspace. -/
def ofDocuments : List (String × Shape) :=
  [("textDocument/willSaveWaitUntil", record "WillSaveTextDocumentParams"
      [field "textDocument" document, field "reason" number]),
    ("textDocument/documentLink", query "DocumentLinkParams" [field "textDocument" document]),
    ("documentLink/resolve", documentLink),
    ("textDocument/codeLens", query "CodeLensParams" [field "textDocument" document]),
    ("codeLens/resolve", codeLens),
    ("textDocument/foldingRange", query "FoldingRangeParams" [field "textDocument" document]),
    ("textDocument/selectionRange", query "SelectionRangeParams"
      [field "textDocument" document, field "positions" (listOf position)]),
    ("textDocument/documentSymbol", query "DocumentSymbolParams"
      [field "textDocument" document]),
    ("textDocument/semanticTokens/full", query "SemanticTokensParams"
      [field "textDocument" document]),
    ("textDocument/semanticTokens/full/delta", query "SemanticTokensDeltaParams"
      [field "textDocument" document, field "previousResultId" text]),
    ("textDocument/semanticTokens/range", query "SemanticTokensRangeParams"
      [field "textDocument" document, field "range" range]),
    ("textDocument/inlineValue", merged "InlineValueParams"
      [field "textDocument" document, field "range" range,
        field "context" (record "InlineValueContext"
          [field "frameId" number, field "stoppedLocation" range])]
      [progress]),
    ("textDocument/inlayHint", merged "InlayHintParams"
      [field "textDocument" document, field "range" range] [progress]),
    ("inlayHint/resolve", inlayHint),
    ("textDocument/diagnostic", query "DocumentDiagnosticParams"
      [field "textDocument" document, optional "identifier" text,
        optional "previousResultId" text]),
    ("workspace/diagnostic", query "WorkspaceDiagnosticParams"
      [optional "identifier" text,
        field "previousResultIds" (listOf (record "PreviousResultId"
          [field "uri" uri, field "value" text]))]),
    ("textDocument/codeAction", query "CodeActionParams"
      [field "textDocument" document, field "range" range,
        field "context" codeActionContext]),
    ("codeAction/resolve", codeAction),
    ("textDocument/documentColor", query "DocumentColorParams"
      [field "textDocument" document]),
    ("textDocument/colorPresentation", query "ColorPresentationParams"
      [field "textDocument" document, field "color" color, field "range" range]),
    ("textDocument/formatting", merged "DocumentFormattingParams"
      [field "textDocument" document, field "options" formattingOptions] [progress]),
    ("textDocument/rangeFormatting", merged "DocumentRangeFormattingParams"
      [field "textDocument" document, field "range" range, field "options" formattingOptions]
      [progress]),
    ("workspace/symbol", merged "WorkspaceSymbolParams" [field "query" text]
      [partialResults, progress]),
    ("workspaceSymbol/resolve", workspaceSymbol),
    ("workspace/willCreateFiles", files "CreateFilesParams" "FileCreate" ["uri"]),
    ("workspace/willRenameFiles", files "RenameFilesParams" "FileRename" ["oldUri", "newUri"]),
    ("workspace/willDeleteFiles", files "DeleteFilesParams" "FileDelete" ["uri"]),
    ("workspace/executeCommand", merged "ExecuteCommandParams"
      [field "command" text, .withDefault "arguments" () (listOf any)] [progress])]

/-- Requests about a position in a document, and about what was found at one. -/
def ofPlaces : List (String × Shape) :=
  [("textDocument/declaration", gotoParams),
    ("textDocument/definition", gotoParams),
    ("textDocument/typeDefinition", gotoParams),
    ("textDocument/implementation", gotoParams),
    ("textDocument/references", placeListQuery "ReferenceParams"
      [field "context" (record "ReferenceContext" [field "includeDeclaration" flag])]),
    ("textDocument/prepareCallHierarchy", placeQuery "CallHierarchyPrepareParams" []),
    ("callHierarchy/incomingCalls", query "CallHierarchyIncomingCallsParams"
      [field "item" callItem]),
    ("callHierarchy/outgoingCalls", query "CallHierarchyOutgoingCallsParams"
      [field "item" callItem]),
    ("textDocument/prepareTypeHierarchy", placeQuery "TypeHierarchyPrepareParams" []),
    ("typeHierarchy/supertypes", query "TypeHierarchySupertypesParams"
      [field "item" typeItem]),
    ("typeHierarchy/subtypes", query "TypeHierarchySubtypesParams" [field "item" typeItem]),
    ("textDocument/documentHighlight", placeListQuery "DocumentHighlightParams" []),
    ("textDocument/hover", placeQuery "HoverParams" []),
    ("textDocument/moniker", placeListQuery "MonikerParams" []),
    ("textDocument/completion", placeListQuery "CompletionParams"
      [optional "context" completionContext]),
    ("completionItem/resolve", completionItem),
    ("textDocument/signatureHelp", placeQuery "SignatureHelpParams"
      [optional "context" signatureHelpContext]),
    ("textDocument/onTypeFormatting", merged "DocumentOnTypeFormattingParams"
      [field "ch" text, field "options" formattingOptions] [place]),
    ("textDocument/rename", placeQuery "RenameParams" [field "newName" text]),
    ("textDocument/prepareRename", record "TextDocumentPositionParams" placeFields),
    ("textDocument/linkedEditingRange", placeQuery "LinkedEditingRangeParams" [])]

/-- All standard requests that are not offered. -/
def shapes : List (String × Shape) :=
  ofDocuments ++ ofPlaces

end Request

end VersionedText
