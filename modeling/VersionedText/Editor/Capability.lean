import VersionedText.Editor.Shape

namespace VersionedText.Shape

/-!
# Shapes of client capabilities

At the start of a session an editor tells what it is capable of.  Nothing depends
on it, but it has to be well-formed.
-/

open Json (Fields)

/-- A capability that may be there or not. -/
def ability (name : String) : Fields Unit :=
  optional name flag

/-- A capability that can be registered while the session lasts. -/
def registered : Fields Unit :=
  ability "dynamicRegistration"

/-- A capability of which no more is told than whether it can be registered. -/
def plain (name : String) : Fields Unit :=
  optional name (record "DynamicRegistrationClientCapabilities" [registered])

/-- A capability of which no more is told than whether it can be refreshed. -/
def refreshed (name title : String) : Fields Unit :=
  optional name (record title [ability "refreshSupport"])

/-- Properties that can be filled in later. -/
def resolved (title : String) : Fields Unit :=
  optional "resolveSupport" (record title [field "properties" (listOf text)])

/-- Tags that are known; earlier editors only told whether there are any. -/
def tagSupport : Fields Unit :=
  omissible "tagSupport" fun reading value =>
    match value with
    | .boolean _ => .ok ()
    | _ => record "TagSupport" [field "valueSet" (listOf number)] reading value

/-- The kinds of symbols that are known. -/
def symbolKinds : Fields Unit :=
  optional "symbolKind" (record "SymbolKindCapability" [optional "valueSet" (listOf number)])

/-- How documentation may be marked up. -/
def documentationFormat : Fields Unit :=
  optional "documentationFormat" (listOf markupKind)

/-- How edits to a workspace are carried out. -/
def workspaceEditCapabilities : Shape :=
  record "WorkspaceEditClientCapabilities"
    [ability "documentChanges",
      optional "resourceOperations" (listOf (nameAmong ["create", "rename", "delete"])),
      optional "failureHandling"
        (nameAmong ["abort", "transactional", "textOnlyTransactional", "undo"]),
      ability "normalizesLineEndings",
      optional "changeAnnotationSupport"
        (record "ChangeAnnotationWorkspaceEditClientCapabilities" [ability "groupsOnLabel"])]

/-- What an editor is capable of with a workspace. -/
def workspaceCapabilities : Shape :=
  record "WorkspaceClientCapabilities"
    [ability "applyEdit", optional "workspaceEdit" workspaceEditCapabilities,
      plain "didChangeConfiguration",
      optional "didChangeWatchedFiles" (record "DidChangeWatchedFilesClientCapabilities"
        [registered, ability "relativePatternSupport"]),
      optional "symbol" (record "WorkspaceSymbolClientCapabilities"
        [registered, symbolKinds, tagSupport,
          resolved "WorkspaceSymbolResolveSupportCapability"]),
      plain "executeCommand", ability "workspaceFolders", ability "configuration",
      refreshed "semanticTokens" "SemanticTokensWorkspaceClientCapabilities",
      refreshed "codeLens" "CodeLensWorkspaceClientCapabilities",
      optional "fileOperations" (record "WorkspaceFileOperationsClientCapabilities"
        [registered, ability "didCreate", ability "willCreate", ability "didRename",
          ability "willRename", ability "didDelete", ability "willDelete"]),
      refreshed "inlineValue" "InlineValueWorkspaceClientCapabilities",
      refreshed "inlayHint" "InlayHintWorkspaceClientCapabilities",
      refreshed "diagnostic" "DiagnosticWorkspaceClientCapabilities"]

/-- How proposals for completion may look. -/
def completionItemCapabilities : Shape :=
  record "CompletionItemCapability"
    [ability "snippetSupport", ability "commitCharactersSupport", documentationFormat,
      ability "deprecatedSupport", ability "preselectSupport", tagSupport,
      ability "insertReplaceSupport", resolved "CompletionItemCapabilityResolveSupport",
      optional "insertTextModeSupport"
        (record "InsertTextModeSupport" [field "valueSet" (listOf number)]),
      ability "labelDetailsSupport"]

/-- How completion works. -/
def completionCapabilities : Shape :=
  record "CompletionClientCapabilities"
    [registered, optional "completionItem" completionItemCapabilities,
      optional "completionItemKind"
        (record "CompletionItemKindCapability" [optional "valueSet" (listOf number)]),
      ability "contextSupport", optional "insertTextMode" number,
      optional "completionList"
        (record "CompletionListCapability" [optional "itemDefaults" (listOf text)])]

/-- How signatures are shown. -/
def signatureCapabilities : Shape :=
  record "SignatureHelpClientCapabilities"
    [registered,
      optional "signatureInformation" (record "SignatureInformationSettings"
        [documentationFormat,
          optional "parameterInformation"
            (record "ParameterInformationSettings" [ability "labelOffsetSupport"]),
          ability "activeParameterSupport"]),
      ability "contextSupport"]

/-- How actions are offered. -/
def codeActionCapabilities : Shape :=
  record "CodeActionClientCapabilities"
    [registered,
      optional "codeActionLiteralSupport" (record "CodeActionLiteralSupport"
        [field "codeActionKind"
          (record "CodeActionKindLiteralSupport" [field "valueSet" (listOf text)])]),
      ability "isPreferredSupport", ability "disabledSupport", ability "dataSupport",
      resolved "CodeActionCapabilityResolveSupport", ability "honorsChangeAnnotations"]

/-- How ranges are folded. -/
def foldingCapabilities : Shape :=
  record "FoldingRangeClientCapabilities"
    [registered, optional "rangeLimit" count, ability "lineFoldingOnly",
      optional "foldingRangeKind" (record "FoldingRangeKindCapability"
        [optional "valueSet" (listOf (nameAmong ["comment", "imports", "region"]))]),
      optional "foldingRange" (record "FoldingRangeCapability" [ability "collapsedText"])]

/-- How the meaning of words is shown. -/
def semanticTokenCapabilities : Shape :=
  record "SemanticTokensClientCapabilities"
    [registered,
      field "requests" (record "SemanticTokensClientCapabilitiesRequests"
        [ability "range",
          optional "full" (oneOf "SemanticTokensFullOptions"
            [flag, record "SemanticTokensFullOptions" [ability "delta"]])]),
      field "tokenTypes" (listOf text), field "tokenModifiers" (listOf text),
      field "formats" (listOf text), ability "overlappingTokenSupport",
      ability "multilineTokenSupport", ability "serverCancelSupport",
      ability "augmentsSyntaxTokens"]

/-- How one looks up where something is declared, defined or carried out. -/
def gotoCapability (name : String) : Fields Unit :=
  optional name (record "GotoCapability" [registered, ability "linkSupport"])

/-- What an editor is capable of with the text of a document. -/
def documentCapabilities : Shape :=
  record "TextDocumentClientCapabilities"
    [optional "synchronization" (record "TextDocumentSyncClientCapabilities"
        [registered, ability "willSave", ability "willSaveWaitUntil", ability "didSave"]),
      optional "completion" completionCapabilities,
      optional "hover" (record "HoverClientCapabilities"
        [registered, optional "contentFormat" (listOf markupKind)]),
      optional "signatureHelp" signatureCapabilities, plain "references",
      plain "documentHighlight",
      optional "documentSymbol" (record "DocumentSymbolClientCapabilities"
        [registered, symbolKinds, ability "hierarchicalDocumentSymbolSupport", tagSupport]),
      plain "formatting", plain "rangeFormatting", plain "onTypeFormatting",
      gotoCapability "declaration", gotoCapability "definition",
      gotoCapability "typeDefinition", gotoCapability "implementation",
      optional "codeAction" codeActionCapabilities, plain "codeLens",
      optional "documentLink" (record "DocumentLinkClientCapabilities"
        [registered, ability "tooltipSupport"]),
      plain "colorProvider",
      optional "rename" (record "RenameClientCapabilities"
        [registered, ability "prepareSupport", optional "prepareSupportDefaultBehavior" number,
          ability "honorsChangeAnnotations"]),
      optional "publishDiagnostics" (record "PublishDiagnosticsClientCapabilities"
        [ability "relatedInformation", tagSupport, ability "versionSupport",
          ability "codeDescriptionSupport", ability "dataSupport"]),
      optional "foldingRange" foldingCapabilities,
      optional "selectionRange" (record "SelectionRangeClientCapabilities" [registered]),
      plain "linkedEditingRange", plain "callHierarchy",
      optional "semanticTokens" semanticTokenCapabilities, plain "moniker",
      plain "typeHierarchy", plain "inlineValue",
      optional "inlayHint" (record "InlayHintClientCapabilities"
        [registered, resolved "InlayHintResolveClientCapabilities"]),
      optional "diagnostic" (record "DiagnosticClientCapabilities"
        [registered, ability "relatedDocumentSupport"])]

/-- What an editor is capable of with its window. -/
def windowCapabilities : Shape :=
  record "WindowClientCapabilities"
    [ability "workDoneProgress",
      optional "showMessage" (record "ShowMessageRequestClientCapabilities"
        [optional "messageActionItem" (record "MessageActionItemCapabilities"
          [ability "additionalPropertiesSupport"])]),
      optional "showDocument"
        (record "ShowDocumentClientCapabilities" [field "support" flag])]

/-- What an editor is capable of in general. -/
def generalCapabilities : Shape :=
  record "GeneralClientCapabilities"
    [optional "regularExpressions" (record "RegularExpressionsClientCapabilities"
        [field "engine" text, optional "version" text]),
      optional "markdown" (record "MarkdownClientCapabilities"
        [field "parser" text, optional "version" text, optional "allowedTags" (listOf text)]),
      optional "staleRequestSupport" (record "StaleRequestSupportClientCapabilities"
        [field "cancel" flag, field "retryOnContentModified" (listOf text)]),
      optional "positionEncodings" (listOf text)]

/-- What an editor is capable of. -/
def capabilities : Shape :=
  record "ClientCapabilities"
    [optional "workspace" workspaceCapabilities,
      optional "textDocument" documentCapabilities, optional "window" windowCapabilities,
      optional "general" generalCapabilities, optional "experimental" any]

end VersionedText.Shape
