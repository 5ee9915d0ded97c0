import CustomProps.Protocol.Basic

/-!
What a client says it can do. All of it is optional, and the server makes no use of it, but a value
of the wrong shape makes the request that holds it unreadable.
-/

namespace CustomProps

namespace Capabilities

open Shape Member

def flags (keys : List String) : List Member := keys.map (optional · flag)

def dynamic : List Member := flags ["dynamicRegistration"]

/-- A feature that can only be registered later. -/
def plain (key : String) : Member := optional key (record dynamic)

/-- A set of numbers or names that are supported. -/
def valueSet (key : String) (s : Shape) : Member :=
  optional key (record [optional "valueSet" (list s)])

/-- Tags that are supported; a flag stands for all or none. -/
def tagSupport : Member :=
  usual "tagSupport" (orNull (oneOf [flag, record [required "valueSet" (list signedWord)]]))

def resolveSupport : Member :=
  optional "resolveSupport" (record [required "properties" (list text)])

def markupKinds (key : String) : Member := optional key (list (name ["plaintext", "markdown"]))

/-- A feature that asks for a fresh answer. -/
def refresh (key : String) : Member := optional key (record (flags ["refreshSupport"]))

/-- A feature that leads to another place. -/
def target (key : String) : Member := optional key (record (dynamic ++ flags ["linkSupport"]))

def workspace : Shape := record [
  optional "applyEdit" flag,
  optional "workspaceEdit" (record [
    optional "documentChanges" flag,
    optional "resourceOperations" (list (name ["create", "rename", "delete"])),
    optional "failureHandling"
      (name ["abort", "transactional", "textOnlyTransactional", "undo"]),
    optional "normalizesLineEndings" flag,
    optional "changeAnnotationSupport" (record (flags ["groupsOnLabel"]))]),
  plain "didChangeConfiguration",
  optional "didChangeWatchedFiles" (record (dynamic ++ flags ["relativePatternSupport"])),
  optional "symbol" (record (dynamic ++
    [valueSet "symbolKind" signedWord, tagSupport, resolveSupport])),
  plain "executeCommand",
  optional "workspaceFolders" flag,
  optional "configuration" flag,
  refresh "semanticTokens",
  refresh "codeLens",
  optional "fileOperations" (record (dynamic ++
    flags ["didCreate", "willCreate", "didRename", "willRename", "didDelete", "willDelete"])),
  refresh "inlineValue",
  refresh "inlayHint",
  refresh "diagnostic"]

def completionItem : Shape := record [
  optional "snippetSupport" flag,
  optional "commitCharactersSupport" flag,
  markupKinds "documentationFormat",
  optional "deprecatedSupport" flag,
  optional "preselectSupport" flag,
  tagSupport,
  optional "insertReplaceSupport" flag,
  resolveSupport,
  optional "insertTextModeSupport" (record [required "valueSet" (list signedWord)]),
  optional "labelDetailsSupport" flag]

def completion : Shape := record (dynamic ++ [
  optional "completionItem" completionItem,
  valueSet "completionItemKind" signedWord,
  optional "contextSupport" flag,
  optional "insertTextMode" signedWord,
  optional "completionList" (record [optional "itemDefaults" (list text)])])

def signatureHelp : Shape := record (dynamic ++ [
  optional "signatureInformation" (record [
    markupKinds "documentationFormat",
    optional "parameterInformation" (record (flags ["labelOffsetSupport"])),
    optional "activeParameterSupport" flag]),
  optional "contextSupport" flag])

def codeAction : Shape := record (dynamic ++ [
  optional "codeActionLiteralSupport" (record [
    required "codeActionKind" (record [required "valueSet" (list text)])]),
  optional "isPreferredSupport" flag,
  optional "disabledSupport" flag,
  optional "dataSupport" flag,
  resolveSupport,
  optional "honorsChangeAnnotations" flag])

def semanticTokens : Shape := record (dynamic ++ [
  required "requests" (record [
    optional "range" flag,
    optional "full" (oneOf [flag, record (flags ["delta"])])]),
  required "tokenTypes" (list text),
  required "tokenModifiers" (list text),
  required "formats" (list (name ["relative"]))] ++
  flags ["overlappingTokenSupport", "multilineTokenSupport", "serverCancelSupport",
    "augmentsSyntaxTokens"])

def textDocument : Shape := record [
  optional "synchronization"
    (record (dynamic ++ flags ["willSave", "willSaveWaitUntil", "didSave"])),
  optional "completion" completion,
  optional "hover" (record (dynamic ++ [markupKinds "contentFormat"])),
  optional "signatureHelp" signatureHelp,
  plain "references",
  plain "documentHighlight",
  optional "documentSymbol" (record (dynamic ++ [valueSet "symbolKind" signedWord,
    optional "hierarchicalDocumentSymbolSupport" flag, tagSupport])),
  plain "formatting",
  plain "rangeFormatting",
  plain "onTypeFormatting",
  target "declaration",
  target "definition",
  target "typeDefinition",
  target "implementation",
  optional "codeAction" codeAction,
  plain "codeLens",
  optional "documentLink" (record (dynamic ++ flags ["tooltipSupport"])),
  plain "colorProvider",
  optional "rename" (record (dynamic ++ [optional "prepareSupport" flag,
    optional "prepareSupportDefaultBehavior" signedWord,
    optional "honorsChangeAnnotations" flag])),
  optional "publishDiagnostics" (record ([optional "relatedInformation" flag, tagSupport] ++
    flags ["versionSupport", "codeDescriptionSupport", "dataSupport"])),
  optional "foldingRange" (record (dynamic ++ [optional "rangeLimit" word,
    optional "lineFoldingOnly" flag,
    valueSet "foldingRangeKind" (name ["comment", "imports", "region"]),
    optional "foldingRange" (record (flags ["collapsedText"]))])),
  plain "selectionRange",
  plain "linkedEditingRange",
  plain "callHierarchy",
  optional "semanticTokens" semanticTokens,
  plain "moniker",
  plain "typeHierarchy",
  plain "inlineValue",
  optional "inlayHint" (record (dynamic ++ [resolveSupport])),
  optional "diagnostic" (record (dynamic ++ flags ["relatedDocumentSupport"]))]

def window : Shape := record [
  optional "workDoneProgress" flag,
  optional "showMessage" (record [
    optional "messageActionItem" (record (flags ["additionalPropertiesSupport"]))]),
  optional "showDocument" (record [required "support" flag])]

def general : Shape := record [
  optional "regularExpressions" (record [required "engine" text, optional "version" text]),
  optional "markdown" (record [required "parser" text, optional "version" text,
    optional "allowedTags" (list text)]),
  optional "staleRequestSupport" (record [required "cancel" flag,
    required "retryOnContentModified" (list text)]),
  optional "positionEncodings" (list text)]

/-- All that a client can do. -/
def client : Shape := record [
  optional "workspace" workspace,
  optional "textDocument" textDocument,
  optional "window" window,
  optional "general" general,
  optional "experimental" any]

end Capabilities

end CustomProps
