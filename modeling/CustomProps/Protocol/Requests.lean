import CustomProps.Protocol.Basic

/-!
The requests that the protocol has and this server does not answer, each with the shape of its
parameters. They are refused, but first for parameters of the wrong shape.
-/

namespace CustomProps

namespace Protocol

open Shape Member

/-- A request about one document. -/
def ofDocument (members : List Member) : Shape :=
  openRecord (required "textDocument" document :: partialProgress ++ members)

/-- A request about a place in a document. -/
def ofPlace (members : List Member) : Shape := openRecord (place ++ progress ++ members)

def ofPlaceInParts : Shape := openRecord (place ++ partialProgress)

/-- A callable, class or the like with its places in a document. -/
def hierarchyItem (tags : Member) : Shape := record [
  required "name" text, required "kind" signedWord, tags, optional "detail" text,
  required "uri" uri, required "range" range, required "selectionRange" range,
  optional "data" any]

def ofItem (tags : Member) : Shape :=
  openRecord (required "item" (hierarchyItem tags) :: partialProgress)

def callItem : Shape := ofItem symbolTags

def typeItem : Shape := ofItem (optional "tags" signedWord)

/-- How a document is to be laid out; options that are not known are flags, numbers or texts. -/
def layout : Shape
  | j@(.obj fields) =>
    openRecord [required "tabSize" word, required "insertSpaces" flag,
      optional "trimTrailingWhitespace" flag, optional "insertFinalNewline" flag,
      optional "trimFinalNewlines" flag] j &&
    fields.all fun (k, v) =>
      ["tabSize", "insertSpaces", "trimTrailingWhitespace", "insertFinalNewline",
        "trimFinalNewlines"].any (·.toList == k) || oneOf [flag, signedWord, text] v
  | _ => false

def parameterInformation : Shape :=
  record [required "label" (oneOf [text, pair word]), optional "documentation" note]

def signature : Shape := record [
  required "label" text, optional "documentation" note,
  optional "parameters" (list parameterInformation), optional "activeParameter" word]

def signatureContext : Shape := record [
  required "triggerKind" signedWord, optional "triggerCharacter" text,
  required "isRetrigger" flag,
  optional "activeSignatureHelp" (record [required "signatures" (list signature),
    optional "activeSignature" word, optional "activeParameter" word])]

def completionItem : Shape := record [
  required "label" text,
  optional "labelDetails" (record [optional "detail" text, optional "description" text]),
  optional "kind" signedWord, optional "detail" text, optional "documentation" note,
  optional "deprecated" flag, optional "preselect" flag, optional "sortText" text,
  optional "filterText" text, optional "insertText" text, optional "insertTextFormat" signedWord,
  optional "insertTextMode" signedWord,
  optional "textEdit" (oneOf [edit, record [required "newText" text, required "insert" range,
    required "replace" range]]),
  optional "additionalTextEdits" (list edit), optional "command" command,
  optional "commitCharacters" (list text), optional "data" any,
  optional "tags" (list signedWord)]

def codeAction : Shape := record [
  required "title" text, optional "kind" text, optional "diagnostics" (list diagnostic),
  optional "edit" workspaceEdit, optional "command" command, optional "isPreferred" flag,
  optional "disabled" (record [required "reason" text]), optional "data" any]

def inlayHint : Shape := record [
  required "position" position,
  required "label" (oneOf [text, list (record [required "value" text, optional "tooltip" note,
    optional "location" location, optional "command" command])]),
  optional "kind" signedWord, optional "textEdits" (list edit), optional "tooltip" note,
  optional "paddingLeft" flag, optional "paddingRight" flag, optional "data" any]

def workspaceSymbol : Shape := record [
  required "name" text, required "kind" signedWord, symbolTags, optional "containerName" text,
  required "location" (oneOf [location, document]), optional "data" any]

def color : Shape := record (["red", "green", "blue", "alpha"].map (required · number))

/-- Files by the given keys. -/
def files (keys : List String) : Shape :=
  record [required "files" (list (record (keys.map (required · text))))]

/-- The parameters of a request about a document. -/
def documentRequest? : String → Option Shape
  | "declaration" | "typeDefinition" | "implementation" | "documentHighlight" | "moniker" =>
    some ofPlaceInParts
  | "references" => some (openRecord (place ++ partialProgress ++
      [required "context" (record [required "includeDeclaration" flag])]))
  | "prepareCallHierarchy" | "prepareTypeHierarchy" | "linkedEditingRange" => some (ofPlace [])
  | "signatureHelp" => some (ofPlace [optional "context" signatureContext])
  | "rename" => some (ofPlace [required "newName" text])
  | "prepareRename" => some (record place)
  | "onTypeFormatting" => some (openRecord (place ++
      [required "ch" text, required "options" layout]))
  | "documentLink" | "codeLens" | "foldingRange" | "documentSymbol" | "documentColor" |
    "semanticTokens/full" => some (ofDocument [])
  | "semanticTokens/full/delta" => some (ofDocument [required "previousResultId" text])
  | "semanticTokens/range" => some (ofDocument [required "range" range])
  | "selectionRange" => some (ofDocument [required "positions" (list position)])
  | "colorPresentation" =>
    some (ofDocument [required "color" color, required "range" range])
  | "diagnostic" => some (ofDocument [optional "identifier" text,
      optional "previousResultId" text])
  | "codeAction" => some (ofDocument [required "range" range,
      required "context" (record [required "diagnostics" (list diagnostic),
        optional "only" (list text), optional "triggerKind" signedWord])])
  | "inlineValue" => some (openRecord (required "textDocument" document :: progress ++
      [required "range" range, required "context"
        (record [required "frameId" signedWord, required "stoppedLocation" range])]))
  | "inlayHint" => some (openRecord (required "textDocument" document :: progress ++
      [required "range" range]))
  | "formatting" => some (openRecord (required "textDocument" document :: progress ++
      [required "options" layout]))
  | "rangeFormatting" => some (openRecord (required "textDocument" document :: progress ++
      [required "range" range, required "options" layout]))
  | "willSaveWaitUntil" =>
    some (record [required "textDocument" document, required "reason" signedWord])
  | _ => none

/-- The parameters of a request about anything else. -/
def otherRequest? : String → Option Shape
  | "callHierarchy/incomingCalls" | "callHierarchy/outgoingCalls" => some callItem
  | "typeHierarchy/supertypes" | "typeHierarchy/subtypes" => some typeItem
  | "documentLink/resolve" => some (record [required "range" range, optional "target" uri,
      optional "tooltip" text, optional "data" any])
  | "codeLens/resolve" =>
    some (record [required "range" range, optional "command" command, optional "data" any])
  | "inlayHint/resolve" => some inlayHint
  | "completionItem/resolve" => some completionItem
  | "codeAction/resolve" => some codeAction
  | "workspaceSymbol/resolve" => some workspaceSymbol
  | "workspace/symbol" => some (openRecord (required "query" text :: partialProgress))
  | "workspace/diagnostic" => some (openRecord (partialProgress ++ [optional "identifier" text,
      required "previousResultIds" (list (record [required "uri" uri, required "value" text]))]))
  | "workspace/willCreateFiles" | "workspace/willDeleteFiles" => some (files ["uri"])
  | "workspace/willRenameFiles" => some (files ["oldUri", "newUri"])
  | "workspace/executeCommand" => some (openRecord (required "command" text ::
      progress ++ [usual "arguments" (list any)]))
  | _ => none

/-- The parameters of a request that is not answered. -/
def unanswered? (method : String) : Option Shape :=
  match Text.after? "textDocument/".toList method.toList with
  | some rest => documentRequest? (String.ofList rest)
  | none => otherRequest? method

end Protocol

end CustomProps
