import CustomProps.Json.Shape
import CustomProps.Uri.Parse

/-!
Shapes that many messages of the language server protocol share: places in documents, edits of them,
and what is shown beside them.
-/

namespace CustomProps

namespace Protocol

open Shape Member

def uri : Shape := fun j => (j.text?.bind Uri.parse?).isSome

def position : Shape := record [required "line" word, required "character" word]

def range : Shape := record [required "start" position, required "end" position]

def location : Shape := record [required "uri" uri, required "range" range]

/-- A document by its URI alone. -/
def document : Shape := record [required "uri" uri]

/-- A document and a position in it. -/
def place : List Member := [required "textDocument" document, required "position" position]

/-- A number or a text, as requests and codes are marked. -/
def mark : Shape := oneOf [signedWord, text]

/-- Fields by which progress on a request may be asked for. -/
def progress : List Member := [optional "workDoneToken" mark]

def partialProgress : List Member := progress ++ [optional "partialResultToken" mark]

def markup : Shape :=
  record [required "kind" (name ["plaintext", "markdown"]), required "value" text]

/-- Plain text or marked up text. -/
def note : Shape := oneOf [text, markup]

def command : Shape :=
  record [required "title" text, required "command" text, optional "arguments" (list any)]

def edit : Shape := record [required "range" range, required "newText" text]

def symbolTags : Member := optional "tags" (list signedWord)

/-! Edits of several documents. -/

def noteEdit : Shape :=
  openRecord [required "range" range, required "newText" text, required "annotationId" text]

def documentEdit : Shape := record [
  required "textDocument" (record [required "uri" uri, optional "version" signedWord]),
  required "edits" (list (oneOf [edit, noteEdit]))]

/-- An object that names what is done to a file. -/
def fileOperation (kind : String) (members : List Member) : Shape :=
  openRecord (required "kind" (fun j => j.text? == some kind.toList) :: members)

def writeOptions : Member :=
  optional "options" (record [optional "overwrite" flag, optional "ignoreIfExists" flag])

def fileOperations : List Shape := [
  fileOperation "create" [required "uri" uri, writeOptions, optional "annotationId" text],
  fileOperation "rename"
    [required "oldUri" uri, required "newUri" uri, writeOptions, optional "annotationId" text],
  fileOperation "delete" [required "uri" uri,
    optional "options" (record [optional "recursive" flag, optional "ignoreIfNotExists" flag,
      optional "annotationId" text])]]

def change : Shape := oneOf (fileOperations ++ [documentEdit])

def workspaceEdit : Shape := record [
  optional "changes" (table (fun k => (Uri.parse? k).isSome) (list edit)),
  optional "documentChanges" (oneOf [list documentEdit, list change]),
  optional "changeAnnotations" (table (fun _ => true) (record [required "label" text,
    optional "needsConfirmation" flag, optional "description" text]))]

/-! Problems found in a document. -/

def diagnostic : Shape := record [
  required "range" range, optional "severity" signedWord, optional "code" mark,
  optional "codeDescription" (record [required "href" uri]), optional "source" text,
  required "message" text,
  optional "relatedInformation"
    (list (record [required "location" location, required "message" text])),
  optional "tags" (list signedWord), optional "data" any]

end Protocol

end CustomProps
