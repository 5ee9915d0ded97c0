import CustomProps.Protocol.Capabilities
import CustomProps.Server.Answer
import CustomProps.Server.Sync
import CustomProps.Settings.Client

/-!
The JSON form of what client and server send each other. Reading is strict: a missing field, a
value of the wrong type, a URI that is none or a number out of range makes the whole value
unreadable. Fields that are not known do not count.
-/

namespace CustomProps

namespace Wire

/-! Reading. -/

def uri? (j : Json) : Option Uri := j.text?.bind Uri.parse?

/-- The fields of a record, all of them present. -/
def fields? (keys : List String) (j : Json) : Option (List Json) :=
  (j.record? keys).bind (·.mapM id)

/-- A field that may be missing or null. -/
def optional? (read : Json → Option α) (field : Option Json) : Option (Option α) :=
  ClientOptions.read? read field

def position? (j : Json) : Option Position := do
  match ← fields? ["line", "character"] j with
  | [line, column] => return ⟨← line.word?, ← column.word?⟩
  | _ => none

def range? (j : Json) : Option Range := do
  match ← fields? ["start", "end"] j with
  | [start, stop] => return ⟨← position? start, ← position? stop⟩
  | _ => none

/-- A document that is named by its URI alone. -/
def documentId? (j : Json) : Option Uri := do
  match ← fields? ["uri"] j with
  | [uri] => uri? uri
  | _ => none

/-- A mark that names a request or its progress. -/
def mark? : Json → Option Unit
  | .str _ => some ()
  | j => j.signedWord?.map fun _ => ()

/-- A document and a position in it, in an object that may name progress marks. -/
def documentPosition? (j : Json) : Option (Uri × Position) := do
  if !j.isObj then none
  else
    let uri ← documentId? (← j.field? "textDocument")
    let position ← position? (← j.field? "position")
    let _ ← j.maybe? "workDoneToken" mark?
    return (uri, position)

/-- What set off a completion request. -/
def trigger? (j : Json) : Option Unit := do
  match ← j.record? ["triggerKind", "triggerCharacter"] with
  | [some kind, character] =>
    let _ ← kind.signedWord?
    let _ ← optional? Json.text? character
    return ()
  | _ => none

def completion? (j : Json) : Option (Uri × Position) := do
  let found ← documentPosition? j
  let _ ← j.maybe? "partialResultToken" mark?
  let _ ← j.maybe? "context" trigger?
  return found

def definition? (j : Json) : Option (Uri × Position) := do
  let found ← documentPosition? j
  let _ ← j.maybe? "partialResultToken" mark?
  return found

structure Opened where
  uri : Uri
  language : Text
  text : Text
  deriving DecidableEq, Repr

def opened? (j : Json) : Option Opened := do
  match ← fields? ["textDocument"] j with
  | [document] =>
    match ← fields? ["uri", "languageId", "version", "text"] document with
    | [uri, language, version, text] =>
      let _ ← version.signedWord?
      return ⟨← uri? uri, ← language.text?, ← text.text?⟩
    | _ => none
  | _ => none

def change? (j : Json) : Option Change := do
  match ← j.record? ["range", "rangeLength", "text"] with
  | [range, length, some text] =>
    let range ← optional? range? range
    let _ ← optional? Json.word? length
    return ⟨range, ← text.text?⟩
  | _ => none

def changed? (j : Json) : Option (Uri × List Change) := do
  match ← fields? ["textDocument", "contentChanges"] j with
  | [document, changes] =>
    match ← fields? ["uri", "version"] document with
    | [uri, version] =>
      let uri ← uri? uri
      let _ ← version.signedWord?
      return (uri, ← changes.list? change?)
    | _ => none
  | _ => none

def closed? (j : Json) : Option Uri := do
  match ← fields? ["textDocument"] j with
  | [document] => documentId? document
  | _ => none

def fileEvent? (j : Json) : Option (Uri × FileEvent) := do
  match ← fields? ["uri", "type"] j with
  | [uri, kind] =>
    let uri ← uri? uri
    let kind ← kind.signedWord?
    return (uri, if kind = 1 ∨ kind = 2 then .written else if kind = 3 then .deleted else .other)
  | _ => none

def fileEvents? (j : Json) : Option (List (Uri × FileEvent)) := do
  match ← fields? ["changes"] j with
  | [changes] => changes.list? fileEvent?
  | _ => none

/-- A workspace folder, which must have a name. -/
def folder? (j : Json) : Option Uri := do
  match ← fields? ["uri", "name"] j with
  | [uri, name] =>
    let _ ← name.text?
    uri? uri
  | _ => none

/-- Folders that were added, and folders that were removed. -/
def folderEvent? (j : Json) : Option (List Uri × List Uri) := do
  match ← fields? ["event"] j with
  | [event] =>
    match ← fields? ["added", "removed"] event with
    | [added, removed] => return (← added.list? folder?, ← removed.list? folder?)
    | _ => none
  | _ => none

/-- The client's answer to the question for its folders; anything but a list of them is none. -/
def clientFolders? (j : Json) : Option (List Uri) := j.list? folder?

/-- What a client sends to set up the connection. -/
structure Setup where
  options : Option ClientOptions
  folders : List Uri
  deriving DecidableEq, Repr

/-- How much the client wants to be told. -/
def traceLevel : Shape := .name ["off", "messages", "verbose"]

def clientInfo : Shape := .record [.required "name" .text, .optional "version" .text]

/-- A value that must have a shape but is not used. -/
def checked? (s : Shape) (j : Json) : Option Unit := if s j then some () else none

/-- Options that cannot be read are passed over. The folders are the workspace folders if any list
of them is given, and the root otherwise. -/
def setup? (j : Json) : Option Setup := do
  match ← j.record? ["processId", "rootPath", "rootUri", "initializationOptions", "capabilities",
    "trace", "workspaceFolders", "clientInfo", "locale"] with
  | [processId, rootPath, root, options, some capabilities, trace, folders, info, locale] =>
    let _ ← optional? Json.word? processId
    let _ ← optional? Json.text? rootPath
    let root ← optional? uri? root
    let _ ← checked? Capabilities.client capabilities
    let _ ← optional? (checked? traceLevel) trace
    let folders ← optional? (Json.list? folder?) folders
    let _ ← optional? (checked? clientInfo) info
    let _ ← optional? Json.text? locale
    return ⟨options.bind ClientOptions.ofJson?, folders.getD root.toList⟩
  | _ => none

/-- The empty record. -/
def nothing? : Json → Option Unit
  | .obj _ | .arr [] => some ()
  | _ => none

/-! Writing. -/

def ofPosition (p : Position) : Json :=
  .mkObj [("line", .ofNat p.line), ("character", .ofNat p.column)]

def ofRange (r : Range) : Json :=
  .mkObj [("start", ofPosition r.start), ("end", ofPosition r.stop)]

def markdown (t : Text) : Json := .mkObj [("kind", .ofString "markdown"), ("value", .str t)]

def ofHover (value : Text) : Json := .mkObj [("contents", markdown value)]

def ofLocation (l : Location) : Json :=
  .mkObj [("uri", .str l.uri.text), ("range", ofRange l.range)]

/-- A single place is written alone, several as a list. -/
def ofLocations : List Location → Json
  | [l] => ofLocation l
  | ls => .arr (ls.map ofLocation)

def kindNumber : ItemKind → Nat
  | .color => 16
  | .value => 6

def ofItem (i : CompletionItem) : Json :=
  .mkObj [("label", .str i.label), ("kind", .ofNat (kindNumber i.kind)), ("detail", .str i.detail),
    ("documentation", markdown i.documentation), ("filterText", .str i.filterText),
    ("textEdit", .mkObj [("newText", .str i.insertText), ("range", ofRange i.replaced)])]

/-- What the server can do, and its name. -/
def capabilities : Json :=
  .mkObj [
    ("capabilities", .mkObj [
      ("textDocumentSync", .ofNat 2),
      ("completionProvider", .mkObj [
        ("resolveProvider", .bool false), ("triggerCharacters", .arr [.ofString "-"])]),
      ("hoverProvider", .bool true),
      ("definitionProvider", .bool true),
      ("workspace", .mkObj [
        ("workspaceFolders", .mkObj [
          ("supported", .bool true), ("changeNotifications", .bool true)])])]),
    ("serverInfo", .mkObj [
      ("name", .ofString "styled-vars-lsp"), ("version", .ofString "0.1.0")])]

end Wire

end CustomProps
