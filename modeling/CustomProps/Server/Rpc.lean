import CustomProps.Json.Parse
import CustomProps.Json.Print
import CustomProps.Server.Step

/-!
How messages travel. A message is JSON text after a header that gives its length in bytes. A
request carries an id, which comes back with its answer; the server's own question to the client
has an id as well.
-/

namespace CustomProps

namespace Rpc

/-- The bytes of a message with its header. -/
def frame (j : Json) : Bytes :=
  let body := j.print.utf8
  Text.utf8 ("Content-Length: ".toList ++ Text.ofNat body.length ++ "\r\n\r\n".toList) ++ body

/-- The length that one line of a header gives. -/
def contentLength? (line : Text) : Option Nat := do
  let value ← Text.after? "content-length:".toList (line.map Char.toLower)
  match Json.parse? value with
  | some (.int (.ofNat n)) => some n
  | _ => none

/-- What a client sends: a message, with its id if it expects an answer, or the answer to a question
of the server. -/
inductive Incoming where
  | message (id : Option Json) (m : Message)
  | response (id : Json) (result : Json)

def incoming? (j : Json) : Option Incoming :=
  match j.field? "method", j.field? "id" with
  | some (.str method), id => some (.message id ⟨method, j.field? "params", id.isSome⟩)
  | none, some id => some (.response id ((j.field? "result").getD .null))
  | _, _ => none

def envelope (fields : List (String × Json)) : Json :=
  .mkObj (("jsonrpc", .ofString "2.0") :: fields)

def errorText : RpcError → String
  | .notSetUp => "Server not initialized"
  | .invalidRequest => "Invalid request"
  | .methodNotFound => "Method not found"
  | .invalidParams => "Invalid params"

/-- The answer to the request of an id. -/
def answer? (id : Json) : Reply → Option Json
  | .result value => some (envelope [("id", id), ("result", value)])
  | .failure e => some (envelope [("id", id), ("error", .mkObj [("code", .int e.code),
      ("message", .ofString (errorText e))])])
  | .none | .exited => none

def levelNumber : LogLevel → Nat
  | .error => 1
  | .info => 3

/-- A log line for the client. -/
def log? : ClientMessage → Option Json
  | .log level text => some (envelope [("method", .ofString "window/logMessage"),
      ("params", .mkObj [("type", .ofNat (levelNumber level)), ("message", .str text)])])
  | .askFolders => none

/-- The question for the client's folders. -/
def askFolders (id : Json) : Json :=
  envelope [("id", id), ("method", .ofString "workspace/workspaceFolders")]

/-- Whether the server asks for the client's folders on a message. -/
def asksFolders (s : Server) (m : Message) : Bool :=
  s.phase == .running && m.method == "initialized".toList

/-- The directories that a message makes the server walk. -/
def trees (s : Server) (m : Message) (folders : Json) : List Path :=
  let known : List Uri := match String.ofList m.method with
    | "initialized" => (Wire.clientFolders? folders).getD s.folders
    | "workspace/didChangeWorkspaceFolders" =>
      match m.params.bind Wire.folderEvent? with
      | some (added, _) => s.folders ++ added
      | none => []
    | _ => []
  known.filterMap Uri.filePath?

/-- The files that a message makes the server read. -/
def files (m : Message) : List Path :=
  let uris : List Uri := match String.ofList m.method with
    | "textDocument/didClose" => (m.params.bind Wire.closed?).toList
    | "workspace/didChangeWatchedFiles" =>
      match m.params.bind Wire.fileEvents? with
      | some events => events.map (·.1)
      | none => []
    | _ => []
  uris.filterMap Uri.filePath?

end Rpc

end CustomProps
