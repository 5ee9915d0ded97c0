import CustomProps.Protocol.Requests
import CustomProps.Server.Rescan
import CustomProps.Server.Wire

/-!
One message of the client and what the server makes of it. Before the connection is set up only
the request that does so is answered, and after it is shut down none is; messages that expect no
answer are then dropped. The end of the connection may be announced at any time.
-/

namespace CustomProps

inductive RpcError where
  | notSetUp
  | invalidRequest
  | methodNotFound
  | invalidParams
  deriving DecidableEq, Repr

namespace RpcError

def code : RpcError → Int
  | notSetUp => -32002
  | invalidRequest => -32600
  | methodNotFound => -32601
  | invalidParams => -32602

end RpcError

/-- A request or, if it expects no answer, a notification. -/
structure Message where
  method : Text
  params : Option Json
  expectsAnswer : Bool
  deriving Repr

inductive Reply where
  | result (value : Json)
  | failure (error : RpcError)
  | none
  | exited
  deriving Repr

/-- The state after a message, the answer to it, and what else was sent to the client. -/
structure Outcome where
  server : Server
  reply : Reply
  sent : List ClientMessage
  deriving Repr

/-- The disk during a message, and the client's answer when it is asked for its folders. -/
structure World where
  disk : Disk
  folders : Json

namespace Server

/-- The notifications that the protocol has and this server passes over. -/
def idleNotifications : List String :=
  ["textDocument/willSave", "textDocument/didSave", "workspace/didChangeConfiguration",
    "workspace/didCreateFiles", "workspace/didRenameFiles", "workspace/didDeleteFiles"]

/-- The value that answers a request, or nothing where the request is none of this server's. -/
def answer? (s : Server) (method : String) : Option (Json → Option (Except RpcError Json)) :=
  match method with
  | "textDocument/hover" => some fun j => (Wire.documentPosition? j).map fun (uri, p) =>
    .ok (((s.hover? uri p).map Wire.ofHover).getD .null)
  | "textDocument/definition" => some fun j => (Wire.definition? j).map fun (uri, p) =>
    .ok (((s.definitions? uri p).map Wire.ofLocations).getD .null)
  | "textDocument/completion" => some fun j => (Wire.completion? j).map fun (uri, p) =>
    .ok (((s.completions? uri p).map fun items => .arr (items.map Wire.ofItem)).getD .null)
  | other => (Protocol.unanswered? other).map fun shape j =>
    if shape j then some (.error .methodNotFound) else none

/-- What a notification does, given its parameters, or nothing where it is none of this server's. -/
def effect? (w : World) (s : Server) (method : String) :
    Option (Json → Option (Server × List ClientMessage)) :=
  match method with
  | "initialized" => some fun j => (Wire.nothing? j).map fun _ =>
    s.ready w.disk (Wire.clientFolders? w.folders)
  | "textDocument/didOpen" => some fun j => (Wire.opened? j).map fun o =>
    (s.opened o.uri o.language o.text, [])
  | "textDocument/didChange" => some fun j => (Wire.changed? j).map fun (uri, changes) =>
    (s.changed uri changes, [])
  | "textDocument/didClose" => some fun j => (Wire.closed? j).map fun uri =>
    (s.closed w.disk uri, [])
  | "workspace/didChangeWatchedFiles" => some fun j => (Wire.fileEvents? j).map fun events =>
    (s.filesChanged w.disk events, [])
  | "workspace/didChangeWorkspaceFolders" => some fun j =>
    (Wire.folderEvent? j).map fun (added, removed) => s.foldersChanged w.disk added removed
  | other => if idleNotifications.contains other then some fun _ => some (s, []) else none

/-- Sets up the connection. -/
def setUp (s : Server) (setup : Wire.Setup) : Server :=
  let settings := Settings.start s.options
  { s with
    settings := (setup.options.map settings.adopt).getD settings
    folders := setup.folders
    phase := .running }

/-- The state kept, and an error for a message that expects an answer. -/
def refuse (s : Server) (m : Message) (e : RpcError) : Outcome :=
  ⟨s, if m.expectsAnswer then .failure e else .none, []⟩

/-- Refuses what may not be sent in the present phase. -/
def outOfPhase (s : Server) (m : Message) : Outcome :=
  s.refuse m (if s.phase = .waiting then .notSetUp else .invalidRequest)

def stepSetUp (s : Server) (m : Message) : Outcome :=
  if s.phase = .waiting then
    if m.expectsAnswer then
      match m.params.bind Wire.setup? with
      | some setup => ⟨s.setUp setup, .result Wire.capabilities, []⟩
      | none => ⟨s, .failure .invalidParams, []⟩
    else ⟨s, .none, []⟩
  else s.refuse m .invalidRequest

/-- Shuts the connection down, whether or not the request is well formed. -/
def stepShutDown (s : Server) (m : Message) : Outcome :=
  if s.phase = .running then
    let s := { s with phase := .stopped }
    if m.params.isSome then s.refuse m .invalidParams
    else ⟨s, if m.expectsAnswer then .result .null else .none, []⟩
  else s.outOfPhase m

/-- A request in the running phase; parameters that cannot be read are an error. -/
def stepRequest (s : Server) (m : Message) (answer : Json → Option (Except RpcError Json)) :
    Outcome :=
  if s.phase = .running then
    if m.expectsAnswer then
      match m.params.bind answer with
      | some (.ok value) => ⟨s, .result value, []⟩
      | some (.error e) => ⟨s, .failure e, []⟩
      | none => ⟨s, .failure .invalidParams, []⟩
    else ⟨s, .none, []⟩
  else s.outOfPhase m

/-- A notification in the running phase; parameters that cannot be read make it void, and it may not
be sent as a request. -/
def stepNotification (s : Server) (m : Message)
    (effect : Json → Option (Server × List ClientMessage)) : Outcome :=
  if s.phase = .running then
    if m.expectsAnswer then s.refuse m .invalidRequest
    else match m.params.bind effect with
      | some (server, sent) => ⟨server, .none, sent⟩
      | none => ⟨s, .none, []⟩
  else s.outOfPhase m

/-- Takes one message. -/
def step (w : World) (s : Server) (m : Message) : Outcome :=
  if s.phase = .exited then ⟨s, .exited, []⟩
  else
    let method := String.ofList m.method
    if method = "exit" then ⟨{ s with phase := .exited }, .none, []⟩
    else if method = "initialize" then s.stepSetUp m
    else if method = "shutdown" then s.stepShutDown m
    else if method = "$/cancelRequest" then s.refuse m .invalidRequest
    else match s.answer? method with
      | some answer => s.stepRequest m answer
      | none =>
        match s.effect? w method with
        | some effect => s.stepNotification m effect
        | none =>
          if "$/".toList.isPrefixOf m.method then ⟨s, .none, []⟩
          else s.refuse m .methodNotFound

end Server

end CustomProps
