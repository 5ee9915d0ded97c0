import CustomProps.Server.Rpc
import CustomProps.Settings.CommandLine

/-!
The program: it takes messages from standard input and writes answers to standard output. Before
each message the part of the disk that it may reach is read.
-/

namespace CustomProps

namespace Program

def environment : IO CommandLine.Environment := do
  let names := [CommandLine.lookupFiles.envName, CommandLine.ignoreGlobs.envName,
    CommandLine.languagesVariable, CommandLine.noPreviewVariable]
  let found ← names.mapM fun name => do
    return (← IO.getEnv (String.ofList name)).map fun value => (name, value.toList)
  return found.filterMap id

/-- The entry of the file system at a path that is UTF-8. -/
def entryAt (p : Path) : IO.FS.DirEntry := ⟨"/", String.ofList (Bytes.decodeLossy p)⟩

/-- Adds a file to a disk, if it can be read. -/
def loadFile (d : Disk) (p : Path) : IO Disk := do
  try
    return d.write p (← IO.FS.readBinFile (entryAt p).path).toList
  catch _ => return d

/-- Adds a directory and what a walk with this filter looks at below it. -/
partial def loadTree (filter : SourceFilter) (root relative : Path) (d : Disk) : IO Disk := do
  let here := if relative.isEmpty then root else Path.child root relative
  try
    let mut d := d.makeDirs here
    for entry in ← (entryAt here).path.readDir do
      let below := Path.child relative (Text.utf8 entry.fileName.toList)
      match (← entry.path.symlinkMetadata).type with
      | .dir => if !filter.ignoresDir below then d ← loadTree filter root below d
      | .file => if filter.accepts below then d ← loadFile d (Path.child root below)
      | _ => pure ()
    return d
  catch _ => loadFile d here

/-- The part of the disk that a message may reach. -/
def load (s : Server) (m : Message) (folders : Json) : IO Disk := do
  let d ← (Rpc.files m).foldlM loadFile .empty
  match SourceFilter.ofSettings s.settings with
  | .ok filter => (Rpc.trees s m folders).foldlM (fun d root => loadTree filter root [] d) d
  | .error _ => return d

/-- Reads a header, and the length that it gives. -/
partial def readLength (input : IO.FS.Stream) (found : Option Nat) : IO (Option Nat) := do
  let line ← input.getLine
  if line.isEmpty then return none
  else
    let text := Text.trimEnd line.toList
    if text.isEmpty then return found
    else readLength input ((Rpc.contentLength? text).orElse fun _ => found)

/-- Reads exactly `n` bytes, or what is left. -/
partial def readBytes (input : IO.FS.Stream) (n : Nat) (done : ByteArray) : IO ByteArray := do
  if n ≤ done.size then return done
  else
    let more ← input.read (USize.ofNat (n - done.size))
    if more.isEmpty then return done else readBytes input n (done ++ more)

/-- Reads the next message that can be read; none at the end of the input. -/
partial def receive (input : IO.FS.Stream) : IO (Option Rpc.Incoming) := do
  match ← readLength input none with
  | none => return none
  | some n =>
    let body ← readBytes input n .empty
    match ((Bytes.decode? body.toList).bind Json.parse?).bind Rpc.incoming? with
    | some incoming => return some incoming
    | none => receive input

def send (output : IO.FS.Stream) (j : Json) : IO Unit := do
  output.write (Rpc.frame j).toByteArray
  output.flush

/-- Waits for the answer to a question; messages that come before it are kept for later. -/
partial def await (input : IO.FS.Stream) (waiting : List Rpc.Incoming) :
    IO (Json × List Rpc.Incoming) := do
  match ← receive input with
  | none => return (.null, waiting)
  | some (.response _ result) => return (result, waiting)
  | some other => await input (waiting ++ [other])

/-- Takes messages until the end of the connection. -/
partial def serve (input output : IO.FS.Stream) (s : Server) (waiting : List Rpc.Incoming) :
    IO Unit := do
  let (next, waiting) ← match waiting with
    | m :: waiting => pure (some m, waiting)
    | [] => pure (← receive input, [])
  match next with
  | none => return
  | some (.response _ _) => serve input output s waiting
  | some (.message id m) =>
    let (folders, waiting) ←
      if Rpc.asksFolders s m then
        send output (Rpc.askFolders (.ofNat 0))
        await input waiting
      else pure (.null, waiting)
    let outcome := s.step ⟨← load s m folders, folders⟩ m
    (outcome.sent.filterMap Rpc.log?).forM (send output)
    (id.bind fun id => Rpc.answer? id outcome.reply).forM (send output)
    if outcome.server.phase == .exited then return
    else serve input output outcome.server waiting

end Program

end CustomProps

def main (arguments : List String) : IO Unit := do
  let env ← CustomProps.Program.environment
  let options := CustomProps.CommandLine.options (arguments.map String.toList) env
  CustomProps.Program.serve (← IO.getStdin) (← IO.getStdout) (.start options) []
