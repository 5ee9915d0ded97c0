import CustomProps.Index
import CustomProps.Workspace.Scan

/-!
The state of the server: its settings, the sources it knows, the documents that are open in the
editor, the workspace folders, and the phase of the connection.
-/

namespace CustomProps

/-- A document that is open in the editor. -/
structure Document where
  text : Text
  language : Text
  deriving DecidableEq, Repr

abbrev Documents := List (Uri × Document)

namespace Documents

def get? (docs : Documents) (uri : Uri) : Option Document :=
  (docs.find? (·.1 == uri)).map (·.2)

def isOpen (docs : Documents) (uri : Uri) : Bool := (docs.get? uri).isSome

def close (docs : Documents) (uri : Uri) : Documents := docs.filter (·.1 != uri)

/-- Opens a document, in the place of one that was open before. -/
def put (docs : Documents) (uri : Uri) (doc : Document) : Documents :=
  (uri, doc) :: docs.close uri

@[simp] theorem get?_put_self (docs : Documents) (uri : Uri) (doc : Document) :
    (docs.put uri doc).get? uri = some doc := by
  simp [put, get?]

end Documents

inductive Phase where
  | waiting
  | running
  | stopped
  | exited
  deriving DecidableEq, Repr

structure Server where
  options : StartOptions
  settings : Settings
  sources : Sources
  documents : Documents
  folders : List Uri
  phase : Phase
  deriving DecidableEq, Repr

inductive LogLevel where
  | error
  | info
  deriving DecidableEq, Repr

/-- What the server sends to its client on its own account. -/
inductive ClientMessage where
  | log (level : LogLevel) (text : Text)
  | askFolders
  deriving DecidableEq, Repr

namespace Server

def start (options : StartOptions) : Server :=
  ⟨options, Settings.start options, [], [], [], .waiting⟩

/-- The paths of the folders that have one. -/
def roots (s : Server) : List Path := s.folders.filterMap Uri.filePath?

/-- Whether a document is a source, or its path makes it one. -/
def isLookupFile (s : Server) (uri : Uri) : Bool :=
  s.sources.holds uri ||
    match uri.filePath?, SourceFilter.ofSettings s.settings with
    | some p, .ok filter => filter.acceptsUnder p s.roots
    | _, _ => false

/-- Keeps the text of a lookup file among the sources. -/
def noteText (s : Server) (uri : Uri) (text : Text) : Server :=
  if s.isLookupFile uri then { s with sources := s.sources.put uri text } else s

/-- Reads a source from the disk again; without a readable file it is no source any more. -/
def reload (d : Disk) (s : Server) (uri : Uri) : Server :=
  match uri.filePath?.bind d.readText? with
  | some text => { s with sources := s.sources.put uri text }
  | none => { s with sources := s.sources.drop uri }

end Server

end CustomProps
