import CustomProps.Server.State

/-!
Scanning the workspace replaces all sources by those found on the disk, and then gives those that
are open the text of their document. A scan that fails changes nothing. Either way the client is
told.
-/

namespace CustomProps

namespace Server

/-- A share in percent, to the nearest whole number. -/
def percentage (part whole : Nat) : Nat :=
  ((Float.ofNat part / Float.ofNat whole) * 100.0).round.toUInt64.toNat

def info (parts : List Text) : ClientMessage := .log .info parts.flatten

/-- The steps of a scan's progress that are worth telling: those at least twenty percent after the
last one told, and the end. -/
def progressMessages (last : Nat) : List (Nat × Nat) → List ClientMessage
  | [] => []
  | (part, whole) :: rest =>
    let percent := percentage part whole
    if last + 20 ≤ percent || part == whole then
      info ["Reading declaration files: ".toList, Text.ofNat part, ['/'], Text.ofNat whole,
        " (".toList, Text.ofNat percent, "%)".toList] :: progressMessages percent rest
    else progressMessages last rest

/-- Sources with the text of the documents that are open. -/
def overlay (docs : Documents) (sources : Sources) : Sources :=
  docs.foldl (fun sources (uri, doc) => sources.revise uri doc.text) sources

def rescan (d : Disk) (s : Server) : Server × List ClientMessage :=
  let begin :=
    info ["Scanning ".toList, Text.ofNat s.folders.length, " workspace folders...".toList]
  match Scan.run d s.settings s.folders with
  | .ok scan =>
    let sources := overlay s.documents scan.sources
    let declared := (Index.build none sources).winners.length
    let done := info ["Workspace scan complete. Found ".toList, Text.ofNat declared,
      " variables in ".toList, Text.ofNat scan.sources.length, " files.".toList]
    ({ s with sources }, [begin] ++ progressMessages 0 scan.progress ++ [done])
  | .error e =>
    (s, [begin, .log .error ("Workspace scan failed: ".toList ++ e.message)])

/-- The client is ready: it is asked for its folders, which take the place of the known ones when it
names any list of them. -/
def ready (d : Disk) (s : Server) (folders : Option (List Uri)) : Server × List ClientMessage :=
  let s := { s with folders := folders.getD s.folders }
  let (s, messages) := s.rescan d
  (s, [info ["Styled vars LSP initialized".toList], .askFolders] ++ messages)

/-- Adds a folder that is not there yet. -/
def addFolder (folders : List Uri) (uri : Uri) : List Uri :=
  if folders.contains uri then folders else folders ++ [uri]

def foldersChanged (d : Disk) (s : Server) (added removed : List Uri) :
    Server × List ClientMessage :=
  let kept := s.folders.filter (!removed.contains ·)
  { s with folders := added.foldl addFolder kept }.rescan d

end Server

end CustomProps
