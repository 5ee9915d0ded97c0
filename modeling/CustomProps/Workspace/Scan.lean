import CustomProps.Source
import CustomProps.Uri.File
import CustomProps.Workspace.Discovery

/-!
A scan reads the sources below the workspace folders, file by file in the order of discovery. Each
file is told as progress before it is read, also one that is then skipped because it is no text or
has no URI.
-/

namespace CustomProps

/-- The sources read so far, and the progress told so far: the number of a file and of all files. -/
@[ext] structure Scan where
  sources : Sources
  progress : List (Nat × Nat)
  deriving DecidableEq, Repr

namespace Scan

def start : Scan := ⟨[], []⟩

/-- A file read as a source. -/
def read? (d : Disk) (p : Path) : Option Source := do
  let text ← d.readText? p
  let uri ← Uri.ofFilePath? p
  return ⟨uri, text⟩

/-- One turn: the file that `i` files come before is told, and then kept as a source or skipped. -/
def turn (d : Disk) (total i : Nat) (s : Scan) (p : Path) : Scan :=
  let told := { s with progress := s.progress ++ [(i + 1, total)] }
  match read? d p with
  | some source => { told with sources := told.sources ++ [source] }
  | none => told

/-- The turns of the files that are left, of which `i` files come before the first. -/
def readAll (d : Disk) (total : Nat) : Nat → Scan → List Path → Scan
  | _, s, [] => s
  | i, s, p :: files => readAll d total (i + 1) (s.turn d total i p) files

theorem progress_turn (d : Disk) (total i : Nat) (s : Scan) (p : Path) :
    (s.turn d total i p).progress = s.progress ++ [(i + 1, total)] := by
  rw [turn]
  cases read? d p <;> rfl

theorem sources_turn (d : Disk) (total i : Nat) (s : Scan) (p : Path) :
    (s.turn d total i p).sources = s.sources ++ (read? d p).toList := by
  rw [turn]
  cases read? d p with
  | none => exact (List.append_nil _).symm
  | some source => rfl

/-- The path of a workspace folder. -/
def root (folder : Uri) : Except ScanError Path :=
  match folder.filePath? with
  | some p => .ok p
  | none => .error (.notAFile folder.text)

def run (d : Disk) (settings : Settings) (folders : List Uri) : Except ScanError Scan := do
  let filter ← SourceFilter.ofSettings settings
  let roots ← folders.mapM root
  let files := Discovery.sources d filter roots
  return readAll d files.length 0 start files

end Scan

end CustomProps
