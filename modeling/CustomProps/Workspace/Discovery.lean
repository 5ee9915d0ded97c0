import CustomProps.Workspace.Disk
import CustomProps.Workspace.SourceFilter

/-!
Finding the sources below workspace roots. Each root is walked depth first with the entries of a
directory in the order of their names; ignored directories are not entered and links below the
root are not followed. A file that lies below several roots is listed once.
-/

namespace CustomProps

namespace Discovery

/-- The files of all entries of a directory, by the order of the entries' names. -/
def inOrder (found : List (Bytes × List Path)) : List Path :=
  (found.mergeSort fun a b => Bytes.le a.1 b.1).flatMap (·.2)

mutual

/-- The accepted files below a node, which is at the path `relative` below its root, in the order of
the walk. -/
def walk (f : SourceFilter) (relative : Path) : Node → List Path
  | .file _ => if f.accepts relative then [relative] else []
  | .link _ => []
  | .dir entries => inOrder (walkEntries f relative entries)

/-- The files of each entry of a directory; an ignored directory has none. -/
def walkEntries (f : SourceFilter) (relative : Path) :
    List (Bytes × Node) → List (Bytes × List Path)
  | [] => []
  | (name, node) :: entries =>
    let here := Path.child relative name
    (name, if node.isDir && f.ignoresDir here then [] else walk f here node) ::
      walkEntries f relative entries

end

/-- The sources below one root, each spelled after the root. A root that is a file is its own only
entry, and a root that is a link is walked when it leads to a directory. -/
def below (d : Disk) (f : SourceFilter) (root : Path) : List Path :=
  match d.entry? root with
  | some (.file _) => if f.accepts [] then [root] else []
  | some (.link _) =>
    match d.node? root with
    | some (.dir entries) => spelled (walk f [] (.dir entries))
    | _ => []
  | some (.dir entries) => spelled (walk f [] (.dir entries))
  | none => []
where
  /-- Paths below the root, written after it. -/
  spelled (found : List Path) : List Path := found.map (Path.child root)

/-- Paths without those that name the same place as an earlier one. -/
def distinct : List Path → List Path
  | [] => []
  | p :: ps => p :: (distinct ps).filter (!Path.same p ·)

/-- The sources below the roots, in the order in which they are found. -/
def sources (d : Disk) (f : SourceFilter) (roots : List Path) : List Path :=
  distinct (roots.flatMap (below d f))

end Discovery

end CustomProps
