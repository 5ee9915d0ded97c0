import CustomProps.Path

/-!
A disk is a tree of directories, files and symbolic links. Paths are looked up from the root;
links on the way are followed, a bounded number of times, and a double point goes to the directory
above the one reached.
-/

namespace CustomProps

inductive Node where
  | file (content : Bytes)
  | link (target : Path)
  | dir (entries : List (Bytes × Node))
  deriving Repr

namespace Node

/-- The entry of a directory. -/
def child? (name : Bytes) : Node → Option Node
  | .dir entries => (entries.find? (·.1 == name)).map (·.2)
  | _ => none

/-- The node below this one at the given names, no link followed. -/
def get? (node : Node) : List Bytes → Option Node
  | [] => some node
  | name :: names => (node.child? name).bind (·.get? names)

def isDir : Node → Bool
  | .dir _ => true
  | _ => false

/-- Gives a directory an entry, in the place of one of the same name or at the end. -/
def withChild (node : Node) (name : Bytes) (child : Node) : Node :=
  match node with
  | .dir entries =>
    if entries.any (·.1 == name) then
      .dir (entries.map fun e => if e.1 == name then (name, child) else e)
    else .dir (entries ++ [(name, child)])
  | _ => .dir [(name, child)]

/-- Puts a node at the given names; directories on the way are made where there are none. -/
def put (new : Node) : List Bytes → Node → Node
  | [], _ => new
  | name :: names, node =>
    node.withChild name (put new names ((node.child? name).getD (.dir [])))

/-- Removes what is at the given names. -/
def remove : List Bytes → Node → Node
  | [], node => node
  | [name], .dir entries => .dir (entries.filter (·.1 != name))
  | name :: names, node =>
    match node.child? name with
    | some child => node.withChild name (remove names child)
    | none => node

end Node

structure Disk where
  root : Node

namespace Disk

def empty : Disk := ⟨.dir []⟩

/-- How many links a lookup may follow. -/
def linkLimit : Nat := 40

/-- The names, free of links, of the place that the pieces lead to from the directory at `here`. A
link at the very end is followed only if `follow` says so, and nothing need be there if `new` says
so. -/
def locate (d : Disk) (follow new : Bool) (links : Nat) (here : List Bytes) (pieces : List Bytes) :
    Option (List Bytes) :=
  match pieces with
  | [] => some here
  | piece :: rest =>
    match d.root.get? here with
    | some (.dir _) =>
      if Path.isIdle piece then locate d follow new links here rest
      else if piece == [Path.point, Path.point] then locate d follow new links here.dropLast rest
      else match d.root.get? (here ++ [piece]) with
        | none => if new && rest.all Path.isIdle then some (here ++ [piece]) else none
        | some (.link target) =>
          if rest.isEmpty && !follow then some (here ++ [piece])
          else match links with
            | 0 => none
            | links + 1 =>
              locate d follow new links (if Path.isAbsolute target then [] else here)
                (Path.pieces target ++ rest)
        | some _ => locate d follow new links (here ++ [piece]) rest
    | _ => none
termination_by (links, pieces.length)

/-- The place of an absolute path. -/
def place? (d : Disk) (follow : Bool) (p : Path) : Option (List Bytes) :=
  if Path.isAbsolute p then d.locate follow false linkLimit [] (Path.pieces p) else none

/-- The place of an absolute path where something is, or could be put into a directory. -/
def newPlace? (d : Disk) (follow : Bool) (p : Path) : Option (List Bytes) :=
  if Path.isAbsolute p then d.locate follow true linkLimit [] (Path.pieces p) else none

/-- What is at a path; a link at its end is followed. -/
def node? (d : Disk) (p : Path) : Option Node := (d.place? true p).bind d.root.get?

/-- What is at a path; a link at its end is not followed. -/
def entry? (d : Disk) (p : Path) : Option Node := (d.place? false p).bind d.root.get?

/-- The content of a file that is UTF-8. -/
def readText? (d : Disk) (p : Path) : Option Text :=
  match d.node? p with
  | some (.file content) => Bytes.decode? content
  | _ => none

/-- Puts a node at a path, if nothing is there but a directory for it. -/
def putNew (d : Disk) (p : Path) (node : Node) : Disk :=
  match d.newPlace? false p with
  | some place =>
    match d.root.get? place with
    | some _ => d
    | none => ⟨Node.put node place d.root⟩
  | none => d

/-- The paths on the way to an absolute path, itself included. -/
def steps (p : Path) : List Path :=
  let pieces := Path.pieces p
  (List.range (pieces.length - 1)).map fun i => Path.join (pieces.take (i + 2))

/-- Makes the directories on the way to a path, the path included, that are not there. -/
def makeDirs (d : Disk) (p : Path) : Disk := (steps p).foldl (fun d q => d.putNew q (.dir [])) d

/-- Makes the directories that a path lies in. -/
def makeParents (d : Disk) (p : Path) : Disk := d.makeDirs (Path.join (Path.pieces p).dropLast)

/-- Writes a file; a link at its path leads to the file written, which need not be there before. -/
def write (d : Disk) (p : Path) (content : Bytes) : Disk :=
  let d := d.makeParents p
  match d.newPlace? true p with
  | some place =>
    match d.root.get? place with
    | some (.dir _) => d
    | _ => ⟨Node.put (.file content) place d.root⟩
  | none => d

/-- Makes a link, if nothing is there. -/
def makeLink (d : Disk) (p target : Path) : Disk := (d.makeParents p).putNew p (.link target)

/-- Removes a file or link. -/
def delete (d : Disk) (p : Path) : Disk :=
  match d.place? false p, d.entry? p with
  | some place, some node => if node.isDir then d else ⟨Node.remove place d.root⟩
  | _, _ => d

end Disk

end CustomProps
