import CustomProps.Text.Utf8

/-!
A path is a byte list as the file system spells it. Two spellings name the same place when their
components agree: repeated and trailing slashes and inner points do not count, a leading point and
every double point do. What lies below a base path keeps its own spelling.
-/

namespace CustomProps

abbrev Path := Bytes

inductive Component where
  | root
  | here
  | up
  | name (bytes : Bytes)
  deriving DecidableEq, Repr

namespace Path

def slash : UInt8 := 0x2F
def point : UInt8 := 0x2E

/-- The pieces between slashes; a path without one is a single piece. -/
def pieces : Path → List Bytes
  | [] => [[]]
  | b :: p =>
    if b == slash then [] :: pieces p
    else match pieces p with
      | [] => [[b]]
      | piece :: rest => (b :: piece) :: rest

/-- Pieces joined by slashes. -/
def join (ps : List Bytes) : Path := List.intercalate [slash] ps

/-- A piece that names no component of its own inside a path. -/
def isIdle (piece : Bytes) : Bool := piece.isEmpty || piece == [point]

def isAbsolute (p : Path) : Bool := p.head? == some slash

def componentOf (piece : Bytes) : Component :=
  if piece == [point, point] then .up else .name piece

/-- The components of the pieces after a root or a leading point. -/
def inner (ps : List Bytes) : List Component := (ps.filter (!isIdle ·)).map componentOf

def components (p : Path) : List Component :=
  if isAbsolute p then .root :: inner (pieces (p.drop 1))
  else if (pieces p).head? == some [point] then .here :: inner (pieces p).tail
  else inner (pieces p)

/-- Whether two spellings name the same place. -/
def same (p q : Path) : Bool := components p == components q

/-- The pieces without idle ones at the end. -/
def trimPieces (ps : List Bytes) : List Bytes := (ps.reverse.dropWhile isIdle).reverse

/-- What is left of the pieces after `n` of them that name a component, idle ones in front
skipped. -/
def dropPieces : Nat → List Bytes → List Bytes
  | _, [] => []
  | n, piece :: ps =>
    if isIdle piece then dropPieces n ps
    else match n with
      | 0 => piece :: ps
      | n + 1 => dropPieces n ps

/-- How `p` is spelled below `base`, if it lies there. -/
def below? (base p : Path) : Option Path :=
  let known := components base
  if known.isPrefixOf (components p) then
    match known with
    | [] =>
      if isAbsolute p then some (slash :: join (trimPieces (pieces (p.drop 1))))
      else match pieces p with
        | [] => some []
        | piece :: ps => some (join (piece :: trimPieces ps))
    | .root :: rest => some (join (trimPieces (dropPieces rest.length (pieces (p.drop 1)))))
    | .here :: rest => some (join (trimPieces (dropPieces rest.length (pieces p).tail)))
    | _ => some (join (trimPieces (dropPieces known.length (pieces p))))
  else none

/-- An entry of a directory, spelled after the directory's own path. -/
def child (dir : Path) (name : Bytes) : Path :=
  if dir.isEmpty || dir.getLast? == some slash then dir ++ name else dir ++ slash :: name

end Path

end CustomProps
