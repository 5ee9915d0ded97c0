import CustomProps.Uri.Parse
import CustomProps.Path

/-!
URIs of files. A hierarchical URI on this machine names the path that its decoded segments spell;
query and fragment do not count. An absolute path has one URI, whose segments are its components.
-/

namespace CustomProps

namespace Uri

def isLocal (u : Uri) : Bool :=
  match u.authority with
  | none => true
  | some a => a.host.isEmpty || a.host == "localhost".toList

/-- A path that ends like a drive gets a slash after it. -/
def closeDrive (p : Path) : Path :=
  match p.reverse with
  | b :: a :: _ :: _ =>
    if (Char.ofNat a.toNat).isAlpha && (b == 0x3A || b == 0x7C) then p ++ [Path.slash] else p
  | _ => p

/-- The path of a file that a URI names. -/
def filePath? (u : Uri) : Option Path :=
  if u.isHierarchical && u.isLocal then
    some (closeDrive ((Text.split '/' (u.path.drop 1)).flatMap (Path.slash :: Percent.decode ·)))
  else none

/-- A component as the segment of a URI. -/
def segmentOf : Component → Text
  | .root | .here => []
  | .up => ['.', '.']
  | .name bytes => Percent.encodeBytes inSegment bytes

/-- The URI of an absolute path. -/
def ofFilePath? (p : Path) : Option Uri :=
  match Path.components p with
  | [.root] => some ⟨"file".toList, some .nobody, ['/'], none, none⟩
  | .root :: rest =>
    some ⟨"file".toList, some .nobody, rest.flatMap ('/' :: segmentOf ·), none, none⟩
  | _ => none

end Uri

end CustomProps
