import CustomProps.Declaration.LineCounter
import CustomProps.Declaration.Match
import CustomProps.Declaration.Registry
import CustomProps.Region

/-!
The declarations of a document are those written in its string literals, the first of each name.
Comments hold none. Each is given the line of its name and the columns that the name has four
columns in, one level of indentation inside its literal.
-/

namespace CustomProps

/-- The column where every declaration's range starts. -/
def declarationColumn : Nat := 4

def nameRange (line : Nat) (name : Text) : Range :=
  Range.onLine line declarationColumn (declarationColumn + Text.unitSize name)

/-- The matches in the string literals of a text, left to right. -/
def Text.literalMatches (t : Text) : List Match :=
  t.regions.flatMap fun region =>
    match region.kind with
    | .literal => Text.matches region.content region.start
    | .comment => []

/-- Counts lines up to a match and registers it. -/
def registerMatch (bs : Bytes) (state : LineCounter × Registry) (m : Match) :
    LineCounter × Registry :=
  let lines := state.1.advance bs m.position
  (lines, state.2.insert m.name m.rawValue (nameRange lines.line m.name))

/-- The declarations of a document. -/
def Text.declarations (t : Text) (uri : Uri) : List Declaration :=
  (t.literalMatches.foldl (registerMatch t.utf8) (.start, .empty uri)).2.declarations

end CustomProps
