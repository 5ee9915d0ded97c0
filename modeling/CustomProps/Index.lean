import CustomProps.Declaration.Extract
import CustomProps.Source

/-!
The index of a request lists every declaration in sight, those of the active document first and
those of the sources after it in their order. A source that is the active document is left out:
its live text is already there.
-/

namespace CustomProps

structure Index where
  declarations : List Declaration
  deriving DecidableEq, Repr

namespace Index

/-- The sources other than the active document. -/
def others (active : Option Source) (sources : Sources) : Sources :=
  match active with
  | some a => sources.filter (·.uri != a.uri)
  | none => sources

def build (active : Option Source) (sources : Sources) : Index :=
  ⟨(active.toList ++ others active sources).flatMap fun s => s.text.declarations s.uri⟩

/-- Every declaration of a name. -/
def named (index : Index) (name : Text) : List Declaration :=
  index.declarations.filter (·.name == name)

/-- The declaration of a name that wins. -/
def first? (index : Index) (name : Text) : Option Declaration :=
  index.declarations.find? (·.name == name)

/-- The first declaration of each name. -/
def firsts : List Declaration → List Declaration
  | [] => []
  | d :: ds => d :: (firsts ds).filter (·.name != d.name)

/-- One declaration for each name, the one that wins. -/
def winners (index : Index) : List Declaration := firsts index.declarations

theorem first?_eq_head? (index : Index) (name : Text) :
    index.first? name = (index.named name).head? := by
  simp [first?, named, List.head?_filter]

end Index

end CustomProps
