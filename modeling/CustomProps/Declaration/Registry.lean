import CustomProps.Declaration.Basic
import CustomProps.Text.Blank

/-!
A registry collects the declarations of one document. The first declaration of a name with a value
stays; a declaration without a value is refused and does not take the name.
-/

namespace CustomProps

/-- Delimiters of a literal or declaration that may have been read as part of a value. -/
def isDelimiter (c : Char) : Bool := ['\x60', '\'', '"', ';'].contains c

/-- A value without blanks around it and without one delimiter at its end. -/
def normalValue (raw : Text) : Text :=
  let value := Text.trim raw
  match value.getLast? with
  | some c => if isDelimiter c then Text.trimEnd value.dropLast else Text.trimEnd value
  | none => []

structure Registry where
  uri : Uri
  declarations : List Declaration
  deriving DecidableEq, Repr

namespace Registry

def empty (uri : Uri) : Registry := ⟨uri, []⟩

def declares (r : Registry) (name : Text) : Bool := r.declarations.any (·.name == name)

/-- Whether a declaration would be stored. -/
def accepts (r : Registry) (name raw : Text) : Bool :=
  !r.declares name && !(normalValue raw).isEmpty

def insert (r : Registry) (name raw : Text) (range : Range) : Registry :=
  if r.accepts name raw then
    { r with declarations := r.declarations ++ [⟨name, normalValue raw, r.uri, range⟩] }
  else r

@[simp] theorem declarations_empty (uri : Uri) : (empty uri).declarations = [] := rfl

end Registry

end CustomProps
