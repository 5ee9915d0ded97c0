import CustomProps.Position
import CustomProps.Uri.Basic

/-!
A declaration gives a custom property a value. Its range covers the name where it was declared.
-/

namespace CustomProps

structure Declaration where
  name : Text
  value : Text
  uri : Uri
  range : Range
  deriving DecidableEq, Repr

/-- The mark that every custom property name starts with. -/
def nameMark : Text := ['-', '-']

/-- The name without its mark. -/
def bareName (name : Text) : Text := (Text.after? nameMark name).getD name

end CustomProps
