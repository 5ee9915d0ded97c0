import CustomProps.Completion.Insertion
import CustomProps.Declaration.Basic
import CustomProps.Swatch.Basic

/-!
The entry of a completion list for one declaration.
-/

namespace CustomProps

inductive ItemKind where
  | color
  | value
  deriving DecidableEq, Repr

structure CompletionItem where
  label : Text
  insertText : Text
  filterText : Text
  replaced : Range
  kind : ItemKind
  detail : Text
  documentation : Text
  deriving DecidableEq, Repr

namespace ItemKind

def ofValue (value : Text) : ItemKind := if Color.isColor value then .color else .value

end ItemKind

namespace CompletionItem

/-- The text that the editor compares with what it replaces, which leaves out the dashes when a name
is completed in place. -/
def filterFor (rule : InsertionRule) (name : Text) : Text :=
  match rule with
  | .completeCall => bareName name
  | _ => name

/-- The entry for a declaration, if its name can be inserted. -/
def build? (d : Declaration) (cursor : CursorLine) (swatches : Bool) : Option CompletionItem :=
  (Insertion.resolve? d.name cursor.position cursor.replaced cursor.line cursor.propertyLine).map
    fun insertion =>
      { label := d.name
        insertText := insertion.text
        filterText := filterFor insertion.rule d.name
        replaced := insertion.range
        kind := ItemKind.ofValue d.value
        detail := d.value
        documentation := Swatch.preview d.value swatches }

end CompletionItem

end CustomProps
