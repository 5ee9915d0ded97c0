import CustomProps.Completion.Item
import CustomProps.Server.State

/-!
Answers about open documents of the served languages: the value of the variable at a position, the
places where it is declared, and the variables that may be inserted.
-/

namespace CustomProps

structure Location where
  uri : Uri
  range : Range
  deriving DecidableEq, Repr

namespace Index

/-- The value of the variable at a position, as it is shown. -/
def hover (index : Index) (t : Text) (p : Position) (swatches : Bool) :
    Except LookupError Text := do
  let name ← Token.variableAt t p
  match index.first? name with
  | some d => return Swatch.preview d.value swatches
  | none => throw (.undeclared name)

/-- Every place where the variable at a position is declared. -/
def definitions (index : Index) (t : Text) (p : Position) : Except LookupError (List Location) := do
  let name ← Token.variableAt t p
  match index.named name with
  | [] => throw (.undeclared name)
  | found => return found.map fun d => ⟨d.uri, d.range⟩

end Index

namespace Server

/-- An open document of a served language, with everything that is declared in its sight. -/
def inSight? (s : Server) (uri : Uri) : Option (Document × Index) := do
  let doc ← s.documents.get? uri
  if s.settings.serves doc.language then
    return (doc, Index.build (some ⟨uri, doc.text⟩) s.sources)
  else none

def hover? (s : Server) (uri : Uri) (p : Position) : Option Text := do
  let (doc, index) ← s.inSight? uri
  (index.hover doc.text p s.settings.colorPreview).toOption

def definitions? (s : Server) (uri : Uri) (p : Position) : Option (List Location) := do
  let (doc, index) ← s.inSight? uri
  (index.definitions doc.text p).toOption

def completions? (s : Server) (uri : Uri) (p : Position) : Option (List CompletionItem) := do
  let (doc, index) ← s.inSight? uri
  let cursor ← CursorLine.ofDocument? doc.text p
  return index.winners.filterMap fun d => CompletionItem.build? d cursor s.settings.colorPreview

end Server

end CustomProps
