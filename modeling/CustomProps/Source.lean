import CustomProps.Uri.Basic

/-!
Sources are the documents whose declarations every other document sees. They are kept in the order
in which they were found, because the first declaration of a name wins.
-/

namespace CustomProps

structure Source where
  uri : Uri
  text : Text
  deriving DecidableEq, Repr

abbrev Sources := List Source

namespace Sources

def holds (sources : Sources) (uri : Uri) : Bool := sources.any (·.uri == uri)

/-- Gives the first source of a URI a new text; without one nothing changes. -/
def revise (uri : Uri) (text : Text) : Sources → Sources
  | [] => []
  | s :: sources =>
    if s.uri = uri then { s with text } :: sources else s :: revise uri text sources

/-- Gives a source a new text, or adds it at the end. -/
def put (sources : Sources) (uri : Uri) (text : Text) : Sources :=
  if sources.holds uri then sources.revise uri text else sources ++ [⟨uri, text⟩]

/-- Drops every source of a URI. -/
def drop (sources : Sources) (uri : Uri) : Sources := sources.filter (·.uri != uri)

@[simp] theorem map_uri_revise (uri : Uri) (text : Text) (sources : Sources) :
    (sources.revise uri text).map (·.uri) = sources.map (·.uri) := by
  induction sources with
  | nil => rfl
  | cons s sources ih => by_cases h : s.uri = uri <;> simp [revise, h, ih]

theorem holds_iff (sources : Sources) (uri : Uri) :
    sources.holds uri = true ↔ uri ∈ sources.map (·.uri) := by
  simp [holds, List.any_eq_true]

end Sources

end CustomProps
