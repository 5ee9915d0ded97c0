import CustomProps.Json.Basic
import CustomProps.Settings.Basic

/-!
Options that a client sends as JSON. A value of the wrong type makes all of them void.
-/

namespace CustomProps

namespace ClientOptions

def keys : List String := ["lookupFiles", "ignoreGlobs", "languages", "colorPreview"]

/-- An optional field that was found, or not. -/
def read? (read : Json → Option α) : Option Json → Option (Option α)
  | none => some none
  | some j => j.optional? read

def ofJson? (j : Json) : Option ClientOptions := do
  match ← j.record? keys with
  | [lookup, ignore, languages, preview] =>
    let texts := Json.list? Json.text?
    return ⟨← read? texts lookup, ← read? texts ignore, ← read? texts languages,
      ← read? Json.bool? preview⟩
  | _ => none

end ClientOptions

end CustomProps
