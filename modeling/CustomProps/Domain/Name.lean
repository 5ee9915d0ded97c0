import CustomProps.Domain.Label

/-!
Domain names in any script, and the names in ASCII that stand for them.
-/

namespace CustomProps

namespace Domain

/-- The labels of a folded and normal name. -/
def labels? (name : Text) : Option (List Text) := do
  let labels ← (Text.split '.' name).mapM Label.read?
  if labels.any Label.isRightToLeft && !labels.all Label.isDirected then none else some labels

/-- Whether a name in lower case stands for itself: it is ASCII and no label needs reading. -/
def isPlain (name : Text) : Bool :=
  name.all Punycode.isBasic && (Text.split '.' name).all (!Label.mark.isPrefixOf ·)

/-- The name in ASCII that stands for a name, if it has valid labels only. -/
def toAscii? (name : Text) : Option Text :=
  let lower := name.map Char.toLower
  if isPlain lower then some lower
  else do
    let labels ← labels? (Unicode.normalize (← Unicode.foldText? name))
    return List.intercalate ['.'] (← labels.mapM Label.toAscii?)

end Domain

end CustomProps
