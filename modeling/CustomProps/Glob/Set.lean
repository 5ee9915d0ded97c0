import CustomProps.Glob.Expression

/-!
Sets of patterns. A text that is no pattern is passed over. A set can be built only if none of its
patterns is nested too deeply; depth is counted in the groups, choices, sequences and repetitions
that a pattern is made of.
-/

namespace CustomProps

namespace Glob

/-- The deepest nesting that a pattern may have. -/
def depthLimit : Nat := 250

/-- The parts that a token adds to the sequence it stands in. -/
def width : GlobToken → Nat
  | .char c => c.utf8Size
  | .treeEnd => 2
  | .alternatives branches => if GlobToken.allVoid branches then 0 else 1
  | _ => 1

def totalWidth (tokens : List GlobToken) : Nat := tokens.foldr (width · + ·) 0

/-- A choice or sequence of more than one part is one level. -/
def level (parts : Nat) : Nat := if 1 < parts then 1 else 0

mutual

def depth : GlobToken → Nat
  | .char _ | .any => 0
  | .star | .treeEnd => 1
  | .treeStart | .treeMiddle => 4
  | .oneOf _ ranges => 1 + level (intervals ranges).length
  | .alternatives branches =>
    if GlobToken.allVoid branches then 0
    else 1 + level (branches.filter (!GlobToken.isVoidBranch ·)).length + depthOfAny branches

/-- The deepest token. -/
def depthOfAll : List GlobToken → Nat
  | [] => 0
  | token :: tokens => max (depth token) (depthOfAll tokens)

/-- The deepest branch. -/
def depthOfAny : List (List GlobToken) → Nat
  | [] => 0
  | branch :: branches =>
    max (level (totalWidth branch) + depthOfAll branch) (depthOfAny branches)

end

def isTooDeep (g : Glob) : Bool := depthLimit < 1 + depthOfAll g.tokens

end Glob

abbrev Globs := List Glob

/-- The pattern that is nested too deeply: the expression of one that is tried by its extension, or
the place of one among the general patterns of its set. -/
inductive DepthError where
  | extension (expression : Text)
  | general (place : Nat)
  deriving DecidableEq, Repr

namespace DepthError

def message : DepthError → Text
  | extension expression =>
    "error parsing glob '".toList ++ expression ++ "': error parsing pattern 0".toList
  | general place => "error parsing pattern ".toList ++ Text.ofNat place

end DepthError

namespace Globs

/-- The patterns of a kind. -/
def ofKind (k : GlobKind) (globs : Globs) : Globs := globs.filter fun g => Glob.kind g.tokens == k

/-- The first pattern that is nested too deeply; those tried by their extension go first. -/
def depthError? (globs : Globs) : Option DepthError :=
  match (ofKind .checkedExtension globs).find? Glob.isTooDeep with
  | some g => some (.extension g.expression)
  | none => ((ofKind .general globs).findIdx? Glob.isTooDeep).map .general

/-- The set of the patterns among the texts, if none of them is nested too deeply. -/
def build (patterns : List Text) : Except DepthError Globs :=
  let globs := patterns.filterMap Glob.parse?
  match depthError? globs with
  | some e => .error e
  | none => .ok globs

def accepts (set : Globs) (path : Bytes) : Bool := set.any (·.accepts path)

end Globs

end CustomProps
