import CustomProps.Glob.Set
import CustomProps.Settings.Basic

/-!
Which files of a workspace are declaration sources: those that a lookup pattern matches and no
ignore pattern does, by their path below a workspace root.
-/

namespace CustomProps

inductive GlobRole where
  | lookup
  | ignore
  deriving DecidableEq, Repr

/-- Why a workspace cannot be scanned. -/
inductive ScanError where
  /-- A pattern of a set is nested too deeply. -/
  | tooDeep (role : GlobRole) (pattern : DepthError)
  | notAFile (uri : Text)
  deriving DecidableEq, Repr

namespace GlobRole

def text : GlobRole → Text
  | lookup => "lookup".toList
  | ignore => "ignore".toList

end GlobRole

namespace ScanError

def message : ScanError → Text
  | tooDeep role pattern =>
    "failed to build ".toList ++ role.text ++ " glob set: ".toList ++ pattern.message
  | notAFile uri => "workspace folder '".toList ++ uri ++ "' is not a file URI".toList

end ScanError

structure SourceFilter where
  lookup : Globs
  ignore : Globs
  deriving Repr

namespace SourceFilter

def ofSettings (s : Settings) : Except ScanError SourceFilter := do
  let lookup ← (Globs.build s.lookupFiles).mapError (.tooDeep .lookup)
  let ignore ← (Globs.build s.ignoreGlobs).mapError (.tooDeep .ignore)
  return ⟨lookup, ignore⟩

/-- The path as patterns see it, with broken characters replaced. -/
def visible (p : Path) : Bytes := (Bytes.decodeLossy p).utf8

/-- Whether a file at a path below a root is a source. -/
def accepts (f : SourceFilter) (relative : Path) : Bool :=
  !f.ignore.accepts (visible relative) && f.lookup.accepts (visible relative)

/-- Whether a directory below a root need not be entered. -/
def ignoresDir (f : SourceFilter) (relative : Path) : Bool :=
  f.ignore.accepts (visible relative ++ [Path.slash])

/-- Whether a file is a source below one of the roots. -/
def acceptsUnder (f : SourceFilter) (p : Path) (roots : List Path) : Bool :=
  roots.any fun root => ((Path.below? root p).map f.accepts).getD false

end SourceFilter

end CustomProps
