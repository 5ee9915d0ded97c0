import CustomProps.Glob.Pattern

/-!
How patterns are looked up. Most patterns are plain text at one place of the path: the whole path,
the file name, the extension, the start or the end. A pattern that ends in an extension is tried
only on paths that have it, and all other patterns are tried one by one.
-/

namespace CustomProps

inductive GlobKind where
  | fileName
  | wholePath
  | extension
  | pathStart
  | pathEnd
  | checkedExtension
  /-- The file name is one of finitely many. -/
  | oneOfNames
  | general
  deriving DecidableEq, Repr

namespace GlobKind

/-- Whether a path must have a file name to be matched. -/
def needsName : GlobKind → Bool
  | fileName | extension | checkedExtension => true
  | _ => false

end GlobKind

namespace Glob

/-- The characters of tokens that are nothing else. -/
def chars? : List GlobToken → Option Text
  | [] => some []
  | .char c :: tokens => (chars? tokens).map (c :: ·)
  | _ => none

/-- Whether tokens are plain text that is not empty and satisfies `p` throughout. -/
def isPlain (p : Char → Bool) (tokens : List GlobToken) : Bool :=
  match chars? tokens with
  | some text => !text.isEmpty && text.all p
  | none => false

/-- The tokens after a directory wildcard at the start, if there is one. -/
def afterTree : List GlobToken → List GlobToken
  | .treeStart :: tokens => tokens
  | tokens => tokens

def isFileName : List GlobToken → Bool
  | .treeStart :: tokens => isPlain (· != '/') tokens
  | _ => false

/-- A star and an extension, after a directory wildcard or without one. -/
def isExtension (tokens : List GlobToken) : Bool :=
  match afterTree tokens with
  | .star :: .char '.' :: tokens =>
    (chars? tokens).any fun name => name.all fun c => c != '.' && c != '/'
  | _ => false

/-- Plain text before a star or a directory wildcard. -/
def isPathStart (tokens : List GlobToken) : Bool :=
  match tokens.getLast? with
  | some .star => isPlain (fun _ => true) tokens.dropLast
  | some .treeEnd => (chars? tokens.dropLast).isSome
  | _ => false

/-- Plain text after a directory wildcard or star, other than a lone slash after a star. -/
def isPathEnd (tokens : List GlobToken) : Bool :=
  match afterTree tokens with
  | .star :: tokens => isPlain (fun _ => true) tokens && (chars? tokens) != some ['/']
  | tokens => isPlain (fun _ => true) tokens

/-- Whether tokens end in plain text with a point and no slash after the point. -/
def endsInExtension (tokens : List GlobToken) : Bool :=
  go tokens.reverse
where
  /-- Looks for the point from the end of the pattern. -/
  go : List GlobToken → Bool
    | .char c :: tokens => c == '.' || (c != '/' && go tokens)
    | _ => false

/-- A directory wildcard, then characters and sets of characters only. -/
def isOneOfNames : List GlobToken → Bool
  | .treeStart :: tokens => tokens.all fun
    | .char c => c != '/'
    | .oneOf _ _ => true
    | _ => false
  | _ => false

def kind (tokens : List GlobToken) : GlobKind :=
  if isFileName tokens then .fileName
  else if isPlain (fun _ => true) tokens then .wholePath
  else if isExtension tokens then .extension
  else if isPathStart tokens then .pathStart
  else if isPathEnd tokens then .pathEnd
  else if endsInExtension tokens then .checkedExtension
  else if tokens.length > 1 && isOneOfNames tokens then .oneOfNames
  else .general

end Glob

end CustomProps
