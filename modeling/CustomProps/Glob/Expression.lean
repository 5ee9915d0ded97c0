import CustomProps.Glob.Match
import CustomProps.Text.Hex

/-!
The regular expression of a pattern, by which patterns without a simpler look-up are matched.
-/

namespace CustomProps

namespace Glob

/-- Characters that mean something of their own in an expression. -/
def isMeta (c : Char) : Bool := "\\.+*?()|[]\x7b\x7d^$#&-~".toList.contains c

/-- A character as its bytes, with those escaped that are not ASCII. -/
def escaped (c : Char) : Text :=
  if c.toNat < 0x80 then if isMeta c then ['\\', c] else [c]
  else (Text.utf8 [c]).flatMap fun b =>
    ['\\', 'x', Hex.lower (b.toNat / 16), Hex.lower (b.toNat % 16)]

/-- A range of characters in a set. -/
def rangeText (range : Char × Char) : Text :=
  if range.1 = range.2 then escaped range.1 else escaped range.1 ++ ['-'] ++ escaped range.2

mutual

def tokenText : GlobToken → Text
  | .char c => escaped c
  | .any => ['.']
  | .star => ['.', '*']
  | .treeStart => "(?:/?|.*/)".toList
  | .treeEnd => "/.*".toList
  | .treeMiddle => "(?:/|/.*/)".toList
  | .oneOf negated ranges =>
    ['['] ++ (if negated then ['^'] else []) ++ ranges.flatMap rangeText ++ [']']
  | .alternatives branches =>
    if GlobToken.allVoid branches then []
    else "(?:".toList ++ List.intercalate ['|'] (branchTexts branches) ++ [')']

def tokensText : List GlobToken → Text
  | [] => []
  | token :: tokens => tokenText token ++ tokensText tokens

/-- The branches that hold text. -/
def branchTexts : List (List GlobToken) → List Text
  | [] => []
  | branch :: branches =>
    if GlobToken.isVoidBranch branch then branchTexts branches
    else tokensText branch :: branchTexts branches

end

/-- The expression that matches what the pattern matches. -/
def expression (g : Glob) : Text :=
  let inner := match g.tokens with
    | [.treeStart] => ".*".toList
    | tokens => tokensText tokens
  "(?-u)^".toList ++ inner ++ ['$']

end Glob

end CustomProps
