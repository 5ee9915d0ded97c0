import CustomProps.Glob.Kind
import CustomProps.Path

/-!
What glob patterns match. A pattern is run over the bytes of a path: each token takes the ends
that may be left of the path to those that may be left after it, and the path is matched when
nothing can be left. Braces without any text in them count as nothing.

A path whose last piece is a double point has no file name and no extension. Patterns that are
looked up by file name or by extension therefore do not match it.
-/

namespace CustomProps

mutual

/-- Whether a token stands for no text at all. -/
def GlobToken.isVoid : GlobToken → Bool
  | .alternatives branches => GlobToken.allVoid branches
  | _ => false

/-- Whether every token of a branch is void. -/
def GlobToken.isVoidBranch : List GlobToken → Bool
  | [] => true
  | token :: tokens => token.isVoid && GlobToken.isVoidBranch tokens

def GlobToken.allVoid : List (List GlobToken) → Bool
  | [] => true
  | branch :: branches => GlobToken.isVoidBranch branch && GlobToken.allVoid branches

end

namespace Glob

/-- Every end of a byte list. -/
def ends : Bytes → List Bytes
  | [] => [[]]
  | b :: bs => (b :: bs) :: ends bs

/-- What follows each slash. -/
def afterSlashes : Bytes → List Bytes
  | [] => []
  | b :: bs => if b == Path.slash then bs :: afterSlashes bs else afterSlashes bs

def afterSlash? : Bytes → Option Bytes
  | [] => none
  | b :: bs => if b == Path.slash then some bs else none

/-- The byte intervals of a range of characters. Between characters of several bytes, only the last
byte of the first and the first byte of the second span an interval, and every other byte stands for
itself. -/
def byteIntervals (low high : Char) : List (UInt8 × UInt8) :=
  let single (b : UInt8) : UInt8 × UInt8 := (b, b)
  let lows := Text.utf8 [low]
  let highs := Text.utf8 [high]
  if low = high then lows.map single
  else match lows.getLast?, highs with
    | some b, b' :: rest => lows.dropLast.map single ++ [(b, b')] ++ rest.map single
    | _, _ => []

def intervals (ranges : List (Char × Char)) : List (UInt8 × UInt8) :=
  ranges.flatMap fun (low, high) => byteIntervals low high

def inIntervals (is : List (UInt8 × UInt8)) (b : UInt8) : Bool :=
  is.any fun (low, high) => low ≤ b && b ≤ high

def afterByte? (p : UInt8 → Bool) : Bytes → Option Bytes
  | [] => none
  | b :: bs => if p b then some bs else none

def afterChar? (c : Char) (bs : Bytes) : Option Bytes :=
  let code := Text.utf8 [c]
  if code.isPrefixOf bs then some (bs.drop code.length) else none

mutual

/-- The ends that may be left after a token, given those that may be left before it. -/
def advance : GlobToken → List Bytes → List Bytes
  | .char c, rests => rests.filterMap (afterChar? c)
  | .any, rests => rests.filterMap (afterByte? fun _ => true)
  | .star, rests => (rests.flatMap ends).eraseDups
  | .treeStart, rests => (rests.flatMap fun bs => bs :: afterSlashes bs).eraseDups
  | .treeEnd, rests => ((rests.filterMap afterSlash?).flatMap ends).eraseDups
  | .treeMiddle, rests =>
    ((rests.filterMap afterSlash?).flatMap fun bs => bs :: afterSlashes bs).eraseDups
  | .oneOf negated ranges, rests =>
    rests.filterMap (afterByte? fun b => inIntervals (intervals ranges) b != negated)
  | .alternatives branches, rests =>
    if GlobToken.allVoid branches then rests else (advanceAny branches rests).eraseDups

/-- The ends left after all tokens of a branch. -/
def advanceAll : List GlobToken → List Bytes → List Bytes
  | [], rests => rests
  | token :: tokens, rests => advanceAll tokens (advance token rests)

/-- The ends left after any branch that holds text. -/
def advanceAny : List (List GlobToken) → List Bytes → List Bytes
  | [], _ => []
  | branch :: branches, rests =>
    (if GlobToken.isVoidBranch branch then [] else advanceAll branch rests) ++
      advanceAny branches rests

end

/-- Whether the tokens, in order, can take up all of the bytes. -/
def covers (tokens : List GlobToken) (bs : Bytes) : Bool :=
  (advanceAll tokens [bs]).any List.isEmpty

/-- Whether a path has a file name. -/
def hasName (path : Bytes) : Bool :=
  (Path.pieces path).getLast? != some [Path.point, Path.point]

/-- Whether a pattern matches a path. A pattern of a single directory wildcard matches all. -/
def accepts (g : Glob) (path : Bytes) : Bool :=
  match g.tokens with
  | [.treeStart] => true
  | tokens => (!(kind tokens).needsName || hasName path) && covers tokens path

end Glob

end CustomProps
