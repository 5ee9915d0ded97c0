import CustomProps.Position
import CustomProps.Text.Blank

/-!
Tokens of a line are runs of characters of one kind. The token at a cursor is the longest run that
touches it; it may end or start there. The variable at a position is read from the run of
characters that are not blank when that run holds a call `var(--`, and from the run of name
characters otherwise.
-/

namespace CustomProps

/-- Why a request about a variable has no answer. -/
inductive LookupError where
  | noVariable
  | undeclared (name : Text)
  | notColor (value : Text)
  deriving DecidableEq, Repr

namespace LookupError

def message : LookupError → Text
  | noVariable => "no variable token at the requested position".toList
  | undeclared name =>
    "variable '".toList ++ name ++ "' is not declared in any known source".toList
  | notColor value => '\'' :: value ++ "' is not a color literal".toList

end LookupError

namespace Token

def isNonBlank (c : Char) : Bool := !isBlank c

/-- Characters of a variable name as it is typed: ASCII letters and digits, dashes, underscores. -/
def isVariableChar (c : Char) : Bool := c.isAlphanum || c == '-' || c == '_'

/-- The byte offsets around the run of `p` characters that touches a cut of the line. -/
def span (p : Char → Bool) (line : Text) (cursor : Nat) : Nat × Nat :=
  (cursor - (Text.trailing p (line.takeBytes cursor)).byteSize,
    cursor + (Text.byteSize ((line.dropBytes cursor).takeWhile p)))

/-- The range of the token at a position; none when no `p` character touches it. -/
def range? (p : Char → Bool) (line : Text) (position : Position) : Option Range :=
  let (start, stop) := span p line (line.columnToByte position.column)
  if start = stop then none
  else some (Range.onLine position.line (line.byteToColumn start) (line.byteToColumn stop))

/-- The text that a range covers on its line. -/
def text (line : Text) (range : Range) : Text :=
  line.slice (line.columnToByte range.start.column) (line.columnToByte range.stop.column)

/-- A name is two dashes and at least one byte more. -/
def isName (name : Text) : Bool := 2 < name.byteSize && ['-', '-'].isPrefixOf name

def callMark : Text := ['v', 'a', 'r', '(']
def namedCallMark : Text := ['v', 'a', 'r', '(', '-', '-']

/-- The first argument of the first `var(` call in a token. -/
def firstArgument? (token : Text) : Option Text := do
  let start ← token.find? callMark
  let inner := token.dropBytes (start + callMark.byteSize)
  let stop := (inner.find? [')']).getD inner.byteSize
  let arguments := Text.split ',' (inner.takeBytes stop)
  return Text.trim (← arguments.head?)

/-- A text taken as a name. -/
def asName (name : Text) : Except LookupError Text :=
  if isName name then .ok name else .error .noVariable

/-- The name of the variable at a position. -/
def variableAt (t : Text) (position : Position) : Except LookupError Text :=
  match t.line? position.line with
  | none => .error .noVariable
  | some line =>
    let token := ((range? isNonBlank line position).map (text line)).getD []
    if token.contains namedCallMark then
      match firstArgument? token with
      | some name => asName name
      | none => .error .noVariable
    else
      match range? isVariableChar line position with
      | some range => asName (text line range)
      | none => .error .noVariable

end Token

end CustomProps
