import CustomProps.Token

/-!
What accepting a variable inserts into a line. Inside an open `var(` the name being typed is
completed in place, and the call is closed if nothing closes it. On a line with `var(` elsewhere
the bare name is inserted, on a line with a `css` property object a quoted call, and on any other
line a call.
-/

namespace CustomProps

inductive InsertionRule where
  | completeCall
  | bareName
  | quotedCall
  | call
  deriving DecidableEq, Repr

structure Insertion where
  text : Text
  range : Range
  rule : InsertionRule
  deriving DecidableEq, Repr

namespace Insertion

/-- The call `var(name)`. -/
def callOf (name : Text) : Text := Token.callMark ++ name ++ [')']

/-- The dashes that a text starts with. -/
def dashes (t : Text) : Nat := (t.takeWhile (· == '-')).length

end Insertion

/-- An open `var(` before the cursor, with a name being typed as its argument. All are byte offsets
in the line but `dashes`, which counts the dashes typed. -/
structure OpenCall where
  argument : Nat
  dashes : Nat
  cursor : Nat
  deriving DecidableEq, Repr

namespace OpenCall

/-- The open call at a cursor. Only characters of a name, with no more than two dashes in front, may
stand between `var(` and the cursor. -/
def before? (position : Position) (line : Text) : Option OpenCall := do
  let cursor := line.columnToByte position.column
  let opening ← (line.takeBytes cursor).findLast? Token.callMark
  let argument := opening + Token.callMark.byteSize
  let typed := line.slice argument cursor
  if typed.all Token.isVariableChar && Insertion.dashes typed ≤ 2 then
    some ⟨argument, Insertion.dashes typed, cursor⟩
  else none

/-- Completes the name in place, if it can be cut after as many dashes as are typed. The edit starts
after the dashes and ends before the next `)`, or after the name's characters if there is none. -/
def complete? (call : OpenCall) (name : Text) (position : Position) (line : Text) :
    Option Insertion :=
  let cut := min call.dashes name.byteSize
  let rest := line.dropBytes call.cursor
  let remaining := name.dropBytes cut
  let edit (stop : Nat) (text : Text) : Insertion :=
    ⟨text, Range.onLine position.line (line.byteToColumn (call.argument + call.dashes))
      (line.byteToColumn stop), .completeCall⟩
  if name.isCut cut then
    match rest.find? [')'] with
    | some close => some (edit (call.cursor + close) remaining)
    | none =>
      let tail := Text.byteSize (rest.takeWhile Token.isVariableChar)
      some (edit (call.cursor + tail) (remaining ++ [')']))
  else none

end OpenCall

namespace Insertion

/-- What to insert for a name at a cursor, and the range that it replaces. There is nothing to
insert only where a name would have to be cut inside a character. -/
def resolve? (name : Text) (cursor : Position) (replaced : Range) (line : Text)
    (propertyLine : Bool) : Option Insertion :=
  match OpenCall.before? cursor line with
  | some call => call.complete? name cursor line
  | none =>
    if line.contains Token.callMark then some ⟨name, replaced, .bareName⟩
    else if propertyLine then some ⟨['\''] ++ callOf name ++ ['\''], replaced, .quotedCall⟩
    else some ⟨callOf name, replaced, .call⟩

end Insertion

/-- The line of a completion request, with the token at the cursor. -/
structure CursorLine where
  position : Position
  line : Text
  /-- The range of the token that the editor would replace. -/
  replaced : Range
  /-- Whether the line writes a `css` property as an object. -/
  propertyLine : Bool
  deriving DecidableEq, Repr

namespace CursorLine

def propertyMark : Text := "css=\x7b\x7b".toList

def ofLine (line : Text) (position : Position) : CursorLine where
  position := position
  line := line
  replaced := (Token.range? Token.isNonBlank line position).getD (Range.at position)
  propertyLine := line.contains propertyMark

def ofDocument? (t : Text) (position : Position) : Option CursorLine :=
  (t.line? position.line).map (ofLine · position)

end CursorLine

end CustomProps
