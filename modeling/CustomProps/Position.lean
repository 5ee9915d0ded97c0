import CustomProps.Text.Basic

/-!
A position is a line and a column, both counted from zero, the column in UTF-16 units. Lines end at
line feeds; a carriage return before one is not part of the line's text. An offset is counted in
bytes, either from the start of the whole text or from the start of one line.
-/

namespace CustomProps

structure Position where
  line : Nat
  column : Nat
  deriving DecidableEq, Repr

structure Range where
  start : Position
  stop : Position
  deriving DecidableEq, Repr

/-- The range that covers columns `first` to `last` of one line. -/
def Range.onLine (line first last : Nat) : Range := ⟨⟨line, first⟩, ⟨line, last⟩⟩

/-- The empty range at a position. -/
def Range.at (p : Position) : Range := ⟨p, p⟩

namespace Text

/-- Byte offset of a position in the text. A column that is not the start of a character of its
line, because it lies past the end or inside a surrogate pair, means the end of the line; a line
that does not exist has no offset. -/
def offset? (t : Text) (p : Position) : Option Nat := go t 0 0 0
where
  /-- The line, column and offset are those of the first character of what is left. -/
  go : Text → Nat → Nat → Nat → Option Nat
    | [], line, _, offset => if line = p.line then some offset else none
    | c :: t, line, column, offset =>
      if line = p.line ∧ column = p.column then some offset
      else if c = '\n' then
        if line = p.line then some offset else go t (line + 1) 0 (offset + 1)
      else go t line (column + unitsOf c) (offset + c.utf8Size)

/-- A line without the carriage return at its end. -/
def dropReturn (line : Text) : Text := (before? ['\r'] line).getD line

/-- The text of a line, without its terminator. -/
def line? (t : Text) (n : Nat) : Option Text := (split '\n' t)[n]?.map dropReturn

/-- Byte offset in a line of the first character that starts at `column` or after it; the end of
the line if there is none. -/
def columnToByte : Text → Nat → Nat
  | [], _ => 0
  | c :: t, column =>
    if column = 0 then 0 else c.utf8Size + columnToByte t (column - unitsOf c)

/-- Column of a byte offset in a line, at most the line's own width. -/
def byteToColumn (line : Text) (offset : Nat) : Nat := unitSize (takeBytes line offset)

/-- Column of a byte offset that does not lie inside a character. -/
def column? (line : Text) (offset : Nat) : Option Nat :=
  if line.isCut (min offset line.byteSize) then some (line.byteToColumn offset) else none

end Text

end CustomProps
