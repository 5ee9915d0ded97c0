import CustomProps.Text.Blank
import CustomProps.Text.Hex

/-!
Tables of code points. A row gives one value to code points at equal distances. Rows are written in
hexadecimal as `first-last/step:value`, where all but `first` may be left out, and stand between
blanks. The first row that covers a character decides.
-/

namespace CustomProps

/-- Code points `first`, `first + step`, … up to `last`, with their value. -/
structure CodeRange (α : Type) where
  first : Nat
  last : Nat
  step : Nat
  value : α
  deriving DecidableEq, Repr

namespace CodeRange

def covers {α : Type} (r : CodeRange α) (n : Nat) : Bool :=
  r.first ≤ n && n ≤ r.last && (n - r.first) % r.step == 0

/-- What precedes a separator and what follows it. -/
def cut (sep : Char) (t : Text) : Text × Text :=
  (t.takeWhile (· != sep), (t.dropWhile (· != sep)).drop 1)

/-- A number, or `absent` where nothing is written. -/
def natOr? (absent : Nat) (t : Text) : Option Nat := if t.isEmpty then some absent else Hex.nat? t

def read? {α : Type} (value? : Text → Option α) (row : Text) : Option (CodeRange α) := do
  let (span, value) := cut ':' row
  let (ends, step) := cut '/' span
  let (first, last) := cut '-' ends
  let first ← Hex.nat? first
  return ⟨first, ← natOr? first last, ← natOr? 1 step, ← value? value⟩

/-- The rows of a table. -/
def table {α : Type} (value? : Text → Option α) (rows : String) : List (CodeRange α) :=
  (Text.words rows.toList).filterMap (read? value?)

def row? {α : Type} (rows : List (CodeRange α)) (c : Char) : Option (CodeRange α) :=
  rows.find? (·.covers c.toNat)

/-- The value of a character, if a row covers it. -/
def get? {α : Type} (rows : List (CodeRange α)) (c : Char) : Option α :=
  (row? rows c).map (·.value)

/-- A set of characters is a table without values. -/
def set (rows : String) : List (CodeRange Unit) := table (fun _ => some ()) rows

def mem (rows : List (CodeRange Unit)) (c : Char) : Bool := rows.any (·.covers c.toNat)

/-- The characters whose code points stand between points. -/
def chars? (t : Text) : Option Text :=
  if t.isEmpty then some []
  else (Text.split '.' t).mapM fun code => (Hex.nat? code).map Char.ofNat

end CodeRange

end CustomProps
