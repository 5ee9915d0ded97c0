import CustomProps.Text.Basic

/-!
JSON values. Whole numbers that fit into 64 bits are apart from all other numbers, which are kept as
they are spelled: a field that wants a whole number refuses `1.0` and `-0`. When a key is written
twice, the last value counts.
-/

namespace CustomProps

inductive Json where
  | null
  | bool (b : Bool)
  | int (n : Int)
  | decimal (spelling : Text)
  | str (t : Text)
  | arr (items : List Json)
  | obj (fields : List (Text × Json))
  deriving Repr

namespace Json

/-- A string value. -/
def ofString (s : String) : Json := .str s.toList

def ofNat (n : Nat) : Json := .int n

/-- An object whose keys are given as strings. -/
def mkObj (fields : List (String × Json)) : Json := .obj (fields.map fun (k, v) => (k.toList, v))

/-- The value of a key, the last one written. -/
def field? (key : String) : Json → Option Json
  | .obj fields => (fields.reverse.find? (·.1 == key.toList)).map (·.2)
  | _ => none

/-- The value of a key, where `null` is as good as nothing. -/
def present? (key : String) (j : Json) : Option Json :=
  match j.field? key with
  | some .null => none
  | other => other

def isObj : Json → Bool
  | .obj _ => true
  | _ => false

def text? : Json → Option Text
  | .str t => some t
  | _ => none

def bool? : Json → Option Bool
  | .bool b => some b
  | _ => none

def items? : Json → Option (List Json)
  | .arr items => some items
  | _ => none

/-- A whole number from zero up to `bound`, which is left out. -/
def natBelow? (bound : Nat) : Json → Option Nat
  | .int (.ofNat n) => if n < bound then some n else none
  | _ => none

/-- A number of 32 bits without sign. -/
def word? : Json → Option Nat := natBelow? 0x100000000

/-- A number of 32 bits with sign. -/
def signedWord? : Json → Option Int
  | .int n => if -0x80000000 ≤ n ∧ n < 0x80000000 then some n else none
  | _ => none

/-- A list whose items are all read by `read`. -/
def list? (read : Json → Option α) (j : Json) : Option (List α) := do
  (← j.items?).mapM read

/-- A value that `null` stands in for when there is none. -/
def optional? (read : Json → Option α) : Json → Option (Option α)
  | .null => some none
  | j => (read j).map some

/-- A key that may be missing or `null`, but if it is there must be read by `read`. -/
def maybe? (key : String) (read : Json → Option α) (j : Json) : Option (Option α) :=
  match j.field? key with
  | none => some none
  | some v => optional? read v

/-- The fields of a record, `none` for a missing one: an object by key, where unknown keys do not
count, or a list with one item for each key in order. -/
def record? (keys : List String) : Json → Option (List (Option Json))
  | .arr items => if items.length = keys.length then some (items.map some) else none
  | j@(.obj _) => some (keys.map (j.field? ·))
  | _ => none

end Json

end CustomProps
