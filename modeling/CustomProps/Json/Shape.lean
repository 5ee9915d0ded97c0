import CustomProps.Json.Basic

/-!
Shapes of JSON values. A record is written as an object, where unknown keys do not count, or as a
list of its members in order; an open record is written as an object only.
-/

namespace CustomProps

/-- A test on values. -/
abbrev Shape := Json → Bool

/-- A member of a record. -/
structure Member where
  key : String
  shape : Shape
  /-- Whether an object may do without it. -/
  mayMiss : Bool
  /-- Whether a list may end before it. -/
  mayEnd : Bool

namespace Shape

def any : Shape := fun _ => true

def flag : Shape := fun j => j.bool?.isSome

def text : Shape := fun j => j.text?.isSome

/-- A number of 32 bits without sign. -/
def word : Shape := fun j => j.word?.isSome

/-- A number of 32 bits with sign. -/
def signedWord : Shape := fun j => j.signedWord?.isSome

def number : Shape
  | .int _ | .decimal _ => true
  | _ => false

def orNull (s : Shape) : Shape
  | .null => true
  | j => s j

def list (s : Shape) : Shape
  | .arr items => items.all s
  | _ => false

/-- Two values in a list. -/
def pair (s : Shape) : Shape
  | .arr [a, b] => s a && s b
  | _ => false

/-- An object whose keys satisfy `key` and whose values have the shape. -/
def table (key : Text → Bool) (s : Shape) : Shape
  | .obj fields => fields.all fun (k, v) => key k && s v
  | _ => false

/-- One of the given names, alone or as the only key of an object, with the value `null`. -/
def name (names : List String) : Shape
  | .str t => names.any (·.toList == t)
  | .obj ((k, v) :: rest) =>
    names.any (·.toList == k) && rest.all (·.1 == k) &&
      (match ((k, v) :: rest).getLast? with
        | some (_, .null) => true
        | _ => false)
  | _ => false

def oneOf (shapes : List Shape) : Shape := fun j => shapes.any (· j)

def hasMember (j : Json) (m : Member) : Bool :=
  match j.field? m.key with
  | some v => m.shape v
  | none => m.mayMiss

def openRecord (members : List Member) : Shape
  | j@(.obj _) => members.all (hasMember j)
  | _ => false

def record (members : List Member) : Shape
  | .arr items =>
    items.length ≤ members.length && (items.zip members).all (fun (v, m) => m.shape v) &&
      (members.drop items.length).all (·.mayEnd)
  | j => openRecord members j

end Shape

namespace Member

def required (key : String) (s : Shape) : Member := ⟨key, s, false, false⟩

/-- A member that may be missing or `null`. -/
def optional (key : String) (s : Shape) : Member := ⟨key, s.orNull, true, false⟩

/-- A member that may be missing, also at the end of a list. -/
def usual (key : String) (s : Shape) : Member := ⟨key, s, true, true⟩

end Member

end CustomProps
