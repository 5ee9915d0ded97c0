import CustomProps.Json.Basic
import CustomProps.Text.Hex

/-!
Reading JSON text. A reader returns the value and the text after it. Nested values are read with a
count that bounds the depth; the length of the text is always enough.
-/

namespace CustomProps

namespace Json

def isSpace (c : Char) : Bool := c == ' ' || c == '\t' || c == '\n' || c == '\r'

def skipSpace (t : Text) : Text := t.dropWhile isSpace

def isHighSurrogate (n : Nat) : Bool := 0xD800 ≤ n && n < 0xDC00
def isLowSurrogate (n : Nat) : Bool := 0xDC00 ≤ n && n < 0xE000

/-- The character of a one-letter escape. -/
def escape? (c : Char) : Option Char :=
  match c with
  | '"' => some '"'
  | '\\' => some '\\'
  | '/' => some '/'
  | 'b' => some '\x08'
  | 'f' => some '\x0c'
  | 'n' => some '\n'
  | 'r' => some '\r'
  | 't' => some '\t'
  | _ => none

/-- Reads the rest of a string up to its closing quote; `done` is what was read, backwards. -/
def readString (done : Text) : Text → Option (Text × Text)
  | [] => none
  | '"' :: t => some (done.reverse, t)
  | '\\' :: 'u' :: a :: b :: c :: d :: '\\' :: 'u' :: e :: f :: g :: h :: t =>
    match Hex.nat? [a, b, c, d], Hex.nat? [e, f, g, h] with
    | some high, some low =>
      if isHighSurrogate high then
        if isLowSurrogate low then
          readString (Char.ofNat (0x10000 + 0x400 * (high - 0xD800) + (low - 0xDC00)) :: done) t
        else none
      else if isLowSurrogate high then none
      else readString (Char.ofNat high :: done) ('\\' :: 'u' :: e :: f :: g :: h :: t)
    | _, _ => none
  | '\\' :: 'u' :: a :: b :: c :: d :: t =>
    match Hex.nat? [a, b, c, d] with
    | some n =>
      if isHighSurrogate n || isLowSurrogate n then none
      else readString (Char.ofNat n :: done) t
    | none => none
  | '\\' :: e :: t =>
    match escape? e with
    | some c => readString (c :: done) t
    | none => none
  | c :: t => if c.toNat < 0x20 || c == '\\' then none else readString (c :: done) t

def digits (t : Text) : Text × Text := (t.takeWhile Char.isDigit, t.dropWhile Char.isDigit)

/-- The fraction of a number, with its point, where one is written. -/
def readFraction : Text → Option (Text × Text)
  | '.' :: t =>
    match digits t with
    | ([], _) => none
    | (ds, rest) => some ('.' :: ds, rest)
  | t => some ([], t)

/-- The exponent of a number, with its mark, where one is written. -/
def readExponent : Text → Option (Text × Text)
  | [] => some ([], [])
  | e :: t =>
    if e == 'e' || e == 'E' then
      let (sign, t) := match t with
        | '+' :: t => (['+'], t)
        | '-' :: t => (['-'], t)
        | t => ([], t)
      match digits t with
      | ([], _) => none
      | (ds, rest) => some (e :: sign ++ ds, rest)
    else some ([], e :: t)

def natOf (ds : Text) : Nat := ds.foldl (fun n d => 10 * n + (d.toNat - '0'.toNat)) 0

/-- The number that is spelled by a sign, digits, a fraction and an exponent. -/
def number (negative : Bool) (ds fraction exponent : Text) : Json :=
  let spelling := (if negative then ['-'] else []) ++ ds ++ fraction ++ exponent
  let n := natOf ds
  if fraction.isEmpty && exponent.isEmpty then
    if negative then
      if 0 < n && n ≤ 0x8000000000000000 then .int (-(n : Int)) else .decimal spelling
    else if n < 0x10000000000000000 then .int n else .decimal spelling
  else .decimal spelling

def readNumber (t : Text) : Option (Json × Text) := do
  let (negative, t) := match t with
    | '-' :: t => (true, t)
    | t => (false, t)
  let (ds, t) := digits t
  if ds.isEmpty || (ds.head? == some '0' && ds.length != 1) then none
  else
    let (fraction, t) ← readFraction t
    let (exponent, t) ← readExponent t
    return (number negative ds fraction exponent, t)

/-- Reads one of the three literal names. -/
def readName (name : String) (value : Json) (t : Text) : Option (Json × Text) :=
  (Text.after? name.toList t).map (value, ·)

mutual

/-- Reads a value after any blanks. -/
def readValue (depth : Nat) (t : Text) : Option (Json × Text) :=
  match depth with
  | 0 => none
  | depth + 1 =>
    match skipSpace t with
    | [] => none
    | '"' :: t => (readString [] t).map fun (s, t) => (.str s, t)
    | '[' :: t =>
      match skipSpace t with
      | ']' :: t => some (.arr [], t)
      | t => (readItems depth t).map fun (items, t) => (.arr items, t)
    | '\x7b' :: t =>
      match skipSpace t with
      | '\x7d' :: t => some (.obj [], t)
      | t => (readFields depth t).map fun (fields, t) => (.obj fields, t)
    | 'n' :: t => readName "ull" .null t
    | 't' :: t => readName "rue" (.bool true) t
    | 'f' :: t => readName "alse" (.bool false) t
    | t => readNumber t

/-- Reads items up to the closing bracket. -/
def readItems (depth : Nat) (t : Text) : Option (List Json × Text) :=
  match depth with
  | 0 => none
  | depth + 1 => do
    let (item, t) ← readValue depth t
    match skipSpace t with
    | ',' :: t =>
      let (items, t) ← readItems depth t
      return (item :: items, t)
    | ']' :: t => return ([item], t)
    | _ => none

/-- Reads keys and values up to the closing brace. -/
def readFields (depth : Nat) (t : Text) : Option (List (Text × Json) × Text) :=
  match depth with
  | 0 => none
  | depth + 1 =>
    match skipSpace t with
    | '"' :: t => do
      let (key, t) ← readString [] t
      match skipSpace t with
      | ':' :: t =>
        let (value, t) ← readValue depth t
        match skipSpace t with
        | ',' :: t =>
          let (fields, t) ← readFields depth t
          return ((key, value) :: fields, t)
        | '\x7d' :: t => return ([(key, value)], t)
        | _ => none
      | _ => none
    | _ => none

end

/-- The value that a whole text spells. -/
def parse? (t : Text) : Option Json :=
  match readValue (t.length + 1) t with
  | some (j, rest) => if (skipSpace rest).isEmpty then some j else none
  | none => none

end Json

end CustomProps
