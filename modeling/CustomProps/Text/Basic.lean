/-!
Texts are character lists. A text has three measures: its characters, the bytes that it takes in
UTF-8, in which offsets are counted, and its UTF-16 units, in which columns are counted. An offset
is a cut of the text when it falls between two of its characters; the two halves at a cut are
`takeBytes` and `dropBytes`.
-/

namespace CustomProps

abbrev Text := List Char

namespace Text

/-- UTF-16 units of one character: two outside the basic plane. -/
def unitsOf (c : Char) : Nat := if c.toNat < 0x10000 then 1 else 2

def byteSize : Text → Nat
  | [] => 0
  | c :: t => c.utf8Size + byteSize t

def unitSize : Text → Nat
  | [] => 0
  | c :: t => unitsOf c + unitSize t

@[simp] theorem byteSize_nil : byteSize [] = 0 := rfl
@[simp] theorem byteSize_cons (c : Char) (t : Text) :
    byteSize (c :: t) = c.utf8Size + byteSize t := rfl
@[simp] theorem unitSize_nil : unitSize [] = 0 := rfl
@[simp] theorem unitSize_cons (c : Char) (t : Text) :
    unitSize (c :: t) = unitsOf c + unitSize t := rfl

@[simp] theorem byteSize_append (s t : Text) : byteSize (s ++ t) = byteSize s + byteSize t := by
  induction s with
  | nil => simp
  | cons c s ih => simp [ih, Nat.add_assoc]

@[simp] theorem unitSize_append (s t : Text) : unitSize (s ++ t) = unitSize s + unitSize t := by
  induction s with
  | nil => simp
  | cons c s ih => simp [ih, Nat.add_assoc]

/-- The longest beginning of the text that fits into `n` bytes. -/
def takeBytes : Text → Nat → Text
  | [], _ => []
  | c :: t, n => if c.utf8Size ≤ n then c :: takeBytes t (n - c.utf8Size) else []

/-- What is left after the characters that start before byte `n`. -/
def dropBytes : Text → Nat → Text
  | [], _ => []
  | c :: t, n => if n = 0 then c :: t else dropBytes t (n - c.utf8Size)

/-- The text between two cuts. -/
def slice (t : Text) (start stop : Nat) : Text := takeBytes (dropBytes t start) (stop - start)

/-- The text with what stands between two cuts replaced. -/
def splice (t : Text) (start stop : Nat) (new : Text) : Text :=
  takeBytes t start ++ new ++ dropBytes t stop

/-- Whether byte `n` falls between two characters, or at an end, of the text. -/
def isCut : Text → Nat → Bool
  | [], n => n == 0
  | c :: t, n => n == 0 || (c.utf8Size ≤ n && isCut t (n - c.utf8Size))

@[simp] theorem takeBytes_append (s t : Text) : takeBytes (s ++ t) (byteSize s) = s := by
  induction s with
  | nil =>
    cases t with
    | nil => rfl
    | cons c t => simp [takeBytes, Nat.not_le.2 c.utf8Size_pos]
  | cons c s ih => simp [takeBytes, ih]

@[simp] theorem dropBytes_append (s t : Text) : dropBytes (s ++ t) (byteSize s) = t := by
  induction s with
  | nil => cases t <;> simp [dropBytes]
  | cons c s ih =>
    have h := c.utf8Size_pos
    simp only [List.cons_append, byteSize_cons, dropBytes]
    rw [if_neg (by omega), Nat.add_sub_cancel_left, ih]

/-- Byte offset of the first place where `needle` stands. -/
def find? : Text → Text → Option Nat
  | [], needle => if needle.isEmpty then some 0 else none
  | c :: t, needle =>
    if needle.isPrefixOf (c :: t) then some 0 else (find? t needle).map (c.utf8Size + ·)

/-- Byte offset of the last place where a nonempty `needle` stands. -/
def findLast? : Text → Text → Option Nat
  | [], _ => none
  | c :: t, needle =>
    match findLast? t needle with
    | some n => some (c.utf8Size + n)
    | none => if needle.isPrefixOf (c :: t) then some 0 else none

/-- Whether `needle` stands anywhere in the text. -/
def contains (t needle : Text) : Bool := (t.find? needle).isSome

/-- What follows `head`, when the text starts with it. -/
def after? (head t : Text) : Option Text :=
  if head.isPrefixOf t then some (t.drop head.length) else none

/-- What precedes `tail`, when the text ends with it. -/
def before? (tail t : Text) : Option Text :=
  if tail.isSuffixOf t then some (t.take (t.length - tail.length)) else none

/-- The pieces between separators; a text without one is a single piece. -/
def split (sep : Char) : Text → List Text
  | [] => [[]]
  | c :: t =>
    if c = sep then [] :: split sep t
    else match split sep t with
      | [] => [[c]]
      | piece :: pieces => (c :: piece) :: pieces

/-- The longest end of the text whose characters all satisfy `p`. -/
def trailing (p : Char → Bool) (t : Text) : Text := (t.reverse.takeWhile p).reverse

/-- The decimal digits of a number. -/
def ofNat (n : Nat) : Text := Nat.toDigits 10 n

end Text

end CustomProps
