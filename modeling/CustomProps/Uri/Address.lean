import CustomProps.Text.Hex

/-!
Hosts that are numbers. An address of four bytes is written as up to four numbers between points,
the last of which fills all bytes that are left; a number may be decimal, octal after a zero, or
hexadecimal after `0x`. An address of eight words is written in hexadecimal between colons, where
one double colon stands for zeros and the last two words may be written as four bytes. Each has one
normal form.
-/

namespace CustomProps

namespace Address

/-- The number that digits spell in a base, if all of them are digits of it. -/
def natIn? (base : Nat) (ds : Text) : Option Nat :=
  ds.foldlM (fun n d => do
    let v ← Hex.value? d
    if v < base then some (base * n + v) else none) 0

/-- A number in one of the three notations. A lone mark of a base counts as zero. -/
def number? : Text → Option Nat
  | [] => none
  | '0' :: 'x' :: ds | '0' :: 'X' :: ds => natIn? 16 ds
  | '0' :: d :: ds => natIn? 8 (d :: ds)
  | ds => natIn? 10 ds

/-- The parts of a name between points, one empty part at the end left out. -/
def parts (name : Text) : List Text :=
  let ps := Text.split '.' name
  if ps.getLast? == some [] then ps.dropLast else ps

/-- Whether the last part of a name is a number. Such a name must be an address. -/
def endsInNumber (name : Text) : Bool :=
  match (parts name).getLast? with
  | some last => !last.isEmpty && (last.all Char.isDigit || (number? last).isSome)
  | none => false

/-- The four bytes that up to four numbers give. -/
def fourBytes? (numbers : List Nat) : Option (List Nat) :=
  match numbers.reverse with
  | [] => none
  | last :: front =>
    let left := 4 - front.length
    if front.length < 4 && front.all (· < 256) && last < Nat.pow 256 left then
      some (front.reverse ++ (List.range left).map fun i =>
        last / Nat.pow 256 (left - 1 - i) % 256)
    else none

/-- The bytes of an address of four bytes. -/
def bytes? (name : Text) : Option (List Nat) := ((parts name).mapM number?).bind fourBytes?

def ofBytes (bytes : List Nat) : Text := List.intercalate ['.'] (bytes.map Text.ofNat)

/-- A byte in decimal without a leading zero. -/
def octet? : Text → Option Nat
  | [] => none
  | '0' :: _ :: _ => none
  | ds => (natIn? 10 ds).filter (· < 256)

/-- The two words that end an address written with four bytes at its end. -/
def tailWords? (t : Text) : Option (List Nat) := do
  match ← (Text.split '.' t).mapM octet? with
  | [a, b, c, d] => some [256 * a + b, 256 * c + d]
  | _ => none

/-- Words read so far and, if a double colon was read, how many of them stand up to its end. The
double colon itself is read as one word zero. -/
structure Words where
  words : List Nat
  gap : Option Nat
  deriving DecidableEq, Repr

namespace Words

def push (w : Words) (n : Nat) : Words := { w with words := w.words ++ [n] }

/-- Reads a double colon, of which there may be one only. -/
def pushGap? (w : Words) : Option Words :=
  match w.gap with
  | none => some ⟨w.words ++ [0], some (w.words.length + 1)⟩
  | some _ => none

/-- All eight words, the gap filled with zeros. -/
def fill? (w : Words) : Option (List Nat) :=
  match w.gap with
  | none => if w.words.length = 8 then some w.words else none
  | some gap =>
    some (w.words.take gap ++ List.replicate (8 - w.words.length) 0 ++ w.words.drop gap)

/-- Reads words between colons. -/
def read (w : Words) : Text → Option Words
  | [] => some w
  | ':' :: t => if w.words.length = 8 then none else w.pushGap?.bind (read · t)
  | c :: t =>
    let digits := ((c :: t).take 4).takeWhile Hex.isDigit
    let word := (Hex.nat? digits).getD 0
    if w.words.length = 8 || digits.isEmpty then none
    else match h : (c :: t).drop digits.length with
      | [] => some (w.push word)
      | ':' :: d :: rest => read (w.push word) (d :: rest)
      | '.' :: _ =>
        if 6 < w.words.length then none
        else (tailWords? (c :: t)).map fun tail => { w with words := w.words ++ tail }
      | _ => none
termination_by t => t.length
decreasing_by
  · exact Nat.lt_succ_self _
  · have h₁ := congrArg List.length h
    simp only [List.length_drop, List.length_cons] at h₁ ⊢
    omega

end Words

/-- The words of an address of eight words. -/
def words? : Text → Option (List Nat)
  | ':' :: ':' :: t => (Words.read ⟨[0], some 1⟩ t).bind Words.fill?
  | ':' :: _ | [_] | [] => none
  | t => (Words.read ⟨[], none⟩ t).bind Words.fill?

/-- The length of the run of zeros that a list starts with. -/
def zeros (words : List Nat) : Nat := (words.takeWhile (· == 0)).length

/-- Where the first of the longest runs of zeros starts, and its length. -/
def longestZeros : List Nat → Nat × Nat
  | [] => (0, 0)
  | w :: ws =>
    let (start, length) := longestZeros ws
    let here := zeros (w :: ws)
    if length ≤ here then (0, here) else (start + 1, length)

/-- The words in hexadecimal; a double colon stands for the longest run of zeros, if it is longer
than one. -/
def ofWords (words : List Nat) : Text :=
  let written (ws : List Nat) : Text := List.intercalate [':'] (ws.map (Nat.toDigits 16))
  let (start, length) := longestZeros words
  if 1 < length then
    written (words.take start) ++ [':', ':'] ++ written (words.drop (start + length))
  else written words

end Address

end CustomProps
