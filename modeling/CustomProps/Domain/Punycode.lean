import CustomProps.Text.Basic

/-!
Labels in ASCII. The ASCII characters of a label come first, and after a hyphen the others follow as
numbers. Such a number says how far to go, character by character and place by place, from the last
insertion to the next. It is written in base 36, lowest digit first, with a last digit below a
threshold that adapts to the size of earlier numbers.
-/

namespace CustomProps

namespace Punycode

def isBasic (c : Char) : Bool := c.toNat < 0x80

/-- Letters are the digits below 26. -/
def digit (n : Nat) : Char :=
  if n < 26 then Char.ofNat ('a'.toNat + n) else Char.ofNat ('0'.toNat + (n - 26))

def value? (c : Char) : Option Nat :=
  if 'a' ≤ c ∧ c ≤ 'z' then some (c.toNat - 'a'.toNat)
  else if 'A' ≤ c ∧ c ≤ 'Z' then some (c.toNat - 'A'.toNat)
  else if '0' ≤ c ∧ c ≤ '9' then some (c.toNat - '0'.toNat + 26)
  else none

/-- The threshold of the digit at place `k`, counted in steps of 36. -/
def threshold (bias k : Nat) : Nat := max 1 (min 26 (k - bias))

theorem threshold_pos (bias k : Nat) : 0 < threshold bias k := by
  unfold threshold
  omega

/-- Divides until the result is small, and counts the divisions in steps of 36. -/
def scale (delta : Nat) : Nat × Nat :=
  if 455 < delta then
    let (rest, k) := scale (delta / 35)
    (rest, k + 36)
  else (delta, 0)
termination_by delta
decreasing_by omega

/-- The bias after the number `delta`, when `count` characters stand in the label. The first number
of a label is expected to be large. -/
def adapt (delta count : Nat) (isFirst : Bool) : Nat :=
  let damped := if isFirst then delta / 700 else delta / 2
  let (rest, k) := scale (damped + damped / count)
  k + 36 * rest / (rest + 38)

/-- A number from place `k` on. -/
def digits (bias k n : Nat) : Text :=
  let t := threshold bias k
  if n < t then [digit n]
  else digit (t + (n - t) % (36 - t)) :: digits bias (k + 36) ((n - t) / (36 - t))
termination_by n
decreasing_by
  have h₁ := threshold_pos bias k
  have h₂ := Nat.div_le_self (n - threshold bias k) (36 - threshold bias k)
  omega

/-- Numbers written so far, the one that has not been written yet, and how many characters of the
label they account for. -/
structure Writer where
  out : Text
  delta : Nat
  bias : Nat
  count : Nat
  deriving DecidableEq, Repr

namespace Writer

/-- Passes one character of the label on the way to the characters with code point `code`. -/
def pass (basics code : Nat) (w : Writer) (c : Char) : Writer :=
  if c.toNat < code then { w with delta := w.delta + 1 }
  else if c.toNat = code then
    ⟨w.out ++ digits w.bias 36 w.delta, 0, adapt w.delta (w.count + 1) (w.count == basics),
      w.count + 1⟩
  else w

/-- Writes all characters with code point `code`; the code points before `next` are done. -/
def write (label : Text) (basics : Nat) (w : Writer) (next code : Nat) : Writer :=
  let w := { w with delta := w.delta + (code - next) * (w.count + 1) }
  let w := label.foldl (pass basics code) w
  { w with delta := w.delta + 1 }

/-- Writes the characters with the given code points, in this order. -/
def writeAll (label : Text) (basics : Nat) : Writer → Nat → List Nat → Writer
  | w, _, [] => w
  | w, next, code :: codes =>
    writeAll label basics (w.write label basics next code) (code + 1) codes

end Writer

/-- The code points outside ASCII, in order and without repetition. -/
def codes (label : Text) : List Nat :=
  (((label.filter (!isBasic ·)).map Char.toNat).mergeSort (· ≤ ·)).eraseReps

def encode (label : Text) : Text :=
  let basic := label.filter isBasic
  let start : Writer := ⟨[], 0, 72, basic.length⟩
  basic ++ (if basic.isEmpty then [] else ['-']) ++
    (start.writeAll label basic.length 0x80 (codes label)).out

/-- A label that is being read: the characters so far, the code point and the place of the last
insertion, and the number that is being read. -/
structure Reader where
  label : Text
  code : Nat
  place : Nat
  bias : Nat
  delta : Nat
  weight : Nat
  k : Nat
  deriving DecidableEq, Repr

namespace Reader

def start (basic : Text) : Reader := ⟨basic, 0x80, 0, 72, 0, 1, 36⟩

/-- Ends a number: goes as far as it says and inserts a character there. -/
def insert? (r : Reader) (delta : Nat) : Option Reader :=
  let count := r.label.length + 1
  let code := r.code + (r.place + delta) / count
  let place := (r.place + delta) % count
  if code.isValidChar then
    some ⟨r.label.insertIdx place (Char.ofNat code), code, place + 1,
      adapt delta count (r.place == 0), 0, 1, 36⟩
  else none

def feed? (r : Reader) (c : Char) : Option Reader := do
  let d ← value? c
  let t := threshold r.bias r.k
  let delta := r.delta + d * r.weight
  if d < t then r.insert? delta
  else some { r with delta := delta, weight := r.weight * (36 - t), k := r.k + 36 }

end Reader

/-- Reads a label; `none` where a character is not ASCII, or a number has a wrong digit, does not
end or leads nowhere. -/
def decode? (t : Text) : Option Text := do
  let extension := Text.trailing (· != '-') t
  let basic := t.take (t.length - extension.length - 1)
  let numbers := if basic.isEmpty then t else extension
  let r ← numbers.foldlM Reader.feed? (Reader.start basic)
  if basic.all isBasic && r.k == 36 then some r.label else none

end Punycode

end CustomProps
