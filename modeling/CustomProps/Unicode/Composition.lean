import CustomProps.Unicode.CompositionTable

/-!
The composed normal form. A text is taken apart as far as possible, the marks of each character are
put in the order of their combining classes, and then characters are composed again with the marks
that follow them.
-/

namespace CustomProps

namespace Unicode

/-- The combining class: zero for a character that starts a new group. -/
def combiningClass (c : Char) : Nat := (CodeRange.get? classes c).getD 0

/-- Korean syllables are numbered by their three parts, of which the last may be missing (number
zero). -/
structure Syllable where
  lead : Nat
  vowel : Nat
  tail : Nat
  deriving DecidableEq, Repr

namespace Syllable

def leads : Nat := 19
def vowels : Nat := 21
def tails : Nat := 28

def firstLead : Nat := 0x1100
def firstVowel : Nat := 0x1161
/-- One before the first tail, so that zero is no tail. -/
def noTail : Nat := 0x11A7
def firstSyllable : Nat := 0xAC00

def ofChar? (c : Char) : Option Syllable :=
  let n := c.toNat - firstSyllable
  if firstSyllable ≤ c.toNat && n < leads * vowels * tails then
    some ⟨n / (vowels * tails), n / tails % vowels, n % tails⟩
  else none

def toChar (s : Syllable) : Char :=
  Char.ofNat (firstSyllable + (s.lead * vowels + s.vowel) * tails + s.tail)

def parts (s : Syllable) : Text :=
  [Char.ofNat (firstLead + s.lead), Char.ofNat (firstVowel + s.vowel)] ++
    if s.tail = 0 then [] else [Char.ofNat (noTail + s.tail)]

/-- A lead joined with a vowel. -/
def ofLead? (a b : Char) : Option Syllable :=
  if firstLead ≤ a.toNat && a.toNat < firstLead + leads &&
      firstVowel ≤ b.toNat && b.toNat < firstVowel + vowels then
    some ⟨a.toNat - firstLead, b.toNat - firstVowel, 0⟩
  else none

/-- A syllable without a tail joined with one. -/
def withTail? (s : Syllable) (b : Char) : Option Syllable :=
  if s.tail = 0 && noTail < b.toNat && b.toNat < noTail + tails then
    some { s with tail := b.toNat - noTail }
  else none

def join? (a b : Char) : Option Syllable :=
  match ofChar? a with
  | some s => s.withTail? b
  | none => ofLead? a b

end Syllable

/-- What a character is composed of, in one step. -/
def parts (c : Char) : Text :=
  match Syllable.ofChar? c with
  | some s => s.parts
  | none => (CodeRange.get? composites c).getD [c]

/-- The character that two others compose. -/
def compose? (a b : Char) : Option Char :=
  match Syllable.join? a b with
  | some s => some s.toChar
  | none => (composites.find? (·.value == [a, b])).map fun row => Char.ofNat row.first

/-- Takes every character apart. No character needs more than four steps. -/
def decompose (t : Text) : Text := Nat.repeat (fun t => t.flatMap parts) 4 t

/-- Puts a mark behind those of lower classes that precede it in the order. -/
def insertMark (c : Char) : Text → Text
  | [] => [c]
  | d :: t =>
    if 0 < combiningClass d && combiningClass d < combiningClass c then d :: insertMark c t
    else c :: d :: t

/-- Sorts the marks of each character by their classes and keeps equal ones in place. -/
def orderMarks (t : Text) : Text := t.foldr insertMark []

/-- Composes what follows with the character `base`; `kept` holds, backwards, the marks of `base`
that were not composed. A mark reaches `base` past marks of lower classes only. -/
def composeFrom (base : Char) (kept : Text) : Text → Text
  | [] => base :: kept.reverse
  | c :: t =>
    let reaches := kept.head?.all fun d => combiningClass d < combiningClass c
    match if reaches then compose? base c else none with
    | some whole => composeFrom whole kept t
    | none =>
      if combiningClass c = 0 then base :: kept.reverse ++ composeFrom c [] t
      else composeFrom base (c :: kept) t

/-- Composes a text. Marks at its start have nothing to be composed with. -/
def compose : Text → Text
  | [] => []
  | c :: t => if combiningClass c = 0 then composeFrom c [] t else c :: compose t

/-- The composed normal form of a text. -/
def normalize (t : Text) : Text := compose (orderMarks (decompose t))

end Unicode

end CustomProps
