import CustomProps.Domain.Punycode
import CustomProps.Unicode.Composition
import CustomProps.Unicode.Direction
import CustomProps.Unicode.Folding
import CustomProps.Unicode.Joining
import CustomProps.Unicode.Mark

/-!
Labels are the parts of a domain name between points. A label is folded and normal, starts with no
mark, and holds invisible joiners only where they change how a letter is written. A label that
starts with `xn--` is read as the label in other characters that it stands for. In a name that is
written from right to left somewhere, each label keeps to one direction.
-/

namespace CustomProps

open Unicode

namespace Label

def nonJoiner : Char := Char.ofNat 0x200C
def joiner : Char := Char.ofNat 0x200D

/-- The class of marks that suppress the vowel of the letter before them. -/
def viramaClass : Nat := 9

/-- Whether the nearest letter is joined in one of the given ways. -/
def joins (ways : List Joining) (t : Text) : Bool :=
  match (t.map joining?).dropWhile (· == some .transparent) with
  | some way :: _ => ways.contains way
  | _ => false

/-- Whether a joiner may stand between what precedes it, given backwards, and what follows. -/
def joinerFits (c : Char) (before after : Text) : Bool :=
  before.head?.any (combiningClass · == viramaClass) ||
    (c == nonJoiner && joins [.after, .both] before && joins [.before, .both] after)

/-- Whether every joiner may stand where it stands; the first text precedes, backwards. -/
def joinersFit : Text → Text → Bool
  | _, [] => true
  | before, c :: t =>
    (!(c == nonJoiner || c == joiner) || joinerFits c before t) && joinersFit (c :: before) t

/-- Whether a folded and normal label may stand in a name. -/
def isValid (label : Text) : Bool := !label.head?.any isMark && joinersFit [] label

/-- What precedes the numbers of a label in ASCII. -/
def mark : Text := "xn--".toList

/-- The longest labels that are read and written. -/
def readLimit : Nat := 2000
def writeLimit : Nat := 1000

/-- Reads a label in ASCII without its mark. It has to stand for one that needs it. -/
def unmarked? (t : Text) : Option Text := do
  let label ← if t.length ≤ readLimit then Punycode.decode? t else none
  if label.all Punycode.isBasic || !label.all isFolded || normalize label != label then none
  else some label

/-- Reads a folded and normal label. -/
def read? (t : Text) : Option Text := do
  let label ← match Text.after? mark t with
    | some rest => unmarked? rest
    | none => some t
  if isValid label then some label else none

/-- The label in ASCII. -/
def toAscii? (label : Text) : Option Text :=
  if label.all Punycode.isBasic then some label
  else if label.length ≤ writeLimit then some (mark ++ Punycode.encode label)
  else none

/-- Whether a name with this label is written from right to left somewhere. -/
def isRightToLeft (label : Text) : Bool :=
  label.any fun c => [.rightToLeft, .arabicLetter, .arabicNumber].contains (direction c)

/-- Whether all classes are among the first and the last of them, marks apart, among the second. -/
def keepsTo (within last : List Direction) (classes : List Direction) : Bool :=
  classes.all within.contains &&
    (classes.reverse.dropWhile (· == .mark)).head?.any last.contains

/-- Whether a label keeps to one direction. -/
def isDirected (label : Text) : Bool :=
  let classes := label.map direction
  match classes with
  | [] => true
  | .leftToRight :: _ =>
    keepsTo [.leftToRight, .number, .numberSign, .separator, .terminator, .neutral, .boundary,
      .mark] [.leftToRight, .number] classes
  | .rightToLeft :: _ | .arabicLetter :: _ =>
    keepsTo [.rightToLeft, .arabicLetter, .arabicNumber, .number, .numberSign, .separator,
      .terminator, .neutral, .boundary, .mark]
      [.rightToLeft, .arabicLetter, .number, .arabicNumber] classes &&
    !(classes.contains .number && classes.contains .arabicNumber)
  | _ => false

end Label

end CustomProps
