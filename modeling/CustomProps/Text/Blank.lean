import CustomProps.Text.Basic

/-!
Blank characters are those with the Unicode property `White_Space`. Trimming removes them from the
ends of a text.
-/

namespace CustomProps

/-- Code points with the property `White_Space`, as closed intervals. -/
def blankIntervals : List (Nat × Nat) :=
  [(0x09, 0x0D), (0x20, 0x20), (0x85, 0x85), (0xA0, 0xA0), (0x1680, 0x1680), (0x2000, 0x200A),
    (0x2028, 0x2029), (0x202F, 0x202F), (0x205F, 0x205F), (0x3000, 0x3000)]

def isBlank (c : Char) : Bool :=
  blankIntervals.any fun (low, high) => low ≤ c.toNat && c.toNat ≤ high

namespace Text

def trimStart (t : Text) : Text := t.dropWhile isBlank

def trimEnd (t : Text) : Text := (t.reverse.dropWhile isBlank).reverse

def trim (t : Text) : Text := trimEnd (trimStart t)

/-- The nonempty pieces between blanks. -/
def words (t : Text) : List Text :=
  go t []
where
  /-- The second text is the piece being read, backwards. -/
  go : Text → Text → List Text
    | [], current => if current.isEmpty then [] else [current.reverse]
    | c :: t, current =>
      if isBlank c then
        if current.isEmpty then go t [] else current.reverse :: go t []
      else go t (c :: current)

end Text

end CustomProps
