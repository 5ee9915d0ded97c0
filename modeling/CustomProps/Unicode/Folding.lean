import CustomProps.Unicode.FoldingTable

/-!
Folding of characters, so that names that differ only in case or in compatibility forms become the
same name. ASCII characters lose their case and nothing else; the tables cover the rest.
-/

namespace CustomProps

namespace Unicode

/-- The image of a character; `none` for a character that no name may hold. -/
def fold? (c : Char) : Option Text :=
  if c.toNat < 0x80 then some [c.toLower]
  else if CodeRange.mem refused c then none
  else match CodeRange.row? foldings c with
    | none => some [c]
    | some row => some (row.value.map fun d => Char.ofNat (d.toNat + (c.toNat - row.first)))

/-- The folded text, if every character can be folded. -/
def foldText? (t : Text) : Option Text := (t.mapM fold?).map List.flatten

/-- Whether folding keeps a character as it is. -/
def isFolded (c : Char) : Bool := fold? c == some [c]

end Unicode

end CustomProps
