import CustomProps.Text.Utf8

/-!
A line counter turns byte offsets into line numbers. It remembers how far it has counted, so that
increasing offsets are counted once only; an offset before that place is counted afresh.
-/

namespace CustomProps

/-- The line number reached: that many line feeds stand in the first `counted` bytes. -/
structure LineCounter where
  counted : Nat
  line : Nat
  deriving DecidableEq, Repr

namespace LineCounter

def start : LineCounter := ⟨0, 0⟩

/-- Line feeds between two offsets. -/
def feeds (bs : Bytes) (start stop : Nat) : Nat := ((bs.drop start).take (stop - start)).count 0x0A

/-- The counter after it was asked for an offset; its `line` is the answer. An offset past the end
counts as the end. -/
def advance (bs : Bytes) (k : LineCounter) (offset : Nat) : LineCounter :=
  let offset := min offset bs.length
  if k.counted ≤ offset then ⟨offset, k.line + feeds bs k.counted offset⟩
  else ⟨offset, feeds bs 0 offset⟩

end LineCounter

end CustomProps
