import CustomProps.Declaration.Basic

/-!
The declarations written in a piece of text. One is written as two dashes, one or more name
characters, a colon, and a value that runs to the next semicolon or the end. The text is searched
from left to right, and the search goes on where the last match ended.
-/

namespace CustomProps

/-- A declaration as it is written: `offset` counts the bytes before its name in the piece searched,
`position` those in the whole text. -/
structure Match where
  name : Text
  rawValue : Text
  offset : Nat
  position : Nat
  deriving DecidableEq, Repr

namespace Match

/-- The position as it is told, in 64 bits. -/
def address (m : Match) : Nat := m.position % 0x10000000000000000

/-- Characters of a name: ASCII letters, digits and dashes, and the two characters whose case
variants are ASCII letters, the long s and the Kelvin sign. -/
def isNameChar (c : Char) : Bool :=
  c.isAlphanum || c == '-' || c == Char.ofNat 0x17F || c == Char.ofNat 0x212A

/-- The name that a text starts with, when a declaration stands there, and what follows its
colon. -/
def head? : Text → Option (Text × Text)
  | '-' :: '-' :: t =>
    match t.takeWhile isNameChar, t.dropWhile isNameChar with
    | c :: cs, ':' :: rest => some ('-' :: '-' :: c :: cs, rest)
    | _, _ => none
  | _ => none

theorem head?_length {t name rest : Text} (h : head? t = some (name, rest)) :
    rest.length < t.length := by
  unfold head? at h
  split at h
  · rename_i t
    split at h
    · rename_i c cs rest' h₁ h₂
      simp only [Option.some.injEq, Prod.mk.injEq] at h
      have h₃ : (t.dropWhile isNameChar).length ≤ t.length :=
        (List.dropWhile_sublist _).length_le
      rw [h₂] at h₃
      simp only [List.length_cons] at h₃ ⊢
      rw [← h.2]
      omega
    · exact absurd h (by simp)
  · exact absurd h (by simp)

def isValueChar (c : Char) : Bool := c != ';'

/-- The matches of a text whose first character stands at byte `offset` of the piece searched, which
itself starts at byte `start` of the whole text. -/
def scan (start : Nat) (offset : Nat) : Text → List Match
  | [] => []
  | c :: t =>
    match h : head? (c :: t) with
    | some (name, rest) =>
      let value := rest.takeWhile isValueChar
      ⟨name, value, offset, start + offset⟩ ::
        scan start (offset + Text.byteSize name + 1 + Text.byteSize value)
          (rest.dropWhile isValueChar)
    | none => scan start (offset + c.utf8Size) t
termination_by t => t.length
decreasing_by
  · have h₁ := head?_length h
    have h₂ : (rest.dropWhile isValueChar).length ≤ rest.length :=
      (List.dropWhile_sublist _).length_le
    omega
  · exact Nat.lt_succ_self _

end Match

/-- The declarations written in a piece of text that starts at byte `start` of the whole text. -/
def Text.matches (content : Text) (start : Nat) : List Match := Match.scan start 0 content

end CustomProps
