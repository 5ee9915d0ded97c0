import CustomProps.Text.Basic

/-!
UTF-8 on byte lists. A character is read from its first byte and the continuation bytes that this
first byte admits; reading stops at the first byte that no character could have there. The strict
reader refuses such bytes, and the lenient one puts the replacement character for them.
-/

namespace CustomProps

abbrev Bytes := List UInt8

namespace Text

def utf8 (t : Text) : Bytes := t.flatMap String.utf8EncodeChar

end Text

namespace Bytes

/-- Continuation bytes owed after a first byte, and the bounds of the first of them. -/
def owed (b : UInt8) : Option (Nat × UInt8 × UInt8) :=
  if b < 0x80 then some (0, 0x80, 0xBF)
  else if 0xC2 ≤ b && b ≤ 0xDF then some (1, 0x80, 0xBF)
  else if b == 0xE0 then some (2, 0xA0, 0xBF)
  else if b == 0xED then some (2, 0x80, 0x9F)
  else if 0xE1 ≤ b && b ≤ 0xEF then some (2, 0x80, 0xBF)
  else if b == 0xF0 then some (3, 0x90, 0xBF)
  else if 0xF1 ≤ b && b ≤ 0xF3 then some (3, 0x80, 0xBF)
  else if b == 0xF4 then some (3, 0x80, 0x8F)
  else none

/-- The bits that a first byte owing `n` continuation bytes gives to its character. -/
def leadBits (n : Nat) (b : UInt8) : Nat :=
  match n with
  | 0 => b.toNat
  | 1 => b.toNat % 0x20
  | 2 => b.toNat % 0x10
  | _ => b.toNat % 0x08

/-- Reads `n` continuation bytes, the first within the given bounds, onto the bits read so far.
The count is that of the bytes that could belong to the character. -/
def continuation : Nat → UInt8 → UInt8 → Nat → Bytes → Option Char × Nat
  | 0, _, _, bits, _ => (some (Char.ofNat bits), 0)
  | _ + 1, _, _, _, [] => (none, 0)
  | n + 1, low, high, bits, b :: bs =>
    if low ≤ b && b ≤ high then
      let (c, used) := continuation n 0x80 0xBF (bits * 0x40 + b.toNat % 0x40) bs
      (c, used + 1)
    else (none, 0)

/-- The character that starts with byte `b`, if `bs` goes on as it must, and how many bytes of `bs`
belong to it or to its broken beginning. -/
def readChar (b : UInt8) (bs : Bytes) : Option Char × Nat :=
  match owed b with
  | none => (none, 0)
  | some (n, low, high) => continuation n low high (leadBits n b) bs

/-- The characters of a byte list, `none` for each broken sequence. -/
def chars : Bytes → List (Option Char)
  | [] => []
  | b :: bs => (readChar b bs).1 :: chars (bs.drop (readChar b bs).2)
termination_by bs => bs.length
decreasing_by simp only [List.length_drop, List.length_cons]; omega

/-- The text of a byte list that is UTF-8 throughout. -/
def decode? (bs : Bytes) : Option Text := (chars bs).mapM id

/-- The text of any byte list, with U+FFFD for each broken sequence. -/
def decodeLossy (bs : Bytes) : Text := (chars bs).map (·.getD (Char.ofNat 0xFFFD))

/-- Byte order, a beginning before what extends it. -/
def le : Bytes → Bytes → Bool
  | [], _ => true
  | _ :: _, [] => false
  | a :: as, b :: bs => a < b || (a == b && le as bs)

end Bytes

end CustomProps
