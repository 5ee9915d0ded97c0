import CustomProps.Text.Basic

/-!
Hexadecimal digits in both cases.
-/

namespace CustomProps

namespace Hex

def value? (c : Char) : Option Nat :=
  if '0' ≤ c ∧ c ≤ '9' then some (c.toNat - '0'.toNat)
  else if 'a' ≤ c ∧ c ≤ 'f' then some (c.toNat - 'a'.toNat + 10)
  else if 'A' ≤ c ∧ c ≤ 'F' then some (c.toNat - 'A'.toNat + 10)
  else none

def isDigit (c : Char) : Bool := (value? c).isSome

/-- The number that digits spell, if all of them are digits. -/
def nat? (ds : Text) : Option Nat :=
  ds.foldlM (fun n d => (value? d).map (16 * n + ·)) 0

def upper (n : Nat) : Char := "0123456789ABCDEF".toList.getD n '0'
def lower (n : Nat) : Char := "0123456789abcdef".toList.getD n '0'

end Hex

end CustomProps
