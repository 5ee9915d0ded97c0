import CustomProps.Text.Utf8

/-!
Base64 with the standard alphabet. Three bytes are four digits of six bits; a shorter group at the
end is filled up with the padding sign.
-/

namespace CustomProps

namespace Base64

def alphabet : Text :=
  "ABCDEFGHIJKLMNOPQRSTUVWXYZabcdefghijklmnopqrstuvwxyz0123456789+/".toList

def padding : Char := '='

/-- The digit of the six bits that stand above the lowest `places` groups of six. -/
def digit (group places : Nat) : Char := alphabet.getD (group / Nat.pow 64 places % 64) padding

def encode : Bytes → Text
  | [] => []
  | [a] =>
    let group := a.toNat * 65536
    [digit group 3, digit group 2, padding, padding]
  | [a, b] =>
    let group := a.toNat * 65536 + b.toNat * 256
    [digit group 3, digit group 2, digit group 1, padding]
  | a :: b :: c :: rest =>
    let group := a.toNat * 65536 + b.toNat * 256 + c.toNat
    digit group 3 :: digit group 2 :: digit group 1 :: digit group 0 :: encode rest

end Base64

end CustomProps
