import CustomProps.Text.Basic

/-!
A colour has red, green, blue and alpha channels, which run from zero to one.
-/

namespace CustomProps

structure Color where
  red : Float32
  green : Float32
  blue : Float32
  alpha : Float32

namespace Color

/-- The share of a byte in the whole range. -/
def ofByte (n : Nat) : Float32 := Float32.ofNat n / 255.0

/-- Keeps a number in the range from zero to one; what is not a number stays. -/
def clamp32 (x : Float32) : Float32 := if x < 0.0 then 0.0 else if 1.0 < x then 1.0 else x

/-- How bright a colour looks. -/
def luminance (c : Color) : Float32 := 0.2126 * c.red + 0.7152 * c.green + 0.0722 * c.blue

end Color

end CustomProps
