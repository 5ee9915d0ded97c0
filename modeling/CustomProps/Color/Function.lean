import CustomProps.Color.Basic
import CustomProps.Color.Keyword
import CustomProps.Color.Numeral
import CustomProps.Text.Blank
import CustomProps.Text.Hex

/-!
Colours written as keywords, as functions with any separators, or as bare hexadecimal digits. They
are computed in double precision and rounded once at the end.
-/

namespace CustomProps

/-- Channels in double precision. -/
structure WideColor where
  red : Float
  green : Float
  blue : Float
  alpha : Float

namespace WideColor

def narrow (c : WideColor) : Color :=
  ⟨c.red.toFloat32, c.green.toFloat32, c.blue.toFloat32, c.alpha.toFloat32⟩

/-- Keeps a number in the range from zero to one; what is not a number stays. -/
def clamp (x : Float) : Float := if x < 0.0 then 0.0 else if 1.0 < x then 1.0 else x

def ofBytes (red green blue alpha : Nat) : WideColor :=
  let share (n : Nat) : Float := Float.ofNat n / 255.0
  ⟨share red, share green, share blue, share alpha⟩

/-! Hue, saturation and lightness. -/

/-- The angle in degrees, brought into the range from 0 to 360. -/
def turned (degrees : Float) : Float :=
  let t := remainder degrees 360
  if t < 0.0 then t + 360.0 else t

/-- One channel between the levels `low` and `high`, at `x` sixths of the hue circle. -/
def hueLevel (low high x : Float) : Float :=
  let x := remainder (remainder x 6 + 6.0) 6
  if x < 1.0 then low + (high - low) * x
  else if x < 3.0 then high
  else if x < 4.0 then low + (high - low) * (4.0 - x)
  else low

/-- Red, green and blue of a hue in degrees, a saturation and a lightness. -/
def ofHue (hue saturation lightness : Float) : Float × Float × Float :=
  if saturation == 0.0 then (lightness, lightness, lightness)
  else
    let high :=
      if lightness < 0.5 then lightness * (1.0 + saturation)
      else lightness + saturation - lightness * saturation
    let low := 2.0 * lightness - high
    let h := hue / 60.0
    (hueLevel low high (h + 2.0), hueLevel low high h, hueLevel low high (h - 2.0))

def ofChannels (channels : Float × Float × Float) (alpha : Float) : WideColor :=
  ⟨clamp channels.1, clamp channels.2.1, clamp channels.2.2, alpha⟩

def hsl (hue saturation lightness alpha : Float) : WideColor :=
  ofChannels (ofHue (turned hue) (clamp saturation) (clamp lightness)) (clamp alpha)

/-- White and black mixed into a pure hue. The alpha is taken as it is written. -/
def hwb (hue white black alpha : Float) : WideColor :=
  let white := clamp white
  let black := clamp black
  if 1.0 ≤ white + black then
    let grey := white / (white + black)
    ofChannels (grey, grey, grey) alpha
  else
    let (r, g, b) := ofHue (turned hue) 1.0 0.5
    let mix (c : Float) : Float := c * (1.0 - white - black) + white
    ofChannels (mix r, mix g, mix b) alpha

/-- Hue, saturation and value, by way of the lightness. -/
def hsv (hue saturation value alpha : Float) : WideColor :=
  let s := clamp saturation
  let v := clamp value
  let l := (2.0 - s) * v / 2.0
  let s :=
    if l == 0.0 then s
    else if l == 1.0 then 0.0
    else if l < 0.5 then s * v / (2.0 * l)
    else s * v / (2.0 - 2.0 * l)
  ofChannels (ofHue (turned hue) s l) (clamp alpha)

/-! Arguments. -/

/-- A number, and whether it was written as a percentage. -/
structure Argument where
  value : Float
  percent : Bool

/-- A plain number. -/
def number? (t : Text) : Option Float := (Numeral.parse? t).map Numeral.toFloat

/-- A percentage as a share of one, or a number divided by `whole`. -/
def argument? (whole : Float) (t : Text) : Option Argument :=
  match (Text.before? ['%'] t).bind number? with
  | some x => some ⟨x / 100.0, true⟩
  | none => (number? t).map fun x => ⟨x / whole, false⟩

def pi : Float := 3.14159265358979323846

/-- The units of angles, tried in this order, and how each turns into degrees. -/
def angleUnits : List (String × (Float → Float)) :=
  [("deg", id), ("grad", fun x => x * 360.0 / 400.0), ("rad", fun x => x * (180.0 / pi)),
    ("turn", fun x => x * 360.0), ("", id)]

def angle? (t : Text) : Option Float :=
  angleUnits.findSome? fun (unit, toDegrees) =>
    ((Text.before? unit.toList t).bind number?).map toDegrees

/-- The alpha of a function, one where none is written. -/
def alpha? : List Text → Option Float
  | [] => some 1.0
  | [a] => (argument? 1.0 a).map (·.value)
  | _ => none

def rgbFunction? (r g b : Text) (rest : List Text) : Option WideColor := do
  let r ← argument? 255.0 r
  let g ← argument? 255.0 g
  let b ← argument? 255.0 b
  let a ← alpha? rest
  if r.percent == g.percent && g.percent == b.percent then
    return ⟨clamp r.value, clamp g.value, clamp b.value, clamp a⟩
  else none

/-- A function of an angle and two shares. -/
def hueFunction? (make : Float → Float → Float → Float → WideColor) (h s l : Text)
    (rest : List Text) : Option WideColor := do
  let h ← angle? h
  let s ← argument? 1.0 s
  let l ← argument? 1.0 l
  let a ← alpha? rest
  if s.percent == l.percent then return make h s.value l.value a else none

/-- A colour function applied to its arguments. -/
def call? (name : Text) : List Text → Option WideColor
  | x :: y :: z :: rest =>
    match String.ofList name with
    | "rgb" | "rgba" => rgbFunction? x y z rest
    | "hsl" | "hsla" => hueFunction? hsl x y z rest
    | "hwb" | "hwba" => hueFunction? hwb x y z rest
    | "hsv" | "hsva" => hueFunction? hsv x y z rest
    | _ => none
  | _ => none

/-- The arguments between the parentheses: commas and slashes separate like blanks. -/
def arguments (t : Text) : List Text :=
  Text.words (t.map fun c => if c == ',' || c == '/' then ' ' else c)

/-- A byte of two hexadecimal digits; a plus sign may stand for the first. -/
def byte? : Char → Char → Option Nat
  | '+', d => Hex.value? d
  | c, d => Hex.nat? [c, d]

/-- Hexadecimal digits without a mark in front. -/
def bareHex? : Text → Option WideColor
  | [r, g, b] => do
    return ofBytes (17 * (← Hex.value? r)) (17 * (← Hex.value? g)) (17 * (← Hex.value? b)) 255
  | [r, g, b, a] => do
    return ofBytes (17 * (← Hex.value? r)) (17 * (← Hex.value? g)) (17 * (← Hex.value? b))
      (17 * (← Hex.value? a))
  | [r, r', g, g', b, b'] => do
    return ofBytes (← byte? r r') (← byte? g g') (← byte? b b') 255
  | [r, r', g, g', b, b', a, a'] => do
    return ofBytes (← byte? r r') (← byte? g g') (← byte? b b') (← byte? a a')
  | _ => none

/-- The colour of a trimmed text in lower case. -/
def parse? (t : Text) : Option WideColor :=
  if t == "transparent".toList then some ⟨0.0, 0.0, 0.0, 0.0⟩
  else match keywordBytes? t with
    | some n => some (ofBytes (n / 65536) (n / 256 % 256) (n % 256) 255)
    | none =>
      match t.find? ['('], Text.before? [')'] t with
      | some start, some front =>
        call? (Text.trimEnd (t.takeBytes start)) (arguments (front.dropBytes (start + 1)))
      | _, _ => bareHex? t

end WideColor

end CustomProps
