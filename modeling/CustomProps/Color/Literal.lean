import CustomProps.Color.Function
import CustomProps.Token

/-!
Which values are colours. A value with a number sign is read as hexadecimal digits; `rgb` functions
with commas are read in single precision, and everything else that starts with a letter and is not
made of hexadecimal digits alone is read as a keyword or function.
-/

namespace CustomProps

namespace Color

/-- Lower case as far as it matters for colours: of the characters outside ASCII, the Kelvin sign
alone has an ASCII letter as its lower case, and no colour holds any of the others. -/
def lowerChar (c : Char) : Char := if c == Char.ofNat 0x212A then 'k' else c.toLower

def lower (t : Text) : Text := t.map lowerChar

/-- A channel of two hexadecimal digits. -/
def channel? (c d : Char) : Option Float32 := (Hex.nat? [c, d]).map ofByte

/-- The colour of 3, 4, 6 or 8 hexadecimal digits; in the short forms each digit counts twice, and
without alpha the colour is solid. -/
def ofHex? : Text → Option Color
  | [r, g, b] => do return ⟨← channel? r r, ← channel? g g, ← channel? b b, 1.0⟩
  | [r, g, b, a] => do
    return ⟨← channel? r r, ← channel? g g, ← channel? b b, ← channel? a a⟩
  | [r, r', g, g', b, b'] => do
    return ⟨← channel? r r', ← channel? g g', ← channel? b b', 1.0⟩
  | [r, r', g, g', b, b', a, a'] => do
    return ⟨← channel? r r', ← channel? g g', ← channel? b b', ← channel? a a'⟩
  | _ => none

def number? (t : Text) : Option Float32 := (Numeral.parse? t).map Numeral.toFloat32

/-- A percentage, or a number out of `whole`, as a share of one. -/
def share? (whole : Float32) (t : Text) : Option Float32 :=
  match Text.before? ['%'] t with
  | some t => (number? (Text.trim t)).map fun x => clamp32 (x / 100.0)
  | none => (number? t).map fun x => clamp32 (x / whole)

/-- An `rgb` or `rgba` function whose three or four arguments stand between commas. -/
def commaRgb? (t : Text) : Option Color := do
  let rest ← match Text.after? "rgba".toList t with
    | some rest => some rest
    | none => Text.after? "rgb".toList t
  let inner ← Text.before? [')'] (← Text.after? ['('] (Text.trimStart rest))
  match (Text.split ',' inner).map Text.trim with
  | [r, g, b] => return ⟨← share? 255.0 r, ← share? 255.0 g, ← share? 255.0 b, 1.0⟩
  | [r, g, b, a] =>
    return ⟨← share? 255.0 r, ← share? 255.0 g, ← share? 255.0 b, ← share? 1.0 a⟩
  | _ => none

/-- The colour of a trimmed value. -/
def ofTrimmed? (value : Text) : Option Color :=
  let t := lower value
  match Text.after? ['#'] t with
  | some digits => ofHex? (Text.trim digits)
  | none =>
    let general := (WideColor.parse? t).map WideColor.narrow
    if "rgb".toList.isPrefixOf t then
      match commaRgb? t with
      | some color => some color
      | none => general
    else
      match t with
      | [] => none
      | c :: _ => if !c.isAlpha || t.all Hex.isDigit then none else general

/-- The colour that a value stands for. -/
def parse (value : Text) : Except LookupError Color :=
  match ofTrimmed? (Text.trim value) with
  | some color => .ok color
  | none => .error (.notColor (Text.trim value))

def isColor (value : Text) : Bool := (ofTrimmed? (Text.trim value)).isSome

end Color

end CustomProps
