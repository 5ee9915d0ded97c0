import CustomProps.Color.Literal
import CustomProps.Swatch.Base64

/-!
A swatch is a small picture of a colour with its value written on it, given as an image that holds
its own data. Values that are not colours are shown as they are.
-/

namespace CustomProps

namespace Swatch

/-- The five characters that markup must not hold as they are. -/
def escapeChar (c : Char) : Text :=
  match c with
  | '&' => "&amp;".toList
  | '<' => "&lt;".toList
  | '>' => "&gt;".toList
  | '"' => "&quot;".toList
  | '\'' => "&apos;".toList
  | c => [c]

def escape (t : Text) : Text := t.flatMap escapeChar

/-- The label is black on bright or mostly transparent colours and white on all others. -/
def labelFill (color : Color) : Text :=
  if 0.5 < color.luminance || color.alpha < 0.5 then "#000000".toList else "#ffffff".toList

/-- The picture of a colour whose value is already escaped. -/
def svg (fill label : Text) : Text :=
  "<?xml version=\"1.0\" encoding=\"utf-8\"?>\n".toList
    ++ ("<svg version=\"1.1\" xmlns=\"http://www.w3.org/2000/svg\" " ++
      "width=\"200\" height=\"100\">\n").toList
    ++ "  <rect x=\"0\" y=\"0\" rx=\"5\" ry=\"5\" width=\"200\" height=\"100\" fill=\"".toList
    ++ fill
    ++ ("\"/>\n  <text x=\"50%\" y=\"50%\" dominant-baseline=\"middle\" " ++
      "text-anchor=\"middle\" fill=\"").toList
    ++ label
    ++ "\">".toList
    ++ fill
    ++ "</text>\n</svg>\n".toList

/-- An image link that holds its picture. -/
def image (picture : Text) : Text :=
  "![](data:image/svg+xml;base64,".toList ++ Base64.encode picture.utf8 ++ [')']

/-- The swatch of a colour value, and any other value as it is. -/
def render (value : Text) : Text :=
  match Color.ofTrimmed? (Text.trim value) with
  | some color => image (svg (escape (Text.trim value)) (labelFill color))
  | none => value

/-- How a value is shown, with or without swatches. -/
def preview (value : Text) (enabled : Bool) : Text := if enabled then render value else value

end Swatch

end CustomProps
