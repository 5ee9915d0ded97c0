import CustomProps.Text.Hex
import CustomProps.Text.Utf8

/-!
A URI in its normal form: what is written after the scheme is kept as it is spelled, so that two
URIs are equal exactly when their texts are.
-/

namespace CustomProps

/-- Who serves a URI: user information with its `@`, the host, and the number after the host's colon
if that is not the usual one of the scheme. -/
structure Authority where
  user : Text
  host : Text
  portNumber : Option Nat
  deriving DecidableEq, Repr

structure Uri where
  scheme : Text
  authority : Option Authority
  path : Text
  query : Option Text
  fragment : Option Text
  deriving DecidableEq, Repr

namespace Authority

/-- Nobody in particular: a file on this machine. -/
def nobody : Authority := ⟨[], [], none⟩

def text (a : Authority) : Text :=
  a.user ++ a.host ++ (match a.portNumber with
    | some n => ':' :: Text.ofNat n
    | none => [])

end Authority

namespace Uri

/-- The URI as it is written. A path that starts with two slashes needs a mark when no authority
stands before it. -/
def text (u : Uri) : Text :=
  let head := match u.authority with
    | some a => ['/', '/'] ++ a.text
    | none => if ['/', '/'].isPrefixOf u.path then ['/', '.'] else []
  let tail (mark : Char) : Option Text → Text
    | some t => mark :: t
    | none => []
  u.scheme ++ [':'] ++ head ++ u.path ++ tail '?' u.query ++ tail '#' u.fragment

/-- Whether the path is a list of segments rather than free text. -/
def isHierarchical (u : Uri) : Bool := u.path.head? == some '/'

end Uri

/-! Percent coding of bytes. -/

namespace Percent

def encodeByte (b : UInt8) : Text := ['%', Hex.upper (b.toNat / 16), Hex.upper (b.toNat % 16)]

/-- The text with every character that `reserved` holds of, or that is not printable ASCII, written
as the bytes it has in UTF-8. -/
def encode (reserved : Char → Bool) (t : Text) : Text :=
  t.flatMap fun c =>
    if c.toNat < 0x20 || 0x7E < c.toNat || reserved c then
      (Text.utf8 [c]).flatMap encodeByte
    else [c]

/-- As `encode`, on bytes that need not be UTF-8. -/
def encodeBytes (reserved : Char → Bool) (bs : Bytes) : Text :=
  bs.flatMap fun b =>
    let c := Char.ofNat b.toNat
    if b < 0x20 || 0x7E < b || reserved c then encodeByte b else [c]

/-- The bytes that a text stands for; a percent sign without two digits stands for itself. -/
def decode : Text → Bytes
  | [] => []
  | '%' :: h :: l :: t =>
    match Hex.value? h, Hex.value? l with
    | some m, some n => UInt8.ofNat (16 * m + n) :: decode t
    | _, _ => Text.utf8 ['%'] ++ decode (h :: l :: t)
  | c :: t => Text.utf8 [c] ++ decode t

end Percent

end CustomProps
