import CustomProps.Text.Basic

/-!
Numbers as they are written in colour values: an optional sign, then digits with an optional point,
then an optional exponent; or one of the names of infinity and of no number. A numeral stands for an
exact value, which is rounded once to the nearest number of either precision.
-/

namespace CustomProps

/-- A finite number is its mantissa times ten to its exponent, with its sign. -/
inductive Numeral where
  | finite (negative : Bool) (mantissa : Nat) (exponent : Int)
  | infinite (negative : Bool)
  | notANumber
  deriving DecidableEq, Repr

namespace Numeral

def natOf (ds : Text) : Nat := ds.foldl (fun n d => 10 * n + (d.toNat - '0'.toNat)) 0

/-- A leading sign, true for a minus, and what follows it. -/
def sign : Text → Bool × Text
  | '-' :: t => (true, t)
  | '+' :: t => (false, t)
  | t => (false, t)

/-- The exponent that the rest of a numeral spells. -/
def exponent? : Text → Option Int
  | [] => some 0
  | e :: t =>
    let (negative, ds) := sign t
    if (e == 'e' || e == 'E') && !ds.isEmpty && ds.all Char.isDigit then
      some (if negative then -(natOf ds : Int) else natOf ds)
    else none

def decimal? (negative : Bool) (t : Text) : Option Numeral := do
  let whole := t.takeWhile Char.isDigit
  let (fraction, rest) := match t.dropWhile Char.isDigit with
    | '.' :: t => (t.takeWhile Char.isDigit, t.dropWhile Char.isDigit)
    | t => ([], t)
  if whole.isEmpty && fraction.isEmpty then none
  else
    let e ← exponent? rest
    return .finite negative (natOf (whole ++ fraction)) (e - fraction.length)

def parse? (t : Text) : Option Numeral :=
  let (negative, body) := sign t
  let name := body.map Char.toLower
  if name == "inf".toList || name == "infinity".toList then some (.infinite negative)
  else if name == "nan".toList then some .notANumber
  else decimal? negative body

/-- Decimal places beyond which a number is infinite, or zero, in either precision. -/
def farPlaces : Int := 400

/-- The magnitude of a numeral given how its parts are rounded. -/
def magnitude (ofScientific : Nat → Bool → Nat → α) (zero infinity : α) (mantissa : Nat)
    (exponent : Int) : α :=
  let places : Int := (Nat.toDigits 10 mantissa).length + exponent
  if mantissa = 0 || places < -farPlaces then zero
  else if farPlaces < places then infinity
  else ofScientific mantissa (exponent < 0) exponent.natAbs

def toFloat : Numeral → Float
  | .finite negative m e =>
    let x := magnitude Float.ofScientific 0.0 (1.0 / 0.0) m e
    if negative then -x else x
  | .infinite negative => if negative then -1.0 / 0.0 else 1.0 / 0.0
  | .notANumber => 0.0 / 0.0

def toFloat32 : Numeral → Float32
  | .finite negative m e =>
    let x := magnitude Float32.ofScientific 0.0 (1.0 / 0.0) m e
    if negative then -x else x
  | .infinite negative => if negative then -1.0 / 0.0 else 1.0 / 0.0
  | .notANumber => 0.0 / 0.0

end Numeral

/-- The remainder of a division by a positive whole number that rounds toward zero; it has the sign
of `x` and is exact. -/
def remainder (x : Float) (n : Nat) : Float :=
  if x.isNaN || x.isInf then 0.0 / 0.0
  else
    let bits := x.toBits.toNat
    let hidden := Nat.pow 2 52
    let biased : Nat := bits / hidden % 2048
    let mantissa : Nat := bits % hidden + (if biased = 0 then 0 else hidden)
    let exponent : Int := (max biased 1 : Nat) - 1075
    let scale := Nat.pow 2 exponent.natAbs
    let rest :=
      if 0 ≤ exponent then Float.ofNat (mantissa * scale % n)
      else (Float.ofNat (mantissa % (n * scale))).scaleB exponent
    if x.toBits < 0x8000000000000000 then rest else -rest

end CustomProps
