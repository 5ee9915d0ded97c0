import CustomProps.Json.Basic
import CustomProps.Text.Hex

/-!
Writing JSON text without blanks. Quotes, backslashes and control characters are escaped, all else
is written as it is.
-/

namespace CustomProps

namespace Json

def escapeChar (c : Char) : Text :=
  if c == '"' then ['\\', '"']
  else if c == '\\' then ['\\', '\\']
  else if c == '\n' then ['\\', 'n']
  else if c == '\r' then ['\\', 'r']
  else if c == '\t' then ['\\', 't']
  else if c.toNat < 0x20 then
    ['\\', 'u', '0', '0', Hex.lower (c.toNat / 16), Hex.lower (c.toNat % 16)]
  else [c]

def printString (t : Text) : Text := '"' :: t.flatMap escapeChar ++ ['"']

def printInt (n : Int) : Text :=
  match n with
  | .ofNat n => Text.ofNat n
  | .negSucc n => '-' :: Text.ofNat (n + 1)

mutual

def print : Json → Text
  | .null => "null".toList
  | .bool true => "true".toList
  | .bool false => "false".toList
  | .int n => printInt n
  | .decimal spelling => spelling
  | .str t => printString t
  | .arr items => '[' :: printItems items ++ [']']
  | .obj fields => '\x7b' :: printFields fields ++ ['\x7d']

def printItems : List Json → Text
  | [] => []
  | [j] => print j
  | j :: js => print j ++ ',' :: printItems js

def printFields : List (Text × Json) → Text
  | [] => []
  | [(k, v)] => printString k ++ ':' :: print v
  | (k, v) :: fields => printString k ++ ':' :: print v ++ ',' :: printFields fields

end

end Json

end CustomProps
