import CustomProps.Domain.Name
import CustomProps.Uri.Address
import CustomProps.Uri.Basic

/-!
Hosts. In brackets stands an address of eight words. The host of a well-known scheme is a domain
name in any script, which may be percent-encoded, or an address of four bytes; the host of any other
scheme is kept as it is spelled.
-/

namespace CustomProps

namespace Uri

/-- Characters that no host holds as they are. -/
def notInHost (c : Char) : Bool :=
  ['\x00', '\t', '\n', '\r', ' ', '#', '/', ':', '<', '>', '?', '@', '[', '\\', ']', '^',
    '|'].contains c

/-- Characters that no domain name holds. -/
def notInDomain (c : Char) : Bool := notInHost c || c.toNat ≤ 0x20 || c.toNat == 0x7F || c == '%'

/-- An address of eight words, given with its brackets. -/
def bracketed? (t : Text) : Option Text := do
  let inner ← Text.before? [']'] (t.drop 1)
  return ['['] ++ Address.ofWords (← Address.words? inner) ++ [']']

/-- A host of a scheme that is not well known. -/
def opaqueHost? (t : Text) : Option Text :=
  if t.head? == some '[' then bracketed? t
  else if t.any notInHost then none
  else some (Percent.encode (fun _ => false) t)

/-- A host of a well-known scheme. -/
def domainHost? (t : Text) : Option Text :=
  if t.head? == some '[' then bracketed? t
  else do
    let name ← Domain.toAscii? (← Bytes.decode? (Percent.decode t))
    if name.isEmpty || name.any notInDomain then none
    else if Address.endsInNumber name then (Address.bytes? name).map Address.ofBytes
    else some name

def host? (special : Bool) (t : Text) : Option Text :=
  if special then domainHost? t else opaqueHost? t

end Uri

end CustomProps
