import CustomProps.Uri.Host

/-!
Reading a URI. The scheme and the host are put in lower case, `.` and `..` segments are resolved,
and characters that may not stand in a part are percent-encoded. The well-known schemes have a
list of segments after an authority, and there a backslash counts as a slash; a `file` URI drops
the host `localhost` and needs none. A drive, a letter with a colon or bar, is not taken off a path
by `..`; right after the first slash of a `file` path it is written with a colon and stands without
a host.
-/

namespace CustomProps

namespace Uri

def isSpecial (scheme : Text) : Bool :=
  ["http", "https", "ws", "wss", "ftp", "file"].any (·.toList == scheme)

def usualPortNumber (scheme : Text) : Option Nat :=
  if scheme == "http".toList || scheme == "ws".toList then some 80
  else if scheme == "https".toList || scheme == "wss".toList then some 443
  else if scheme == "ftp".toList then some 21
  else none

/-! Characters that each part encodes, beside those that are not printable ASCII. -/

def inFragment (c : Char) : Bool := [' ', '"', '<', '>', '\x60'].contains c
def inPath (c : Char) : Bool := inFragment c || ['#', '?', '\x7b', '\x7d'].contains c
def inSegment (c : Char) : Bool := inPath c || ['/', '%', '\\'].contains c
def inUser (c : Char) : Bool :=
  inPath c || ['/', ':', ';', '=', '@', '[', '\\', ']', '^', '|'].contains c
def inQuery (special : Bool) (c : Char) : Bool :=
  [' ', '"', '#', '<', '>'].contains c || (special && c == '\'')
def inFreePath (_ : Char) : Bool := false

def lower (t : Text) : Text := t.map Char.toLower

/-- The text before the first character that `p` holds of, and the text from there on. -/
def cutAt (p : Char → Bool) (t : Text) : Text × Text :=
  (t.takeWhile (!p ·), t.dropWhile (!p ·))

/-- Control characters and spaces at the ends, and tabs and line ends everywhere, are not part of a
URI. -/
def clean (t : Text) : Text :=
  let outer (c : Char) : Bool := c.toNat ≤ 0x20
  let t := (t.dropWhile outer).reverse.dropWhile outer
  t.reverse.filter fun c => c != '\t' && c != '\n' && c != '\r'

/-- The scheme in lower case, and what follows its colon. -/
def scheme? (t : Text) : Option (Text × Text) :=
  let (scheme, rest) := cutAt (· == ':') t
  match scheme, rest with
  | c :: cs, _ :: rest =>
    if c.isAlpha && cs.all (fun c => c.isAlphanum || c == '+' || c == '-' || c == '.') then
      some (lower scheme, rest)
    else none
  | _, _ => none

inductive Dots where
  | one
  | two
  deriving DecidableEq, Repr

/-- A segment of one or two points, each of which may be percent-encoded. -/
def dots? (segment : Text) : Option Dots :=
  let s := lower segment
  if ["." , "%2e"].any (·.toList == s) then some .one
  else if ["..", ".%2e", "%2e.", "%2e%2e"].any (·.toList == s) then some .two
  else none

/-- A letter and a colon or bar, as drives are written. -/
def isDrive : Text → Bool
  | [c, d] => c.isAlpha && (d == ':' || d == '|')
  | _ => false

/-- Whether a segment starts with a drive that is a part of its own. -/
def startsWithDrive : Text → Bool
  | c :: d :: rest => isDrive [c, d] && (rest.isEmpty || rest.head? == some '\\')
  | _ => false

/-- A path without its last segment. The slash at its end goes first, unless it is the first slash
or closes a drive. -/
def shorten (path : Text) : Text :=
  let opened := (path.reverse.drop 1).dropWhile (· != '/')
  let last := (path.dropLast).drop opened.length
  if opened.isEmpty || startsWithDrive last then path else opened.reverse

/-- Adds segments to a path that ends in a slash. `.` leaves the path as it is and `..` shortens it.
The drive that a `file` path starts with is written with a colon, which is told beside the path. -/
def resolve (file : Bool) (path : Text) : List Text → Text × Bool
  | [] => (path, false)
  | segment :: rest =>
    match dots? segment with
    | some .one => resolve file path rest
    | some .two => resolve file (shorten path) rest
    | none =>
      let drive := file && path == ['/'] && isDrive segment
      let segment := if drive then segment.take 1 ++ [':'] else segment
      let path := path ++ segment
      let (path, later) := resolve file (if rest.isEmpty then path else path ++ ['/']) rest
      (path, drive || later)

/-- A `file` path starts with one slash only. -/
def oneSlash (file : Bool) (path : Text) : Text :=
  if file then '/' :: path.dropWhile (· == '/') else path

/-- The pieces of a hierarchical path, at slashes and, in a special URI, backslashes. -/
def segments (special : Bool) (t : Text) : List Text :=
  Text.split '/' (if special then t.map fun c => if c == '\\' then '/' else c else t)

/-- A path that is written after its leading slash, and whether it starts with a drive. -/
def readPath (scheme : Text) (t : Text) : Text × Bool :=
  let file := scheme == "file".toList
  let encoded := (segments (isSpecial scheme) t).map (Percent.encode inPath)
  let (path, drive) := resolve file ['/'] encoded
  (oneSlash file path, drive)

/-- The number after a host's colon, below 65536, or nothing where none is written. -/
def portNumber? : Text → Option (Option Nat)
  | [] => some none
  | digits =>
    if digits.all Char.isDigit then
      let n := digits.foldl (fun n d => 10 * n + (d.toNat - '0'.toNat)) 0
      if n < 65536 then some (some n) else none
    else none

/-- User information before the last `@`, without its empty parts. -/
def user (t : Text) : Text :=
  let (name, password) := cutAt (· == ':') t
  let name := Percent.encode inUser name
  let password := Percent.encode inUser (password.drop 1)
  let both := if password.isEmpty then name else name ++ ':' :: password
  if both.isEmpty then [] else both ++ ['@']

/-- The host part of an authority before the colon of its number, which is not a colon in brackets,
and the text from there on. -/
def cutHost (inBrackets : Bool) : Text → Text × Text
  | [] => ([], [])
  | c :: t =>
    if c == ':' && !inBrackets then ([], c :: t)
    else
      let (host, rest) := cutHost (c == '[' || (c != ']' && inBrackets)) t
      (c :: host, rest)

/-- The authority written between the slashes and the path, and what is left of it as a part of the
path: a backslash ends a host's number also where it is not a slash. A lone `@` must be the end of
the URI. -/
def authority? (scheme : Text) (t : Text) (isLast : Bool) : Option (Authority × Text) := do
  let special := isSpecial scheme
  let hostPart := Text.trailing (· != '@') t
  let userPart := user (t.take (t.length - hostPart.length - 1))
  let (name, rest) := cutHost false hostPart
  let (digits, left) := cutAt (· == '\\') (rest.drop 1)
  let host ← host? special name
  let portNumber ← portNumber? digits
  if host.isEmpty && (!userPart.isEmpty || !rest.isEmpty || (t == ['@'] && !isLast)) then none
  else
    let portNumber := if portNumber == usualPortNumber scheme then none else portNumber
    some (⟨userPart, host, portNumber⟩, left)

/-- The host of a `file` URI, nothing where there is none. -/
def fileHost? (t : Text) : Option Text :=
  if t.isEmpty then some []
  else (host? true t).map fun host => if host == "localhost".toList then [] else host

/-- Reads what stands between `file:` and the query. -/
def readFile (body : Text) : Option (Option Authority × Text) :=
  let file := "file".toList
  let isSlash (c : Char) : Bool := c == '/' || c == '\\'
  let alone (t : Text) : Option Authority × Text := (some .nobody, (readPath file t).1)
  match body with
  | [] => some (alone [])
  | a :: t =>
    if !isSlash a then some (alone body)
    else match t with
      | [] => some (alone [])
      | b :: rest =>
        if !isSlash b then some (alone t)
        else
          let (name, path) := cutAt isSlash rest
          if isDrive name then some (alone rest)
          else (fileHost? name).map fun host =>
            if host.isEmpty then alone path
            else
              let (path, drive) := readPath file (path.drop 1)
              (some (if drive then .nobody else ⟨[], host, none⟩), path)

/-- Reads what stands between the scheme and the query. -/
def readBody (scheme body : Text) (isLast : Bool) : Option (Option Authority × Text) :=
  if scheme == "file".toList then readFile body
  else if isSpecial scheme then
    let isSlash (c : Char) : Bool := c == '/' || c == '\\'
    let (name, path) := cutAt isSlash (body.dropWhile isSlash)
    (authority? scheme name false).map fun (a, _) => (some a, (readPath scheme (path.drop 1)).1)
  else
    match body with
    | '/' :: '/' :: rest =>
      let (name, path) := cutAt (· == '/') rest
      (authority? scheme name (isLast && path.isEmpty)).map fun (a, left) =>
        (some a, if left.isEmpty && path.isEmpty then []
          else (readPath scheme (if left.isEmpty then path.drop 1 else left ++ path)).1)
    | '/' :: rest => some (none, (readPath scheme rest).1)
    | _ => some (none, Percent.encode inFreePath body)

/-- The URI that a text spells. -/
def parse? (t : Text) : Option Uri := do
  let (scheme, rest) ← scheme? (clean t)
  let (front, fragment) := cutAt (· == '#') rest
  let (body, query) := cutAt (· == '?') front
  let (authority, path) ← readBody scheme body (front.length == rest.length && query.isEmpty)
  let part (reserved : Char → Bool) : Text → Option Text
    | [] => none
    | _ :: t => some (Percent.encode reserved t)
  return ⟨scheme, authority, path, part (inQuery (isSpecial scheme)) query,
    part inFragment fragment⟩

end Uri

end CustomProps
