import CustomProps.Settings.Basic
import CustomProps.Text.Blank

/-!
Options that the program is started with. A list is given by a flag that takes entries separated
by commas, by a flag that takes one entry, both of which may be repeated, or, if no flag gives an
entry, by an environment variable.
-/

namespace CustomProps

namespace CommandLine

/-- The nonempty entries between commas, without blanks around them. -/
def entries (value : Text) : List Text :=
  ((Text.split ',' value).map Text.trim).filter (!·.isEmpty)

/-- A list setting: its two flags and its environment variable. -/
structure ListFlag where
  plural : Text
  singular : Text
  envName : Text
  deriving DecidableEq, Repr

def lookupFiles : ListFlag :=
  ⟨"--lookup-files".toList, "--lookup-file".toList, "STYLED_VARS_LOOKUP_FILES".toList⟩

def ignoreGlobs : ListFlag :=
  ⟨"--ignore-globs".toList, "--ignore-glob".toList, "STYLED_VARS_IGNORE_GLOBS".toList⟩

def languagesFlag : Text := "--languages".toList
def languagesVariable : Text := "STYLED_VARS_LANGUAGES".toList
def noPreviewFlag : Text := "--no-color-preview".toList
def noPreviewVariable : Text := "STYLED_VARS_NO_COLOR_PREVIEW".toList

abbrev Environment := List (Text × Text)

def Environment.get? (env : Environment) (name : Text) : Option Text :=
  (env.find? (·.1 == name)).map (·.2)

/-- What may follow a flag as its value: anything that is not a flag itself. -/
def isValue (argument : Text) : Bool := argument.head? != some '-'

/-- What follows a flag and an equals sign. -/
def attached? (flag argument : Text) : Option Text := Text.after? (flag ++ ['=']) argument

/-- The entries that the arguments give for a list setting, in order. -/
def collect (flag : ListFlag) : List Text → List Text
  | [] => []
  | [argument] => attached argument
  | argument :: next :: rest =>
    if argument = flag.plural then
      if isValue next then entries next ++ collect flag rest else collect flag (next :: rest)
    else if argument = flag.singular then
      if isValue next then next :: collect flag rest else collect flag (next :: rest)
    else attached argument ++ collect flag (next :: rest)
where
  /-- The entries of an argument that carries its value. -/
  attached (argument : Text) : List Text :=
    match attached? flag.plural argument with
    | some value => entries value
    | none => (attached? flag.singular argument).toList

/-- A list setting: the entries of its flags, or else of its variable, if there are any. -/
def list? (flag : ListFlag) (arguments : List Text) (env : Environment) : Option (List Text) :=
  match collect flag arguments with
  | x :: xs => some (x :: xs)
  | [] =>
    match (env.get? flag.envName).map entries with
    | some (x :: xs) => some (x :: xs)
    | _ => none

/-- The value of a flag that counts once: its first separate use decides, with or without a value,
and only without one is the attached form looked for. -/
def value? (flag : Text) (arguments : List Text) : Option Text :=
  match arguments.dropWhile (· != flag) with
  | _ :: next :: _ => if isValue next then some next else none
  | [_] => none
  | [] => arguments.findSome? (attached? flag)

def languages? (arguments : List Text) (env : Environment) : Option (List Text) := do
  let value ← match value? languagesFlag arguments with
    | some value => some value
    | none => env.get? languagesVariable
  match entries value with
  | [] => none
  | found => some found

def options (arguments : List Text) (env : Environment) : StartOptions where
  lookupFiles := list? lookupFiles arguments env
  ignoreGlobs := list? ignoreGlobs arguments env
  languages := languages? arguments env
  colorPreview :=
    !(arguments.contains noPreviewFlag || env.get? noPreviewVariable == some ['1'])

end CommandLine

end CustomProps
