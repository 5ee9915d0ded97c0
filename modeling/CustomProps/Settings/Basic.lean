import CustomProps.Text.Basic

/-!
Settings name the files that declare variables, the files that are left out, and the languages that
are served. They are the defaults, overridden by what the program was started with, and then by what
the client asks for. An empty list overrides nothing, except that the client may ask that no file be
left out.
-/

namespace CustomProps

structure Settings where
  lookupFiles : List Text
  ignoreGlobs : List Text
  languages : List Text
  colorPreview : Bool
  deriving DecidableEq, Repr

/-- Settings given at the start; a missing list means the default. -/
structure StartOptions where
  lookupFiles : Option (List Text)
  ignoreGlobs : Option (List Text)
  languages : Option (List Text)
  colorPreview : Bool
  deriving DecidableEq, Repr

/-- Settings that a client asks for. -/
structure ClientOptions where
  lookupFiles : Option (List Text)
  ignoreGlobs : Option (List Text)
  languages : Option (List Text)
  colorPreview : Option Bool
  deriving DecidableEq, Repr

namespace Settings

def default : Settings where
  lookupFiles := ["**/*.globals.\x7bts,js\x7d"].map String.toList
  ignoreGlobs :=
    ["**/node_modules/**", "**/dist/**", "**/out/**", "**/.git/**"].map String.toList
  languages :=
    ["javascript", "typescript", "javascriptreact", "typescriptreact"].map String.toList
  colorPreview := true

/-- A list that is given and not empty, or else the one before. -/
def override (given : Option (List Text)) (before : List Text) : List Text :=
  match given with
  | some (x :: xs) => x :: xs
  | _ => before

def start (options : StartOptions) : Settings where
  lookupFiles := override options.lookupFiles default.lookupFiles
  ignoreGlobs := override options.ignoreGlobs default.ignoreGlobs
  languages := override options.languages default.languages
  colorPreview := options.colorPreview

def adopt (s : Settings) (options : ClientOptions) : Settings where
  lookupFiles := override options.lookupFiles s.lookupFiles
  ignoreGlobs := options.ignoreGlobs.getD s.ignoreGlobs
  languages := override options.languages s.languages
  colorPreview := options.colorPreview.getD s.colorPreview

/-- Whether a language is served; the case of ASCII letters does not count. -/
def serves (s : Settings) (language : Text) : Bool :=
  s.languages.any fun known => known.map Char.toLower == language.map Char.toLower

end Settings

end CustomProps
