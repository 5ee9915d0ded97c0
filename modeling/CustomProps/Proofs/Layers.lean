import CustomProps.Server.Step
import CustomProps.Settings.CommandLine
import Mathlib.Data.List.TakeWhile

/-!
Where a list of the settings comes from. It has four layers: the list that the client asks for, the
entries of all uses of its flags, the entries of its environment variable, and the default. The
first layer that gives an entry which is not blank settles it, with three exceptions. Blank entries
of a flag that takes one entry are the list, and a value of the languages flag without an entry
leaves the default; in both cases the variable is not asked. And of several uses of the languages
flag only one is heard: the first that stands by itself, even if no value follows it, or else the
first that carries its value.
-/

namespace CustomProps

namespace Text

/-- Whether a text holds nothing but blanks. -/
def allBlank (t : Text) : Bool := t.all isBlank

/-- A trimmed text does not end in a blank, so blanks are all of it only if it is empty. -/
theorem eq_nil_of_allBlank_trim {t : Text} (h : allBlank (trim t) = true) : trim t = [] := by
  have hblank := List.all_eq_true.1 h
  rw [trim, trimEnd, List.reverse_eq_nil_iff]
  cases hd : (trimStart t).reverse.dropWhile isBlank with
  | nil => rfl
  | cons c rest =>
    have hc : isBlank c = false := by
      have h := List.head?_dropWhile_not isBlank (trimStart t).reverse
      rwa [hd] at h
    have hmem : c ∈ trim t := by simp [trim, trimEnd, hd]
    rw [hblank c hmem] at hc
    cases hc

end Text

/-- The layers of a list setting, the first of them first. The client's list is there only where it
counts. -/
structure ListLayers where
  client : Option (List Text)
  flags : List Text
  environment : List Text
  default : List Text
  deriving DecidableEq, Repr

namespace ListLayers

/-- Whether one of the entries is not blank. -/
def counts (entries : List Text) : Bool := entries.any fun e => !e.allBlank

/-- The list of the first layer that counts. -/
def settled (l : ListLayers) : List Text :=
  l.client.getD <|
    if counts l.flags then l.flags else if counts l.environment then l.environment else l.default

/-- Whether flags that the client does not overrule give entries, and all of them are blank. -/
def blankFlags (l : ListLayers) : Bool := l.client.isNone && !l.flags.isEmpty && !counts l.flags

end ListLayers

namespace CommandLine

/-- The entries of a value; none where there is no value. -/
def entriesOf (value : Option Text) : List Text := (value.map entries).getD []

/-- Entries between commas are never blank, so they count if there are any. -/
theorem counts_entries (value : Text) :
    ListLayers.counts (entries value) = !(entries value).isEmpty := by
  cases h : entries value with
  | nil => rfl
  | cons e es =>
    have he : e ∈ entries value := by simp [h]
    obtain ⟨hm, hne⟩ := List.mem_filter.1 he
    obtain ⟨piece, -, rfl⟩ := List.mem_map.1 hm
    have hink : Text.allBlank (Text.trim piece) = false := by
      rw [Bool.eq_false_iff]
      intro hblank
      rw [Text.eq_nil_of_allBlank_trim hblank] at hne
      cases hne
    simp [ListLayers.counts, hink]

theorem counts_entriesOf (value : Option Text) :
    ListLayers.counts (entriesOf value) = !(entriesOf value).isEmpty := by
  cases value with
  | none => rfl
  | some value => exact counts_entries value

/-! All uses of a flag, and the one value that is heard. -/

/-- Whether an argument uses a flag: it is the flag, or it carries a value of it. -/
def isUse (flag argument : Text) : Bool := argument == flag || (attached? flag argument).isSome

/-- The values that all uses of a flag give, in order. -/
def values (flag : Text) : List Text → List Text
  | [] => []
  | argument :: rest =>
    if argument = flag then (rest.head?.filter isValue).toList ++ values flag rest
    else (attached? flag argument).toList ++ values flag rest

section

variable {flag argument : Text} {arguments : List Text}

theorem values_eq_nil (h : arguments.countP (isUse flag) = 0) : values flag arguments = [] := by
  induction arguments with
  | nil => rfl
  | cons argument rest ih =>
    rw [List.countP_eq_zero, List.forall_mem_cons] at h
    obtain ⟨hne, hnone⟩ : argument ≠ flag ∧ attached? flag argument = none := by
      simpa [isUse] using h.1
    rw [values, if_neg hne, hnone, ih (List.countP_eq_zero.2 h.2)]
    rfl

/-- A flag that stands by itself is heard, whatever follows it. -/
theorem value?_cons_flag (rest : List Text) :
    value? flag (flag :: rest) = rest.head?.filter isValue := by
  rw [value?, List.dropWhile_cons_of_neg (by simp)]
  cases rest with
  | nil => rfl
  | cons next rest => simp [Option.filter]

/-- Without such a flag, the first value that an argument carries is heard. -/
theorem value?_of_not_mem (h : flag ∉ arguments) :
    value? flag arguments = arguments.findSome? (attached? flag) := by
  have hdrop : arguments.dropWhile (· != flag) = [] := by
    rw [List.dropWhile_eq_nil_iff]
    intro argument hmem
    simpa using ne_of_mem_of_not_mem hmem h
  rw [value?, hdrop]

theorem value?_cons_of_none (hne : argument ≠ flag) (hnone : attached? flag argument = none)
    (rest : List Text) : value? flag (argument :: rest) = value? flag rest := by
  rw [value?, value?, List.dropWhile_cons_of_pos (by simpa using hne),
    List.findSome?_cons_of_isNone (by simp [hnone])]

/-- A flag that is used once at most is heard. -/
theorem values_eq_toList (h : arguments.countP (isUse flag) ≤ 1) :
    values flag arguments = (value? flag arguments).toList := by
  induction arguments with
  | nil => rfl
  | cons argument rest ih =>
    by_cases hflag : argument = flag
    · subst hflag
      rw [List.countP_cons_of_pos (by simp [isUse])] at h
      rw [values, if_pos rfl, values_eq_nil (by omega), value?_cons_flag, List.append_nil]
    cases hvalue : attached? flag argument with
    | none =>
      rw [List.countP_cons_of_neg (by simp [isUse, hflag, hvalue])] at h
      rw [values, if_neg hflag, hvalue, value?_cons_of_none hflag hvalue, ih h]
      rfl
    | some value =>
      rw [List.countP_cons_of_pos (by simp [isUse, hvalue])] at h
      have hnone : rest.countP (isUse flag) = 0 := by omega
      have hmem : flag ∉ argument :: rest := by
        intro hmem
        have hrest := (List.mem_cons.1 hmem).resolve_left (Ne.symm hflag)
        exact List.countP_eq_zero.1 hnone flag hrest (by simp [isUse])
      rw [values, if_neg hflag, hvalue, values_eq_nil hnone, value?_of_not_mem hmem,
        List.findSome?_cons_of_isSome (by simp [hvalue]), hvalue, List.append_nil]

end

theorem flatMap_entries_toList (value : Option Text) :
    value.toList.flatMap entries = entriesOf value := by
  cases value with
  | none => rfl
  | some value => exact List.append_nil _

end CommandLine

namespace Settings

open CommandLine (ListFlag Environment collect list? languages? value? values isUse languagesFlag
  languagesVariable entries entriesOf counts_entriesOf)

/-- The layers of a list that two flags and a variable give. -/
def flagLayers (flag : ListFlag) (arguments : List Text) (env : Environment)
    (client : Option (List Text)) (default : List Text) : ListLayers where
  client := client
  flags := collect flag arguments
  environment := entriesOf (env.get? flag.envName)
  default := default

/-- An empty list of the client does not count here. -/
def lookupLayers (arguments : List Text) (env : Environment) (client : Option ClientOptions) :
    ListLayers :=
  flagLayers CommandLine.lookupFiles arguments env
    ((client.bind (·.lookupFiles)).filter (!·.isEmpty)) default.lookupFiles

/-- An empty list of the client counts here: it asks that no file be left out. -/
def ignoreLayers (arguments : List Text) (env : Environment) (client : Option ClientOptions) :
    ListLayers :=
  flagLayers CommandLine.ignoreGlobs arguments env (client.bind (·.ignoreGlobs))
    default.ignoreGlobs

/-- An empty list of the client does not count here. The flag gives the entries of all its uses. -/
def languageLayers (arguments : List Text) (env : Environment) (client : Option ClientOptions) :
    ListLayers where
  client := (client.bind (·.languages)).filter (!·.isEmpty)
  flags := (values languagesFlag arguments).flatMap entries
  environment := entriesOf (env.get? languagesVariable)
  default := default.languages

/-- The layers of the languages as they are heard: of the uses of the flag, one value at most. -/
def heardLayers (arguments : List Text) (env : Environment) (client : Option ClientOptions) :
    ListLayers :=
  { languageLayers arguments env client with flags := entriesOf (value? languagesFlag arguments) }

/-- Layers that are heard otherwise have several uses of the flag. -/
theorem heardLayers_eq (arguments : List Text) (env : Environment) (client : Option ClientOptions) :
    1 < arguments.countP (isUse languagesFlag) ∨
      heardLayers arguments env client = languageLayers arguments env client := by
  by_cases h : 1 < arguments.countP (isUse languagesFlag)
  · exact .inl h
  · right
    rw [heardLayers, languageLayers, CommandLine.values_eq_toList (by omega),
      CommandLine.flatMap_entries_toList]

theorem override_eq (given : Option (List Text)) (before : List Text) :
    override given before = (given.filter (!·.isEmpty)).getD before := by
  rcases given with _ | _ | ⟨e, es⟩ <;> rfl

/-- Flags that give any entry are the list, and the variable comes next. -/
theorem override_list? (flag : ListFlag) (arguments : List Text) (env : Environment)
    (default : List Text) :
    override (list? flag arguments env) default =
      if (collect flag arguments).isEmpty then
        if (entriesOf (env.get? flag.envName)).isEmpty then default
        else entriesOf (env.get? flag.envName)
      else collect flag arguments := by
  rw [list?, entriesOf]
  cases collect flag arguments with
  | cons e es => rfl
  | nil =>
    cases (env.get? flag.envName).map entries with
    | none => rfl
    | some es => cases es <;> rfl

/-- A value of the flag decides even without an entry, and then there is no list. -/
theorem override_languages? (arguments : List Text) (env : Environment) (default : List Text) :
    override (languages? arguments env) default =
      if (value? languagesFlag arguments).isSome then
        if (entriesOf (value? languagesFlag arguments)).isEmpty then default
        else entriesOf (value? languagesFlag arguments)
      else if (entriesOf (env.get? languagesVariable)).isEmpty then default
      else entriesOf (env.get? languagesVariable) := by
  rw [languages?, entriesOf, entriesOf]
  cases value? languagesFlag arguments with
  | some value => cases h : entries value <;> simp [h, override]
  | none =>
    cases env.get? languagesVariable with
    | none => rfl
    | some value => cases h : entries value <;> simp [h, override]

/-- A list of two flags is settled by its layers, unless the flags give blanks only. -/
theorem getD_override_list? (flag : ListFlag) (arguments : List Text) (env : Environment)
    (client : Option (List Text)) (default : List Text) :
    client.getD (override (list? flag arguments env) default) =
      if (flagLayers flag arguments env client default).blankFlags then collect flag arguments
      else (flagLayers flag arguments env client default).settled := by
  cases client with
  | some given => rfl
  | none =>
    have henv := counts_entriesOf (env.get? flag.envName)
    rw [override_list?]
    simp only [ListLayers.blankFlags, ListLayers.settled, flagLayers, henv]
    cases collect flag arguments with
    | nil => cases (entriesOf (env.get? flag.envName)).isEmpty <;> rfl
    | cons e es => cases ListLayers.counts (e :: es) <;> rfl

/-- The languages are settled by the layers that are heard, unless the value that is heard has no
entry. -/
theorem getD_override_languages? (arguments : List Text) (env : Environment)
    (client : Option ClientOptions) :
    (heardLayers arguments env client).client.getD
        (override (languages? arguments env) default.languages) =
      if (heardLayers arguments env client).client = none ∧
        (value? languagesFlag arguments).isSome ∧ entriesOf (value? languagesFlag arguments) = []
      then default.languages else (heardLayers arguments env client).settled := by
  have henv := counts_entriesOf (env.get? languagesVariable)
  have hflag := counts_entriesOf (value? languagesFlag arguments)
  rw [override_languages?]
  simp only [ListLayers.settled, heardLayers, languageLayers, henv, hflag]
  cases (client.bind (·.languages)).filter (!·.isEmpty) with
  | some given => rfl
  | none =>
    cases value? languagesFlag arguments with
    | none =>
      have hnone : entriesOf none = [] := rfl
      cases entriesOf (env.get? languagesVariable) <;> simp [hnone]
    | some value => cases entriesOf (some value) <;> simp

end Settings

namespace Server

open Settings (lookupLayers ignoreLayers languageLayers heardLayers getD_override_list?
  getD_override_languages?)

/-- What the client asks for goes over what the program was started with. -/
theorem settings_setUp (s : Server) (setup : Wire.Setup) :
    (s.setUp setup).settings.lookupFiles =
        ((setup.options.bind (·.lookupFiles)).filter (!·.isEmpty)).getD
          (Settings.start s.options).lookupFiles ∧
      (s.setUp setup).settings.ignoreGlobs =
        (setup.options.bind (·.ignoreGlobs)).getD (Settings.start s.options).ignoreGlobs ∧
      (s.setUp setup).settings.languages =
        ((setup.options.bind (·.languages)).filter (!·.isEmpty)).getD
          (Settings.start s.options).languages := by
  simp only [setUp, ← Settings.override_eq]
  cases setup.options <;> exact ⟨rfl, rfl, rfl⟩

/-- Once the connection is set up, each list of the settings is that of its first layer that counts.
The exceptions are flags that give blank entries only, which are taken, a value of the languages
flag without an entry, which leaves the default, and several uses of that flag, of which one value
is heard at most. -/
theorem setUp_lists_settled (arguments : List Text) (env : CommandLine.Environment)
    (setup : Wire.Setup) :
    let settings := ((start (CommandLine.options arguments env)).setUp setup).settings
    let lookup := lookupLayers arguments env setup.options
    let ignore := ignoreLayers arguments env setup.options
    let languages := languageLayers arguments env setup.options
    let heard := heardLayers arguments env setup.options
    settings.lookupFiles = (if lookup.blankFlags then lookup.flags else lookup.settled) ∧
    settings.ignoreGlobs = (if ignore.blankFlags then ignore.flags else ignore.settled) ∧
    settings.languages =
      (if heard.client = none ∧
        (CommandLine.value? CommandLine.languagesFlag arguments).isSome ∧ heard.flags = []
      then heard.default else heard.settled) ∧
    (1 < arguments.countP (CommandLine.isUse CommandLine.languagesFlag) ∨ heard = languages) := by
  obtain ⟨hlookup, hignore, hlanguages⟩ :=
    settings_setUp (start (CommandLine.options arguments env)) setup
  refine ⟨?_, ?_, ?_, Settings.heardLayers_eq arguments env setup.options⟩
  · rw [hlookup]
    exact getD_override_list? _ arguments env _ _
  · rw [hignore]
    exact getD_override_list? _ arguments env _ _
  · rw [hlanguages]
    exact getD_override_languages? arguments env setup.options

/-- Not every list is that of its first layer that counts: a languages flag without an entry hides
the variable. -/
theorem blank_flag_hides_variable :
    ¬ ∀ (arguments : List Text) (env : CommandLine.Environment) (setup : Wire.Setup),
      let settings := ((start (CommandLine.options arguments env)).setUp setup).settings
      settings.lookupFiles = (lookupLayers arguments env setup.options).settled ∧
      settings.ignoreGlobs = (ignoreLayers arguments env setup.options).settled ∧
      settings.languages = (languageLayers arguments env setup.options).settled := by
  intro h
  have hl := (h ["--languages=".toList] [("STYLED_VARS_LANGUAGES".toList, "env".toList)]
    ⟨none, []⟩).2.2
  exact absurd hl (by decide +kernel)

/-- A languages flag without a value hides a later use that has one. -/
example : ((start (CommandLine.options ["--languages".toList, "--languages=ts".toList] [])).setUp
    ⟨none, []⟩).settings.languages = Settings.default.languages := by decide +kernel

/-- A blank lookup file hides the variable, too: it is taken for the list. -/
example : ((start (CommandLine.options ["--lookup-file=".toList]
    [("STYLED_VARS_LOOKUP_FILES".toList, "a.ts".toList)])).setUp ⟨none, []⟩).settings.lookupFiles =
      [[]] := by decide +kernel

end Server

end CustomProps
