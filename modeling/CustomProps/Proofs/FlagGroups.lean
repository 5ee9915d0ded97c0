import CustomProps.Proofs.Layers
import CustomProps.Proofs.Lines

/-!
Arguments read group by group. A group is one use of a flag: the flag with its value behind it, with
its value attached to it, or alone. Every flag starts with a dash, which no value behind a flag
does, and what is attached to a flag stands behind its first equals sign. So a list setting takes
the values of its own two flags in order, and passes the flags and the values of all other groups.
-/

namespace CustomProps

namespace CommandLine

/-- The settings that flags give as lists. -/
inductive ListSetting where
  | lookupFiles
  | ignoreGlobs
  deriving DecidableEq, Repr

def ListSetting.flag : ListSetting → ListFlag
  | .lookupFiles => CommandLine.lookupFiles
  | .ignoreGlobs => CommandLine.ignoreGlobs

/-- The flags that take a value. -/
inductive ValueFlag where
  | plural (setting : ListSetting)
  | singular (setting : ListSetting)
  | languages
  deriving DecidableEq, Repr

def ValueFlag.name : ValueFlag → Text
  | .plural setting => setting.flag.plural
  | .singular setting => setting.flag.singular
  | .languages => languagesFlag

/-- The value of a flag as it is written: in the next argument, in the same one, or nowhere. -/
inductive FlagValue where
  | separate (value : { v : Text // isValue v = true })
  | attached (value : Text)
  | missing

def FlagValue.value? : FlagValue → Option Text
  | .separate value => some value
  | .attached value => some value
  | .missing => none

/-- One use of a flag. -/
inductive FlagGroup where
  | use (flag : ValueFlag) (value : FlagValue)
  | noPreview

namespace FlagGroup

/-- The arguments that a group is written as. -/
def arguments : FlagGroup → List Text
  | .use flag (.separate value) => [flag.name, value]
  | .use flag (.attached value) => [flag.name ++ '=' :: value]
  | .use flag .missing => [flag.name]
  | .noPreview => [noPreviewFlag]

/-- The entries that a group gives for a list setting. -/
def given (setting : ListSetting) : FlagGroup → List Text
  | .use (.plural s) value => if setting = s then entriesOf value.value? else []
  | .use (.singular s) value => if setting = s then value.value?.toList else []
  | .use .languages _ => []
  | .noPreview => []

end FlagGroup

namespace ValueFlag

theorem name_inj {f g : ValueFlag} : f.name = g.name ↔ f = g := by
  rcases f with (_ | _) | (_ | _) | _ <;> rcases g with (_ | _) | (_ | _) | _ <;> decide

theorem exists_name (f : ValueFlag) : ∃ rest, f.name = '-' :: rest := by
  rcases f with (_ | _) | (_ | _) | _ <;> exact ⟨_, rfl⟩

theorem isValue_name (f : ValueFlag) : isValue f.name = false := by
  obtain ⟨rest, hf⟩ := f.exists_name
  rw [hf]
  rfl

theorem equals_not_mem_name (f : ValueFlag) : '=' ∉ f.name := by
  rcases f with (_ | _) | (_ | _) | _ <;> decide

theorem name_ne_noPreviewFlag (f : ValueFlag) : f.name ≠ noPreviewFlag := by
  rcases f with (_ | _) | (_ | _) | _ <;> decide

end ValueFlag

/-! What is attached to a flag. -/

theorem attached?_eq_some_iff {flag argument value : Text} :
    attached? flag argument = some value ↔ argument = flag ++ '=' :: value := by
  rw [attached?, Text.after?]
  split
  · rename_i h
    obtain ⟨rest, rfl⟩ := List.isPrefixOf_iff_prefix.1 h
    simp
  · rename_i h
    refine iff_of_false (by simp) ?_
    rintro rfl
    exact h (List.isPrefixOf_iff_prefix.2 ⟨value, by simp⟩)

/-- Only the flag in front of the first equals sign has a value attached. -/
theorem attached?_append {f g : Text} (hf : '=' ∉ f) (hg : '=' ∉ g) (value : Text) :
    attached? f (g ++ '=' :: value) = if f = g then some value else none := by
  split
  · rename_i h
    rw [h, attached?_eq_some_iff]
  · rename_i h
    rw [Option.eq_none_iff_forall_ne_some]
    intro v hv
    have heq := attached?_eq_some_iff.1 hv
    have hfront := congrArg (List.takeWhile (· != '=')) heq
    rw [Text.takeWhile_append_of_head (Text.forall_bne_of_not_mem hg) (by simp),
      Text.takeWhile_append_of_head (Text.forall_bne_of_not_mem hf) (by simp)] at hfront
    exact h hfront.symm

theorem attached?_of_not_mem {f argument : Text} (h : '=' ∉ argument) :
    attached? f argument = none := by
  rw [Option.eq_none_iff_forall_ne_some]
  intro v hv
  rw [attached?_eq_some_iff.1 hv] at h
  exact h (by simp)

/-- Nothing is attached to a flag in an argument that may be a value. -/
theorem attached?_of_isValue (f : ValueFlag) {argument : Text} (h : isValue argument = true) :
    attached? f.name argument = none := by
  rw [Option.eq_none_iff_forall_ne_some]
  intro v hv
  obtain ⟨rest, hf⟩ := f.exists_name
  rw [attached?_eq_some_iff.1 hv, hf] at h
  cases h

/-! One argument, and one group. -/

section

variable {flag : ListFlag} {rest : List Text}

/-- An argument that is neither flag gives what is attached to one of them. -/
theorem collect_cons {argument : Text} (hp : argument ≠ flag.plural) (hs : argument ≠ flag.singular)
    (rest : List Text) :
    collect flag (argument :: rest) = collect.attached flag argument ++ collect flag rest := by
  cases rest with
  | nil => simp [collect]
  | cons next rest => rw [collect, if_neg hp, if_neg hs]

/-- A flag that no value follows is passed. -/
theorem collect_missing {argument : Text} (ha : collect.attached flag argument = [])
    (hrest : ∀ next ∈ rest.head?, isValue next = false) :
    collect flag (argument :: rest) = collect flag rest := by
  cases rest with
  | nil => exact ha
  | cons next rest =>
    have hnext : isValue next = false := hrest next rfl
    simp [collect, ha, hnext]

end

namespace ListSetting

variable (setting : ListSetting)

theorem attached_of_none {argument : Text} (h : ∀ f : ValueFlag, attached? f.name argument = none) :
    collect.attached setting.flag argument = [] := by
  have hp : attached? setting.flag.plural argument = none := h (.plural setting)
  have hs : attached? setting.flag.singular argument = none := h (.singular setting)
  rw [collect.attached, hp, hs]
  rfl

/-- What is attached to a flag is what its group gives. -/
theorem attached_append (f : ValueFlag) (value : Text) :
    collect.attached setting.flag (f.name ++ '=' :: value) =
      (FlagGroup.use f (.attached value)).given setting := by
  have h : ∀ g : ValueFlag, attached? g.name (f.name ++ '=' :: value) =
      if g = f then some value else none := by
    intro g
    rw [attached?_append g.equals_not_mem_name f.equals_not_mem_name]
    simp only [ValueFlag.name_inj]
  have hp : attached? setting.flag.plural _ = _ := h (.plural setting)
  have hs : attached? setting.flag.singular _ = _ := h (.singular setting)
  rw [collect.attached, hp, hs]
  cases f with
  | plural s =>
    by_cases hs : setting = s <;> simp [FlagGroup.given, FlagValue.value?, entriesOf, hs]
  | singular s =>
    by_cases hs : setting = s <;> simp [FlagGroup.given, FlagValue.value?, hs]
  | languages => rfl

/-- An argument that no flag is, and that nothing is attached in, is passed. -/
theorem collect_other {argument : Text} (hne : ∀ f : ValueFlag, argument ≠ f.name)
    (hnone : ∀ f : ValueFlag, attached? f.name argument = none) (rest : List Text) :
    collect setting.flag (argument :: rest) = collect setting.flag rest := by
  rw [collect_cons (hne (.plural setting)) (hne (.singular setting)),
    setting.attached_of_none hnone, List.nil_append]

/-- A value behind a flag goes to the setting of that flag. -/
theorem collect_separate (f : ValueFlag) (value : { v : Text // isValue v = true })
    (rest : List Text) :
    collect setting.flag (f.name :: value :: rest) =
      (FlagGroup.use f (.separate value)).given setting ++ collect setting.flag rest := by
  obtain ⟨v, hv⟩ := value
  have hplural : setting.flag.plural = (ValueFlag.plural setting).name := rfl
  have hsingular : setting.flag.singular = (ValueFlag.singular setting).name := rfl
  by_cases hp : f = .plural setting
  · rw [hp, collect, if_pos hplural.symm, if_pos hv]
    simp [FlagGroup.given, FlagValue.value?, entriesOf]
  by_cases hs : f = .singular setting
  · rw [hs, collect, hplural, if_neg (by simp [ValueFlag.name_inj]), if_pos hsingular.symm,
      if_pos hv]
    simp [FlagGroup.given, FlagValue.value?]
  -- The flag is of another setting, so it is passed, and so is its value by itself.
  · have hflag : collect setting.flag (f.name :: v :: rest) = collect setting.flag (v :: rest) := by
      rw [collect_cons (by rwa [hplural, Ne, ValueFlag.name_inj])
        (by rwa [hsingular, Ne, ValueFlag.name_inj]),
        setting.attached_of_none fun g => attached?_of_not_mem f.equals_not_mem_name,
        List.nil_append]
    have hne : ∀ g : ValueFlag, v ≠ g.name := by
      intro g h
      rw [h, g.isValue_name] at hv
      cases hv
    have hgiven : (FlagGroup.use f (.separate ⟨v, hv⟩)).given setting = [] := by
      cases f with
      | plural s => exact if_neg fun h => hp (by rw [h])
      | singular s => exact if_neg fun h => hs (by rw [h])
      | languages => rfl
    rw [hflag, setting.collect_other hne (fun g => attached?_of_isValue g hv), hgiven,
      List.nil_append]

/-- The arguments of a group give the entries of the group, whatever group comes behind it. -/
theorem collect_group (g : FlagGroup) {rest : List Text}
    (hrest : ∀ next ∈ rest.head?, isValue next = false) :
    collect setting.flag (g.arguments ++ rest) = g.given setting ++ collect setting.flag rest := by
  cases g with
  | noPreview =>
    have hnone : ∀ f : ValueFlag, attached? f.name noPreviewFlag = none :=
      fun f => attached?_of_not_mem (by decide)
    exact setting.collect_other (fun f => f.name_ne_noPreviewFlag.symm) hnone rest
  | use f value =>
    cases value with
    | separate value => exact setting.collect_separate f value rest
    | attached value =>
      have hne : ∀ g : ValueFlag, f.name ++ '=' :: value ≠ g.name := by
        intro g h
        have hg := g.equals_not_mem_name
        rw [← h] at hg
        simp at hg
      rw [← setting.attached_append f value]
      exact collect_cons (hne (.plural setting)) (hne (.singular setting)) rest
    | missing =>
      have hnone : collect.attached setting.flag f.name = [] :=
        setting.attached_of_none fun g => attached?_of_not_mem f.equals_not_mem_name
      have hgiven : (FlagGroup.use f .missing).given setting = [] := by
        cases f <;> simp [FlagGroup.given, FlagValue.value?, entriesOf]
      rw [hgiven]
      exact collect_missing hnone hrest

end ListSetting

namespace FlagGroup

/-- A group starts with the dash of its flag. -/
theorem exists_arguments (g : FlagGroup) : ∃ rest more, g.arguments = ('-' :: rest) :: more := by
  cases g with
  | noPreview => exact ⟨_, _, rfl⟩
  | use f value =>
    obtain ⟨rest, hf⟩ := f.exists_name
    cases value <;> simp [arguments, hf]

/-- So no argument in front of a group takes what follows for its value. -/
theorem isValue_of_mem_head? (groups : List FlagGroup) :
    ∀ next ∈ (groups.flatMap arguments).head?, isValue next = false := by
  intro next hnext
  cases groups with
  | nil => cases hnext
  | cons g groups =>
    obtain ⟨rest, more, hg⟩ := g.exists_arguments
    rw [List.flatMap_cons, hg] at hnext
    obtain rfl : '-' :: rest = next := by simpa using hnext
    rfl

end FlagGroup

/-- Arguments that are written as groups give a list setting the entries of its groups in their
order, whatever other groups stand between them. If there are any, they are the setting. -/
theorem collect_groups (setting : ListSetting) (groups : List FlagGroup) :
    collect setting.flag (groups.flatMap FlagGroup.arguments) =
        groups.flatMap (FlagGroup.given setting) ∧
      (groups.flatMap (FlagGroup.given setting) ≠ [] → ∀ env,
        list? setting.flag (groups.flatMap FlagGroup.arguments) env =
          some (groups.flatMap (FlagGroup.given setting))) := by
  have hcollect : collect setting.flag (groups.flatMap FlagGroup.arguments) =
      groups.flatMap (FlagGroup.given setting) := by
    induction groups with
    | nil => rfl
    | cons g groups ih =>
      rw [List.flatMap_cons, List.flatMap_cons,
        setting.collect_group g (FlagGroup.isValue_of_mem_head? groups), ih]
  refine ⟨hcollect, ?_⟩
  intro hne env
  rw [list?, hcollect]
  cases h : groups.flatMap (FlagGroup.given setting) with
  | nil => exact absurd h hne
  | cons e es => rfl

/-! Flags of all settings: a list with a blank entry, a flag whose value is missing in front of
another flag, and a singular flag, which takes its commas and blanks as they are. -/

namespace Sample

def flagGroups : List FlagGroup :=
  [.use (.plural .lookupFiles) (.separate ⟨"a.ts, ,b.ts ".toList, rfl⟩),
    .use (.singular .ignoreGlobs) (.attached "dist/**".toList),
    .use (.plural .lookupFiles) .missing, .noPreview,
    .use .languages (.separate ⟨"typescript".toList, rfl⟩),
    .use (.singular .lookupFiles) (.attached " c,d.ts".toList)]

end Sample

theorem collect_groups_of_sample :
    Sample.flagGroups.flatMap (FlagGroup.given .lookupFiles) =
        ["a.ts", "b.ts", " c,d.ts"].map String.toList ∧
      list? lookupFiles (["--lookup-files", "a.ts, ,b.ts ", "--ignore-glob=dist/**",
          "--lookup-files", "--no-color-preview", "--languages", "typescript",
          "--lookup-file= c,d.ts"].map String.toList) [] =
        some (["a.ts", "b.ts", " c,d.ts"].map String.toList) := by
  have hgiven : Sample.flagGroups.flatMap (FlagGroup.given .lookupFiles) =
      ["a.ts", "b.ts", " c,d.ts"].map String.toList := by decide +kernel
  have hlist := (collect_groups .lookupFiles Sample.flagGroups).2 (by rw [hgiven]; simp) []
  rw [hgiven] at hlist
  exact ⟨hgiven, hlist⟩

end CommandLine

end CustomProps
