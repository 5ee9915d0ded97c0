import CustomProps.Proofs.Extract
import Mathlib.Data.Finset.Insert

/-!
A registry through a list of registrations. Each is answered with whether it was stored: that is so
exactly if it gives a value and none stored before it has its name, so one without a value leaves
its name free. The registry then holds what the stored ones declare, in their order, each name once
and each value without blanks around it. A set of the names taken, kept beside the declarations,
stays in step with them.
-/

namespace CustomProps

namespace Text

/-- A text that neither starts nor ends with a blank. -/
structure IsTrimmed (t : Text) : Prop where
  head : ∀ c ∈ t.head?, isBlank c = false
  last : ∀ c ∈ t.getLast?, isBlank c = false

theorem trimEnd_isPrefix (t : Text) : trimEnd t <+: t := by
  rw [← List.reverse_suffix, trimEnd, List.reverse_reverse]
  exact List.dropWhile_suffix _

theorem withoutDelimiter_isPrefix (t : Text) : withoutDelimiter t <+: t := by
  rw [withoutDelimiter]
  split
  · exact List.dropLast_prefix t
  · exact List.prefix_refl t

theorem isBlank_head?_trimStart (t : Text) : ∀ c ∈ (trimStart t).head?, isBlank c = false := by
  intro c hc
  have h := List.head?_dropWhile_not isBlank t
  rw [trimStart] at hc
  rw [Option.mem_def.1 hc] at h
  exact h

theorem isBlank_getLast?_trimEnd (t : Text) : ∀ c ∈ (trimEnd t).getLast?, isBlank c = false := by
  intro c hc
  rw [trimEnd, List.getLast?_reverse] at hc
  exact isBlank_head?_trimStart t.reverse c hc

/-- Cleaning a value takes beginnings of it once its first blanks are gone. -/
theorem normalValue_isPrefix (raw : Text) : normalValue raw <+: trimStart raw := by
  rw [normalValue_eq]
  calc trimEnd (withoutDelimiter (trim raw))
      <+: withoutDelimiter (trim raw) := trimEnd_isPrefix _
    _ <+: trim raw := withoutDelimiter_isPrefix _
    _ <+: trimStart raw := trimEnd_isPrefix _

theorem isTrimmed_normalValue (raw : Text) : IsTrimmed (normalValue raw) := by
  constructor
  · intro c hc
    obtain ⟨rest, hrest⟩ := normalValue_isPrefix raw
    refine isBlank_head?_trimStart raw c ?_
    rw [← hrest, List.head?_append, Option.mem_def.1 hc]
    rfl
  · rw [normalValue_eq]
    exact isBlank_getLast?_trimEnd _

end Text

/-- A request to store a value for a name. -/
structure Registration where
  name : Text
  raw : Text
  range : Range
  deriving DecidableEq, Repr

namespace Registration

/-- What a registration declares when it is stored. -/
def declaration (uri : Uri) (c : Registration) : Declaration :=
  ⟨c.name, normalValue c.raw, uri, c.range⟩

/-- The registrations that were answered with yes. -/
def stored (cs : List Registration) (answers : List Bool) : List Registration :=
  ((cs.zip answers).filter (·.2)).map (·.1)

theorem stored_cons (c : Registration) (cs : List Registration) (answer : Bool)
    (answers : List Bool) :
    stored (c :: cs) (answer :: answers) =
      if answer then c :: stored cs answers else stored cs answers := by
  cases answer <;> rfl

theorem mem_stored {c : Registration} {cs : List Registration} {answers : List Bool} :
    c ∈ stored cs answers ↔ ∃ i : Nat, cs[i]? = some c ∧ answers[i]? = some true := by
  have hpair : c ∈ stored cs answers ↔ (c, true) ∈ cs.zip answers := by simp [stored]
  rw [hpair, List.mem_iff_getElem?]
  simp only [List.getElem?_zip_eq_some]

end Registration

namespace Registry

def register (r : Registry) (c : Registration) : Registry := r.insert c.name c.raw c.range

def registerAll (r : Registry) (cs : List Registration) : Registry := cs.foldl register r

/-- Whether each registration was stored when it came. -/
def answers (r : Registry) : List Registration → List Bool
  | [] => []
  | c :: cs => r.accepts c.name c.raw :: (r.register c).answers cs

variable {r : Registry} {c : Registration} {cs : List Registration}

theorem register_of_accepts (h : r.accepts c.name c.raw = true) :
    r.register c = { r with declarations := r.declarations ++ [c.declaration r.uri] } := by
  rw [register, insert, if_pos h]
  rfl

theorem register_of_not_accepts (h : ¬ r.accepts c.name c.raw = true) : r.register c = r := by
  rw [register, insert, if_neg h]

theorem declares_iff {name : Text} :
    r.declares name = true ↔ name ∈ r.declarations.map (·.name) := by
  simp [declares]

theorem accepts_iff {name raw : Text} :
    r.accepts name raw = true ↔ name ∉ r.declarations.map (·.name) ∧ normalValue raw ≠ [] := by
  simp [accepts, ← declares_iff]

/-- What is stored is put behind what is there. -/
theorem declarations_registerAll (r : Registry) (cs : List Registration) :
    (r.registerAll cs).declarations =
      r.declarations ++
        (Registration.stored cs (r.answers cs)).map (Registration.declaration r.uri) := by
  induction cs generalizing r with
  | nil => exact (List.append_nil _).symm
  | cons c cs ih =>
    have hall : r.registerAll (c :: cs) = (r.register c).registerAll cs := rfl
    rw [hall, ih, answers, Registration.stored_cons]
    by_cases h : r.accepts c.name c.raw = true
    · rw [if_pos h, register_of_accepts h, List.append_assoc]
      rfl
    · rw [if_neg h, register_of_not_accepts h]

theorem length_answers (r : Registry) (cs : List Registration) :
    (r.answers cs).length = cs.length := by
  induction cs generalizing r with
  | nil => rfl
  | cons c cs ih => rw [answers, List.length_cons, List.length_cons, ih]

/-- Answers do not depend on what comes later. -/
theorem answers_take (r : Registry) (cs : List Registration) (i : Nat) :
    r.answers (cs.take i) = (r.answers cs).take i := by
  induction cs generalizing r i with
  | nil => cases i <;> rfl
  | cons c cs ih =>
    cases i with
    | zero => rfl
    | succ i => rw [List.take_succ_cons, answers, answers, List.take_succ_cons, ih]

/-- An answer is what the registry of the registrations before says. -/
theorem getElem?_answers {i : Nat} (hc : cs[i]? = some c) :
    (r.answers cs)[i]? = some ((r.registerAll (cs.take i)).accepts c.name c.raw) := by
  induction cs generalizing r i with
  | nil => cases hc
  | cons d cs ih =>
    cases i with
    | zero =>
      cases hc
      rfl
    | succ i => exact ih hc

/-- A registration is answered with yes exactly if it gives a value and none before it that was
answered so has its name. -/
theorem answers_eq_true_iff (uri : Uri) {i : Nat} (hc : cs[i]? = some c) :
    ((empty uri).answers cs)[i]? = some true ↔
      normalValue c.raw ≠ [] ∧
        ∀ j d, j < i → cs[j]? = some d → ((empty uri).answers cs)[j]? = some true →
          d.name ≠ c.name := by
  have htaken : c.name ∈ ((empty uri).registerAll (cs.take i)).declarations.map (·.name) ↔
      ∃ d ∈ Registration.stored (cs.take i) (((empty uri).answers cs).take i),
        d.name = c.name := by
    rw [declarations_registerAll, answers_take]
    simp [Registration.declaration]
  rw [getElem?_answers hc, Option.some.injEq, accepts_iff, htaken, and_comm]
  apply and_congr_right'
  constructor
  · intro hfree j d hj hd hyes hname
    refine hfree ⟨d, Registration.mem_stored.2 ⟨j, ?_, ?_⟩, hname⟩
    · rw [List.getElem?_take_of_lt hj, hd]
    · rw [List.getElem?_take_of_lt hj, hyes]
  · rintro hfree ⟨d, hd, hname⟩
    obtain ⟨j, hj, hyes⟩ := Registration.mem_stored.1 hd
    simp only [List.getElem?_take, Option.ite_none_right_eq_some] at hj hyes
    exact hfree j d hj.1 hj.2 hyes.2 hname

/-- What a registry keeps to: no name comes twice, and no value is empty or has blanks around
it. -/
structure IsOrderly (r : Registry) : Prop where
  names : (r.declarations.map (·.name)).Nodup
  values : ∀ d ∈ r.declarations, d.value ≠ [] ∧ Text.IsTrimmed d.value

theorem isOrderly_empty (uri : Uri) : (empty uri).IsOrderly :=
  ⟨List.nodup_nil, fun _ hd => absurd hd List.not_mem_nil⟩

theorem IsOrderly.register (hr : r.IsOrderly) (c : Registration) : (r.register c).IsOrderly := by
  by_cases h : r.accepts c.name c.raw = true
  · obtain ⟨hfree, hvalue⟩ := accepts_iff.1 h
    rw [register_of_accepts h]
    constructor
    · rw [List.map_append, List.map_singleton]
      exact hr.names.append (List.nodup_singleton _) (List.disjoint_singleton.2 hfree)
    · intro d hd
      rcases List.mem_append.1 hd with hd | hd
      · exact hr.values d hd
      · rw [List.mem_singleton.1 hd]
        exact ⟨hvalue, Text.isTrimmed_normalValue c.raw⟩
  · rw [register_of_not_accepts h]
    exact hr

theorem IsOrderly.registerAll (hr : r.IsOrderly) (cs : List Registration) :
    (r.registerAll cs).IsOrderly := by
  induction cs generalizing r with
  | nil => exact hr
  | cons c cs ih => exact ih (hr.register c)

end Registry

/-- A registry with a set of the names that it has taken. -/
structure KeyedRegistry where
  taken : Finset Text
  registry : Registry

namespace KeyedRegistry

def empty (uri : Uri) : KeyedRegistry := ⟨∅, Registry.empty uri⟩

/-- The registry after a registration, and whether that was stored. The set alone is asked whether
the name is taken. -/
def register (k : KeyedRegistry) (c : Registration) : KeyedRegistry × Bool :=
  if c.name ∈ k.taken then (k, false)
  else if normalValue c.raw = [] then (k, false)
  else
    (⟨insert c.name k.taken,
      { k.registry with
        declarations := k.registry.declarations ++ [c.declaration k.registry.uri] }⟩, true)

def registerAll (k : KeyedRegistry) (cs : List Registration) : KeyedRegistry :=
  cs.foldl (fun k c => (k.register c).1) k

def answers (k : KeyedRegistry) : List Registration → List Bool
  | [] => []
  | c :: cs => (k.register c).2 :: (k.register c).1.answers cs

/-- The names in the set are those that are declared. -/
def InStep (k : KeyedRegistry) : Prop :=
  ∀ name, name ∈ k.taken ↔ k.registry.declares name = true

variable {k : KeyedRegistry}

theorem inStep_empty (uri : Uri) : (empty uri).InStep :=
  fun _ => iff_of_false (Finset.notMem_empty _) Bool.false_ne_true

/-- Set and declarations in step answer as the declarations alone, and go on in step. -/
theorem InStep.register (hk : k.InStep) (c : Registration) :
    (k.register c).2 = k.registry.accepts c.name c.raw ∧
      (k.register c).1.registry = k.registry.register c ∧ (k.register c).1.InStep := by
  have htaken : c.name ∈ k.taken ↔ c.name ∈ k.registry.declarations.map (·.name) :=
    (hk c.name).trans Registry.declares_iff
  by_cases h : k.registry.accepts c.name c.raw = true
  · obtain ⟨hfree, hvalue⟩ := Registry.accepts_iff.1 h
    have hnew : c.name ∉ k.taken := fun hin => hfree (htaken.1 hin)
    have hstored : k.register c =
        (⟨insert c.name k.taken, k.registry.register c⟩, true) := by
      rw [KeyedRegistry.register, if_neg hnew, if_neg hvalue, Registry.register_of_accepts h]
    rw [hstored]
    refine ⟨h.symm, rfl, fun name => ?_⟩
    -- The name that is new in the set is that of the declaration behind the others.
    rw [Finset.mem_insert, hk name, Registry.declares_iff, Registry.declares_iff,
      Registry.register_of_accepts h, List.map_append, List.mem_append, or_comm]
    simp [Registration.declaration]
  · have hrefused : k.register c = (k, false) := by
      rw [KeyedRegistry.register]
      by_cases hname : c.name ∈ k.taken
      · rw [if_pos hname]
      · have hvalue : normalValue c.raw = [] := by
          by_contra hne
          exact h (Registry.accepts_iff.2 ⟨fun hin => hname (htaken.2 hin), hne⟩)
        rw [if_neg hname, if_pos hvalue]
    rw [hrefused, Registry.register_of_not_accepts h]
    exact ⟨(Bool.eq_false_iff.2 h).symm, rfl, hk⟩

theorem InStep.registerAll (hk : k.InStep) (cs : List Registration) :
    k.answers cs = k.registry.answers cs ∧
      (k.registerAll cs).registry = k.registry.registerAll cs ∧ (k.registerAll cs).InStep := by
  induction cs generalizing k with
  | nil => exact ⟨rfl, rfl, hk⟩
  | cons c cs ih =>
    obtain ⟨hanswer, hregistry, hstep⟩ := hk.register c
    obtain ⟨hanswers, hrest, hend⟩ := ih hstep
    rw [hregistry] at hanswers hrest
    exact ⟨by rw [answers, hanswer, hanswers, Registry.answers], hrest, hend⟩

end KeyedRegistry

namespace Registry

/-- Of any registrations in a new registry, those are stored that give a value and whose name no
earlier one that was stored has. The registry then holds what the stored ones declare, in order,
each name once and each value without blanks around it. A registry that keeps the names taken in a
set gives the same answers and the same declarations. -/
theorem registrations_stored (uri : Uri) (cs : List Registration) :
    let answers := (empty uri).answers cs
    let r := (empty uri).registerAll cs
    answers.length = cs.length ∧
    (∀ (i : Nat) c, cs[i]? = some c →
      (answers[i]? = some true ↔
        normalValue c.raw ≠ [] ∧
          ∀ j d, j < i → cs[j]? = some d → answers[j]? = some true → d.name ≠ c.name)) ∧
    r.declarations = (Registration.stored cs answers).map (Registration.declaration uri) ∧
    r.IsOrderly ∧
    (KeyedRegistry.empty uri).answers cs = answers ∧
    ((KeyedRegistry.empty uri).registerAll cs).registry = r ∧
    ((KeyedRegistry.empty uri).registerAll cs).InStep :=
  ⟨length_answers _ cs, fun _ _ hc => answers_eq_true_iff uri hc,
    declarations_registerAll (empty uri) cs, (isOrderly_empty uri).registerAll cs,
    (KeyedRegistry.inStep_empty uri).registerAll cs⟩

end Registry

/-! Two names, each first without a value, then with one that a delimiter leaked into, and then
again. -/

namespace Sample

def registryUri : Uri := ⟨"file".toList, some .nobody, "/w/a.globals.ts".toList, none, none⟩

def registration (name raw : String) (line : Nat) : Registration :=
  ⟨name.toList, raw.toList, Range.onLine line 4 7⟩

def registrations : List Registration :=
  [registration "--a" "   " 0, registration "--b" " `" 1, registration "--a" " 1px ; " 2,
    registration "--b" "'x''" 3, registration "--a" "2px" 4, registration "--b" "red" 5]

end Sample

namespace Registry

theorem registrations_stored_of_sample :
    Sample.registrations[2]? = some (Sample.registration "--a" " 1px ; " 2) ∧
    ((empty Sample.registryUri).answers Sample.registrations)[2]? = some true ∧
    (∀ j d, j < 2 → Sample.registrations[j]? = some d →
      ((empty Sample.registryUri).answers Sample.registrations)[j]? = some true →
        d.name ≠ "--a".toList) ∧
    ((empty Sample.registryUri).registerAll Sample.registrations).declarations =
      [⟨"--a".toList, "1px".toList, Sample.registryUri, Range.onLine 2 4 7⟩,
        ⟨"--b".toList, "'x'".toList, Sample.registryUri, Range.onLine 3 4 7⟩] ∧
    (KeyedRegistry.empty Sample.registryUri).answers Sample.registrations =
      [false, false, true, true, false, false] := by
  have hc : Sample.registrations[2]? = some (Sample.registration "--a" " 1px ; " 2) := rfl
  have hanswers : (empty Sample.registryUri).answers Sample.registrations =
      [false, false, true, true, false, false] := by decide
  have hyes : ((empty Sample.registryUri).answers Sample.registrations)[2]? = some true := by
    rw [hanswers]
    rfl
  obtain ⟨-, hstored, hkept, -, hkeyed, -⟩ :=
    registrations_stored Sample.registryUri Sample.registrations
  refine ⟨hc, hyes, ((hstored 2 _ hc).1 hyes).2, hkept.trans ?_, hkeyed.trans hanswers⟩
  rw [hanswers]
  decide

end Registry

end CustomProps
