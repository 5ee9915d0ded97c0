import CustomProps.Proofs.Firsts
import CustomProps.Proofs.Written

/-!
A sheet of declarations read back. A sheet writes names and values into one literal, each on a line
of its own behind four spaces. Where the names are plain and differ, every pair comes back, on its
line and with its value as it is. The values may look like declarations, hold quotes or start a
comment: a search that has passed a colon goes on only behind the next semicolon.
-/

namespace CustomProps

/-- Two dashes and one or more ASCII letters, digits or dashes. -/
structure IsPlainName (name : Text) : Prop where
  mark : nameMark <+: name
  longer : nameMark.length < name.length
  chars : ∀ c ∈ name, c.isAlphanum = true ∨ c = '-'

/-- A value that stands in a declaration as it is: no blank around it and no quote at its end, and
nothing in it that ends the declaration, its line or its literal. -/
structure IsPlainValue (value : Text) : Prop where
  ne_nil : value ≠ []
  head : ∀ c ∈ value.head?, isBlank c = false
  last : ∀ c ∈ value.getLast?, isBlank c = false ∧ c ≠ '\'' ∧ c ≠ '"'
  chars : ∀ c ∈ value, c ≠ ';' ∧ c ≠ '\x60' ∧ c ≠ '\\' ∧ c ≠ '\n'

instance : DecidablePred IsPlainName := fun name =>
  decidable_of_iff (nameMark <+: name ∧ nameMark.length < name.length ∧
      name.all (fun c => c.isAlphanum || c == '-') = true)
    ⟨fun ⟨hm, hl, hc⟩ => ⟨hm, hl, by simpa using hc⟩,
      fun h => ⟨h.mark, h.longer, by simpa using h.chars⟩⟩

instance : DecidablePred IsPlainValue := fun value =>
  decidable_of_iff (value ≠ [] ∧ value.head?.all (fun c => !isBlank c) = true ∧
      value.getLast?.all (fun c => !isBlank c && c != '\'' && c != '"') = true ∧
      value.all (fun c => c != ';' && c != '\x60' && c != '\\' && c != '\n') = true)
    ⟨fun ⟨hn, hh, hl, hc⟩ => ⟨hn, by simpa [Option.all_eq_true] using hh,
        by simpa [Option.all_eq_true, and_assoc] using hl, by simpa [and_assoc] using hc⟩,
      fun h => ⟨h.ne_nil, by simpa [Option.all_eq_true] using h.head,
        by simpa [Option.all_eq_true, and_assoc] using h.last, by simpa [and_assoc] using h.chars⟩⟩

namespace Text

/-- A name and its value on a line of their own. -/
def entry (p : Text × Text) : Text :=
  ' ' :: ' ' :: ' ' :: ' ' :: (p.1 ++ ':' :: ' ' :: (p.2 ++ [';', '\n']))

/-- Names and values in one literal. -/
def sheet (ps : List (Text × Text)) : Text :=
  'c' :: 's' :: 's' :: '\x60' :: '\n' :: (ps.flatMap entry ++ ['\x60'])

/-- The declaration of an entry that stands on the given line. -/
def entered (uri : Uri) (line : Nat) (p : Text × Text) : Declaration :=
  ⟨p.1, p.2, uri, ⟨⟨line, 4⟩, ⟨line, 4 + p.1.length⟩⟩⟩

theorem lower_entered (uri : Uri) (n line : Nat) (p : Text × Text) :
    (entered uri line p).lower n = entered uri (n + line) p := rfl

theorem unitSize_eq_length {t : Text} (h : ∀ c ∈ t, c.toNat < 0x10000) :
    unitSize t = t.length := by
  induction t with
  | nil => rfl
  | cons c t ih =>
    obtain ⟨hc, ht⟩ := List.forall_mem_cons.1 h
    rw [unitSize_cons, unitsOf, if_pos hc, ih ht, List.length_cons, Nat.add_comm]

end Text

theorem lt_of_isAlphanum {c : Char} (h : c.isAlphanum = true) : c.toNat < 128 := by
  change (decide ('A'.val ≤ c.val ∧ c.val ≤ 'Z'.val) ||
    (decide ('a'.val ≤ c.val) && decide (c.val ≤ 'z'.val)) ||
    (decide ('0'.val ≤ c.val) && decide (c.val ≤ '9'.val))) = true at h
  simp only [Bool.or_eq_true, Bool.and_eq_true, decide_eq_true_eq, UInt32.le_iff_toNat_le] at h
  have hc : c.toNat = c.val.toNat := rfl
  have hupper : 'Z'.val.toNat = 90 := rfl
  have hlower : 'z'.val.toNat = 122 := rfl
  have hdigit : '9'.val.toNat = 57 := rfl
  omega

namespace IsPlainName

variable {name : Text}

/-- A plain name is in ASCII and holds nothing that the reading of a text stops at. -/
theorem ascii (h : IsPlainName name) :
    ∀ c ∈ name, c.toNat < 128 ∧ c ≠ '\x60' ∧ c ≠ '\\' ∧ c ≠ '\n' := by
  intro c hc
  rcases h.chars c hc with hc | rfl
  · refine ⟨lt_of_isAlphanum hc, ?_, ?_, ?_⟩ <;>
    · rintro rfl
      exact absurd hc (by decide)
  · decide

theorem unitSize_eq (h : IsPlainName name) : Text.unitSize name = name.length := by
  apply Text.unitSize_eq_length
  intro c hc
  have hlt := (h.ascii c hc).1
  omega

theorem isDeclaredName (h : IsPlainName name) : IsDeclaredName name where
  mark := h.mark
  longer := h.longer
  chars := by
    intro c hc
    rcases h.chars c hc with h | rfl
    · simp [Match.isNameChar, h]
    · decide

end IsPlainName

namespace IsPlainValue

variable {value : Text}

theorem trimEnd_eq (h : IsPlainValue value) : Text.trimEnd value = value := by
  obtain ⟨c, t, ht⟩ := List.exists_cons_of_ne_nil (List.reverse_ne_nil_iff.2 h.ne_nil)
  have hlast : c ∈ value.getLast? := by
    rw [← List.head?_reverse, ht]
    rfl
  rw [Text.trimEnd, ht, List.dropWhile_cons_of_neg (by simp [(h.last c hlast).1]), ← ht,
    List.reverse_reverse]

/-- Cleaning takes nothing but the blank before it from a plain value. -/
theorem cleaned (h : IsPlainValue value) :
    Text.trimEnd (Text.withoutDelimiter (Text.trim (' ' :: value))) = value := by
  have hstart : Text.trimStart (' ' :: value) = value := by
    obtain ⟨c, t, rfl⟩ := List.exists_cons_of_ne_nil h.ne_nil
    have hc := h.head c rfl
    have hs : isBlank ' ' = true := by decide
    simp [Text.trimStart, hs, hc]
  have hlast : value.getLast?.any isDelimiter = false := by
    rw [Option.any_eq_false]
    intro c hc
    obtain ⟨-, hq, hd⟩ := h.last c hc
    obtain ⟨hs, hb, -⟩ := h.chars c (List.mem_of_getLast? hc)
    simp [isDelimiter, hq, hd, hs, hb]
  rw [Text.trim, hstart, h.trimEnd_eq, Text.withoutDelimiter, if_neg (by simp [hlast]),
    h.trimEnd_eq]

/-- A plain value is read up to its semicolon. -/
theorem span_append (h : IsPlainValue value) (t : Text) :
    (' ' :: (value ++ ';' :: t)).takeWhile Match.isValueChar = ' ' :: value ∧
    (' ' :: (value ++ ';' :: t)).dropWhile Match.isValueChar = ';' :: t := by
  have hchar : ∀ c ∈ ' ' :: value, Match.isValueChar c = true := by
    intro c hc
    rcases List.mem_cons.1 hc with rfl | hc
    · decide
    · simp [Match.isValueChar, (h.chars c hc).1]
  rw [← List.cons_append, List.takeWhile_append_of_pos hchar, List.dropWhile_append_of_pos hchar,
    List.takeWhile_cons_of_neg (by decide), List.dropWhile_cons_of_neg (by decide),
    List.append_nil]
  exact ⟨rfl, rfl⟩

end IsPlainValue

namespace Text

variable {ps : List (Text × Text)}

theorem map_mapIdx {α β γ : Type} (g : β → γ) (f : Nat → α → β) (l : List α) :
    (l.mapIdx f).map g = l.mapIdx fun i a => g (f i a) := by
  apply List.ext_getElem?
  intro i
  simp [Function.comp_def]

/-- An entry declares its pair, and what follows it stands one line further down. -/
theorem given_entry_append {p : Text × Text} (hn : IsPlainName p.1) (hv : IsPlainValue p.2)
    (t : Text) (uri : Uri) :
    given (entry p ++ t) uri = entered uri 0 p :: (given t uri).map (Declaration.lower 1) := by
  have hblank : ∀ t, given (' ' :: t) uri = given t uri := by
    intro t
    rw [given_cons rfl]
    simp
  have hhead : Match.head? (p.1 ++ ':' :: ' ' :: (p.2 ++ ';' :: '\n' :: t)) =
      some (p.1, ' ' :: (p.2 ++ ';' :: '\n' :: t)) :=
    Match.head?_eq_some_iff.2 ⟨hn.isDeclaredName, rfl⟩
  obtain ⟨hraw, hrest⟩ := hv.span_append ('\n' :: t)
  have hfeeds : (p.1 ++ ':' :: ' ' :: p.2).count '\n' = 0 := by
    rw [List.count_eq_zero]
    intro h
    simp only [List.mem_append, List.mem_cons] at h
    rcases h with h | h | h | h
    · exact (hn.ascii _ h).2.2.2 rfl
    · exact absurd h (by decide)
    · exact absurd h (by decide)
    · exact (hv.chars _ h).2.2.2 rfl
  have htext : entry p ++ t =
      ' ' :: ' ' :: ' ' :: ' ' :: (p.1 ++ ':' :: ' ' :: (p.2 ++ ';' :: '\n' :: t)) := by
    simp [entry]
  -- The search passes the indentation, takes the pair, and goes on at its semicolon.
  rw [htext, hblank, hblank, hblank, hblank, given_of_head? hhead, hraw, hrest, hfeeds,
    given_cons rfl, given_cons rfl, Match.declaration?]
  simp only [hv.cleaned, if_neg hv.ne_nil, hn.unitSize_eq]
  simp [entered]

/-- The entries of a sheet declare their pairs, one on each line. -/
theorem given_flatMap_entry (h : ∀ p ∈ ps, IsPlainName p.1 ∧ IsPlainValue p.2) (uri : Uri) :
    given (ps.flatMap entry) uri = ps.mapIdx (entered uri) := by
  induction ps with
  | nil => simp [given, Text.matches, Match.scan]
  | cons p ps ih =>
    obtain ⟨⟨hn, hv⟩, hps⟩ := List.forall_mem_cons.1 h
    rw [List.flatMap_cons, given_entry_append hn hv, ih hps, List.mapIdx_cons, map_mapIdx]
    simp only [lower_entered, Nat.add_comm 1]

/-- All may stand between two backticks but a backtick or a backslash. -/
theorem body_of_forall {t : Text} (h : ∀ c ∈ t, c ≠ '\\' ∧ c ≠ backtick) : Body backtick t := by
  induction t with
  | nil => exact .empty
  | cons c t ih =>
    obtain ⟨⟨hb, hc⟩, ht⟩ := List.forall_mem_cons.1 h
    exact .plain hb hc (fun _ => rfl) (ih ht)

/-- Nothing in an entry ends its literal. -/
theorem ne_of_mem_entry {p : Text × Text} (hn : IsPlainName p.1) (hv : IsPlainValue p.2) {c : Char}
    (hc : c ∈ entry p) : c ≠ '\\' ∧ c ≠ backtick := by
  simp only [entry, List.mem_cons, List.mem_append, List.not_mem_nil, or_false] at hc
  rcases hc with rfl | rfl | rfl | rfl | hc | rfl | rfl | hc | rfl | rfl
  case inr.inr.inr.inr.inl =>
    obtain ⟨-, hq, hb, -⟩ := hn.ascii c hc
    exact ⟨hb, hq⟩
  case inr.inr.inr.inr.inr.inr.inr.inl =>
    obtain ⟨-, hq, hb, -⟩ := hv.chars c hc
    exact ⟨hb, hq⟩
  all_goals decide

/-- A sheet is read as one literal. -/
theorem regions_sheet (h : ∀ p ∈ ps, IsPlainName p.1 ∧ IsPlainValue p.2) :
    (sheet ps).regions = [⟨.literal, '\n' :: ps.flatMap entry, 4⟩] := by
  have hbody : Body backtick ('\n' :: ps.flatMap entry) := by
    apply body_of_forall
    intro c hc
    rcases List.mem_cons.1 hc with rfl | hc
    · decide
    obtain ⟨p, hp, hc⟩ := List.mem_flatMap.1 hc
    obtain ⟨hn, hv⟩ := h p hp
    exact ne_of_mem_entry hn hv hc
  have hplain : ∀ {c : Char} {t : Text}, c ≠ '/' → ¬ (c = '/' ∧ t.head? = some '/') :=
    fun hc h => hc h.1
  have hclose : Reads 0 (sheet ps) [⟨.literal, '\n' :: ps.flatMap entry, 4⟩] :=
    .other (by decide) (hplain (by decide)) <| .other (by decide) (hplain (by decide)) <|
      .other (by decide) (hplain (by decide)) <| .literal (by decide) hbody (.done _)
  rw [regions_eq]
  exact hclose.eq_regionsFrom.symm

/-- What stands above the first entry of a sheet is one line feed. -/
theorem written_sheet (h : ∀ p ∈ ps, IsPlainName p.1 ∧ IsPlainValue p.2) (uri : Uri) :
    (sheet ps).written uri = ps.mapIdx fun i => entered uri (i + 1) := by
  have habove : ((sheet ps).utf8.take 4).count 0x0A = 0 :=
    count_take_append ['c', 's', 's', '\x60'] ('\n' :: (ps.flatMap entry ++ ['\x60'])) 0
  rw [written_eq_flatMap, regions_sheet h, List.flatMap_singleton, writtenIn]
  simp only [habove, Declaration.lower_zero, List.map_id]
  rw [given_cons rfl, given_flatMap_entry h, map_mapIdx]
  simp only [List.count_singleton_self, lower_entered, Nat.add_comm 1]

/-- What a sheet of plain names and values declares is what was written into it. -/
theorem declarations_sheet (hd : (ps.map (·.1)).Nodup)
    (h : ∀ p ∈ ps, IsPlainName p.1 ∧ IsPlainValue p.2) (uri : Uri) :
    (sheet ps).declarations uri =
      ps.mapIdx fun i p => ⟨p.1, p.2, uri, ⟨⟨i + 1, 4⟩, ⟨i + 1, 4 + p.1.length⟩⟩⟩ := by
  have hnames : ((ps.mapIdx fun i => entered uri (i + 1)).map (·.name)).Nodup := by
    have heq : (ps.mapIdx fun i => entered uri (i + 1)).map (·.name) = ps.map (·.1) := by
      apply List.ext_getElem?
      intro i
      simp [Function.comp_def, entered]
    rw [heq]
    exact hd
  rw [declarations_eq, written_sheet h, Index.firsts_of_nodup hnames]
  rfl

end Text

/-! Values that look like declarations, start a comment or hold quotes, a carriage return or
characters of more than one byte. -/

namespace Sample

def sheetUri : Uri := ⟨"file".toList, some .nobody, "/w/sheet.ts".toList, none, none⟩

def pairs : List (Text × Text) :=
  [("--a".toList, "'--b: 1px' // \"no".toList), ("--B-2".toList, "é\r--a:😀".toList),
    ("---".toList, "--b:".toList)]

end Sample

namespace Text

theorem declarations_sheet_of_sample :
    (Sample.pairs.map (·.1)).Nodup ∧
    (∀ p ∈ Sample.pairs, IsPlainName p.1 ∧ IsPlainValue p.2) ∧
    (sheet Sample.pairs).declarations Sample.sheetUri =
      [⟨"--a".toList, "'--b: 1px' // \"no".toList, Sample.sheetUri, ⟨⟨1, 4⟩, ⟨1, 7⟩⟩⟩,
        ⟨"--B-2".toList, "é\r--a:😀".toList, Sample.sheetUri, ⟨⟨2, 4⟩, ⟨2, 9⟩⟩⟩,
        ⟨"---".toList, "--b:".toList, Sample.sheetUri, ⟨⟨3, 4⟩, ⟨3, 7⟩⟩⟩] := by
  have hd : (Sample.pairs.map (·.1)).Nodup := by decide +kernel
  have h : ∀ p ∈ Sample.pairs, IsPlainName p.1 ∧ IsPlainValue p.2 := by decide +kernel
  exact ⟨hd, h, (declarations_sheet hd h Sample.sheetUri).trans (by decide)⟩

end Text

end CustomProps
