import CustomProps.Proofs.Answers
import CustomProps.Proofs.NameInLine

/-!
The characters of declared names. The search for declarations takes letters by their case variants,
so besides the letters, digits and dashes of ASCII a declared name may hold the long s and the
Kelvin sign. Tokens are made of ASCII alone. A document declares names that its tokens can hold
exactly if no match with a value in its literals has one of the two characters, and any name of the
wider alphabet is declared by some document.
-/

namespace CustomProps

open Text Token

/-- The name characters outside ASCII: the long s and the Kelvin sign, whose case variants are
letters of ASCII. -/
def foldedChars : List Char := ['\u017F', '\u212A']

theorem eq_of_mem_foldedChars {c : Char} (h : c ∈ foldedChars) : c = '\u017F' ∨ c = '\u212A' := by
  simpa [foldedChars] using h

theorem Token.not_mem_foldedChars {c : Char} (h : isVariableChar c = true) : c ∉ foldedChars := by
  intro hc
  rcases eq_of_mem_foldedChars hc with rfl | rfl
  · exact absurd h (by decide)
  · exact absurd h (by decide)

namespace Match

theorem isNameChar_iff (c : Char) :
    isNameChar c = true ↔ (c.isAlphanum = true ∨ c = '-') ∨ c ∈ foldedChars := by
  simp only [isNameChar, foldedChars, Bool.or_eq_true, beq_iff_eq, List.mem_cons,
    List.not_mem_nil, or_false, or_assoc]

/-- A name character is one of a token exactly if it is in ASCII. -/
theorem isVariableChar_iff {c : Char} (h : isNameChar c = true) :
    isVariableChar c = true ↔ c ∉ foldedChars := by
  constructor
  · exact not_mem_foldedChars
  · intro hc
    rcases ((isNameChar_iff c).1 h).resolve_right hc with ha | rfl
    · simp [isVariableChar, ha]
    · decide

end Match

namespace IsDeclaredName

variable {name : Text}

theorem isVariableChar_iff (h : IsDeclaredName name) :
    (∀ c ∈ name, isVariableChar c = true) ↔ ∀ c ∈ name, c ∉ foldedChars :=
  forall₂_congr fun c hc => Match.isVariableChar_iff (h.chars c hc)

theorem isPlainName_iff (h : IsDeclaredName name) :
    IsPlainName name ↔ ∀ c ∈ name, c ∉ foldedChars := by
  rw [← h.isVariableChar_iff]
  constructor
  · exact fun hn => hn.isVariableChar
  · intro hv
    refine ⟨h.mark, h.longer, fun c hc => ?_⟩
    have hname := h.chars c hc
    exact ((Match.isNameChar_iff c).1 hname).resolve_right
      ((Match.isVariableChar_iff hname).1 (hv c hc))

/-- A declared name may stand in a literal as it is. -/
theorem body (h : IsDeclaredName name) (value : Text)
    (hv : ∀ c ∈ value, c ≠ '\\' ∧ c ≠ backtick) : Body backtick (name ++ ':' :: value) := by
  apply body_of_forall
  intro c hc
  rcases List.mem_append.1 hc with hc | hc
  · have hname := h.chars c hc
    constructor <;>
    · rintro rfl
      exact absurd hname (by decide)
  rcases List.mem_cons.1 hc with rfl | hc
  · decide
  · exact hv c hc

/-- Every name of the alphabet is declared by some document. -/
theorem exists_declared (h : IsDeclaredName name) (uri : Uri) :
    ∃ t, ∃ d ∈ Text.declarations t uri, d.name = name := by
  have hhead : Match.head? (name ++ [':', '0']) = some (name, ['0']) :=
    Match.head?_eq_some_iff.2 ⟨h, rfl⟩
  have hvalue : trimEnd (withoutDelimiter (trim ['0'])) = ['0'] := by decide
  have hraw : ['0'].takeWhile Match.isValueChar = ['0'] := by decide
  have hbody : Body backtick (name ++ ':' :: ['0']) := by
    apply h.body
    intro c hc
    rw [List.mem_singleton.1 hc]
    decide
  refine ⟨backtick :: (name ++ [':', '0'] ++ backtick :: []), ?_⟩
  have hmem : name ∈
      (Text.declarations (backtick :: (name ++ [':', '0'] ++ backtick :: [])) uri).map (·.name) := by
    rw [declarations_eq, Index.mem_map_name_firsts,
      written_literal (by decide) hbody, given_of_head? hhead, hraw, Match.declaration?]
    simp [hvalue]
  obtain ⟨d, hd, hn⟩ := List.mem_map.1 hmem
  exact ⟨d, hd, hn⟩

end IsDeclaredName

namespace Text

/-- The names that a document declares are those of its matches with a value. -/
theorem mem_map_name_declarations (t : Text) (uri : Uri) (name : Text) :
    name ∈ (t.declarations uri).map (·.name) ↔
      ∃ m ∈ t.literalMatches, normalValue m.rawValue ≠ [] ∧ m.name = name := by
  rw [declarations_eq, Index.mem_map_name_firsts, written, ← literalMatches_eq, List.mem_map]
  simp only [List.mem_filterMap, Match.declaration?, ← normalValue_eq]
  constructor
  · rintro ⟨d, ⟨m, hm, hd⟩, rfl⟩
    split at hd
    · cases hd
    · rename_i hv
      cases hd
      exact ⟨m, hm, hv, rfl⟩
  · rintro ⟨m, hm, hv, rfl⟩
    exact ⟨_, ⟨m, hm, if_neg hv⟩, rfl⟩

/-- Every declared name is two dashes and one or more name characters, and it is in ASCII exactly if
a token can hold it. All names of a document are, exactly if no match with a value in its literals
has a long s or a Kelvin sign in its name. -/
theorem declared_names_plain_iff (t : Text) (uri : Uri) :
    (∀ d ∈ t.declarations uri, IsDeclaredName d.name ∧
      (IsPlainName d.name ↔ ∀ c ∈ d.name, isVariableChar c = true)) ∧
    ((∀ d ∈ t.declarations uri, IsPlainName d.name) ↔
      ∀ m ∈ t.literalMatches, normalValue m.rawValue ≠ [] → ∀ c ∈ m.name, c ∉ foldedChars) := by
  have hdeclared : ∀ d ∈ t.declarations uri, ∃ m ∈ t.literalMatches,
      normalValue m.rawValue ≠ [] ∧ m.name = d.name := fun d hd =>
    (mem_map_name_declarations t uri d.name).1 (List.mem_map_of_mem hd)
  constructor
  · intro d hd
    obtain ⟨m, hm, -, hn⟩ := hdeclared d hd
    have hname := isDeclaredName_of_mem_literalMatches hm
    rw [hn] at hname
    exact ⟨hname, hname.isPlainName_iff.trans hname.isVariableChar_iff.symm⟩
  · constructor
    · intro h m hm hv
      obtain ⟨d, hd, hn⟩ := List.mem_map.1
        ((mem_map_name_declarations t uri m.name).2 ⟨m, hm, hv, rfl⟩)
      have hplain := h d hd
      rw [hn] at hplain
      exact (isDeclaredName_of_mem_literalMatches hm).isPlainName_iff.1 hplain
    · intro h d hd
      obtain ⟨m, hm, hv, hn⟩ := hdeclared d hd
      rw [← hn]
      exact (isDeclaredName_of_mem_literalMatches hm).isPlainName_iff.2 (h m hm hv)

end Text

/-! Two declarations, one of a name with a Kelvin sign. -/

namespace Sample

def kelvinText : Text := "css`--\u212A: 1px; --b: 2px`".toList

end Sample

namespace Text

theorem declared_names_plain_iff_of_sample :
    ∃ d ∈ Sample.kelvinText.declarations Sample.sheetUri, d.name = "--b".toList ∧
      (∀ c ∈ d.name, isVariableChar c = true) ∧ IsPlainName d.name := by
  have hd : (⟨"--b".toList, "2px".toList, Sample.sheetUri, ⟨⟨0, 4⟩, ⟨0, 7⟩⟩⟩ : Declaration) ∈
      Sample.kelvinText.declarations Sample.sheetUri := by
    decide +kernel
  have hchars : ∀ c ∈ "--b".toList, isVariableChar c = true := List.all_eq_true.1 (by decide)
  have hname := (declared_names_plain_iff Sample.kelvinText Sample.sheetUri).1 _ hd
  exact ⟨_, hd, rfl, hchars, hname.2.2 hchars⟩

theorem kelvin_name_is_declared :
    ∃ d ∈ Sample.kelvinText.declarations Sample.sheetUri, d.name = "--\u212A".toList ∧
      ¬ IsPlainName d.name ∧ isVariableChar '\u212A' = false :=
  ⟨⟨"--\u212A".toList, "1px".toList, Sample.sheetUri, ⟨⟨0, 4⟩, ⟨0, 7⟩⟩⟩, by decide +kernel, rfl,
    by decide, by decide⟩

end Text

/-- Where no call `var(--` stands around a position, no name with one of the two characters is read
there, also where it is declared there. -/
theorem Token.not_mem_foldedChars_of_variableAt {t line left token right name : Text}
    {position : Position} (hl : t.line? position.line = some line)
    (ht : Touches isNonBlank line position.column left token right)
    (hcall : ¬ namedCallMark <:+: token) (h : variableAt t position = .ok name) :
    ∀ c ∈ name, c ∉ foldedChars := by
  obtain ⟨before, run, after, hr⟩ := exists_touches isVariableChar line position.column
  rw [(variableAt_of_touches hl ht hr).1 hcall, asName] at h
  split at h
  · cases h
    exact fun c hc => not_mem_foldedChars (hr.holds c hc)
  · cases h

end CustomProps
