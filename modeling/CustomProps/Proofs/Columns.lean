import CustomProps.Proofs.Cursor
import CustomProps.Proofs.Grammar

/-!
Two ways from a column to an offset. A position of the whole text and a column of a line by itself
lead to the same place where a character of the line starts and where the line ends. Any other
column leads to the next character of the line by itself, but in the whole text to the line feed.
So the two part inside a character of two units, unless it is the last of its line, and behind the
end of a line that a carriage return ends.
-/

namespace CustomProps

namespace Text

/-- Whether a column falls between two characters, or at an end, of a line. -/
def isColumnCut : Text → Nat → Bool
  | [], n => n == 0
  | c :: t, n => n == 0 || (unitsOf c ≤ n && isColumnCut t (n - unitsOf c))

/-- Where the text of a line starts. -/
def lineStart (t : Text) (n : Nat) : Nat := byteSize (beforeLine n t)

@[simp] theorem isColumnCut_zero (line : Text) : isColumnCut line 0 = true := by
  cases line <;> rfl

/-- The columns of cuts are those behind the beginnings of the line. -/
theorem isColumnCut_iff (line : Text) (column : Nat) :
    line.isColumnCut column = true ↔ ∃ x z, line = x ++ z ∧ column = unitSize x := by
  induction line generalizing column with
  | nil =>
    constructor
    · intro h
      exact ⟨[], [], rfl, by simpa [isColumnCut] using h⟩
    · rintro ⟨x, z, h, rfl⟩
      rw [(List.append_eq_nil_iff.1 h.symm).1]
      rfl
  | cons c line ih =>
    constructor
    · intro h
      by_cases hz : column = 0
      · exact ⟨[], c :: line, rfl, hz⟩
      · obtain ⟨hle, hcut⟩ : unitsOf c ≤ column ∧ isColumnCut line (column - unitsOf c) = true := by
          simpa [isColumnCut, hz] using h
        obtain ⟨x, z, rfl, hx⟩ := (ih _).1 hcut
        exact ⟨c :: x, z, rfl, by rw [unitSize_cons]; omega⟩
    · rintro ⟨x, z, h, rfl⟩
      cases x with
      | nil => exact isColumnCut_zero _
      | cons d x =>
        obtain ⟨rfl, hline⟩ := List.cons.inj h
        have hcut := (ih (unitSize x)).2 ⟨x, z, hline, rfl⟩
        simp [isColumnCut, hcut]

/-- Behind a column that was passed the whole line is taken. -/
theorem toColumn_of_lt {column here : Nat} (h : column < here) (line : Text) :
    toColumn column here line = line := by
  induction line generalizing here with
  | nil => rfl
  | cons c line ih =>
    have hc := unitsOf_pos c
    rw [toColumn, if_neg (by omega), ih (by omega)]

/-- A column at which no character starts is passed. -/
theorem toColumn_of_not_isColumnCut {column here : Nat} (hh : here ≤ column) {line : Text}
    (h : line.isColumnCut (column - here) = false) : toColumn column here line = line := by
  induction line generalizing here with
  | nil => rfl
  | cons c line ih =>
    obtain ⟨hne, hrest⟩ : column - here ≠ 0 ∧
        (unitsOf c ≤ column - here → isColumnCut line (column - here - unitsOf c) = false) := by
      simpa [isColumnCut] using h
    rw [toColumn, if_neg (by omega)]
    by_cases hle : unitsOf c ≤ column - here
    · have hcut := hrest hle
      rw [Nat.sub_sub] at hcut
      rw [ih (by omega) hcut]
    · rw [toColumn_of_lt (by omega)]

/-- The column of a cut leads to the same beginning in a line and in what the line begins. -/
theorem toColumn_of_isColumnCut {line : Text} {column : Nat} (h : line.isColumnCut column = true)
    (e : Text) : byteSize (toColumn column 0 (line ++ e)) = line.columnToByte column := by
  obtain ⟨x, z, rfl, rfl⟩ := (isColumnCut_iff line column).1 h
  have hx := toColumn_append 0 x (z ++ e)
  rw [Nat.zero_add] at hx
  rw [columnToByte_append, List.append_assoc, hx]

/-- A column of no cut leads behind the line, carriage return and all. -/
theorem toColumn_lineOf {line : Text} {column : Nat}
    (h : (dropReturn line).isColumnCut column = false) : toColumn column 0 line = line := by
  by_cases hcut : line.isColumnCut column = true
  · obtain ⟨x, z, hline, rfl⟩ := (isColumnCut_iff line column).1 hcut
    have hx : ¬ x <+: dropReturn line := by
      rintro ⟨w, hw⟩
      rw [(isColumnCut_iff _ _).2 ⟨x, w, hw.symm, rfl⟩] at h
      cases h
    have hall : x = line := by
      by_cases hr : line.getLast? = some '\r'
      · obtain ⟨s, rfl⟩ := List.getLast?_eq_some_iff.1 hr
        rw [dropReturn_append] at hx
        exact (List.prefix_concat_iff.1 ⟨z, hline.symm⟩).resolve_right hx
      · rw [dropReturn_of_getLast? hr] at hx
        exact absurd ⟨z, hline.symm⟩ hx
    have htake := toColumn_append 0 x z
    rw [Nat.zero_add, ← hline] at htake
    rw [htake, hall]
  · exact toColumn_of_not_isColumnCut (Nat.zero_le _) (by simpa using hcut)

theorem columnToByte_le (line : Text) (column : Nat) :
    line.columnToByte column ≤ byteSize line := by
  obtain ⟨x, z, hline, hx⟩ := exists_columnToByte line column
  rw [hx, hline, byteSize_append]
  exact Nat.le_add_right _ _

/-- A line that takes no more bytes than its text without the carriage return has none. -/
theorem dropReturn_eq_iff (line : Text) :
    dropReturn line = line ↔ byteSize line = byteSize (dropReturn line) := by
  constructor
  · intro h
    rw [h]
  · intro h
    obtain ⟨e, he⟩ := dropReturn_isPrefix line
    have hsize := congrArg byteSize he
    rw [byteSize_append] at hsize
    have hnil : e = [] := by
      by_contra hne
      have hpos := byteSize_pos_of_ne_nil hne
      omega
    rw [hnil, List.append_nil] at he
    exact he

/-- The offset of a position, said by its line. -/
theorem offset?_of_line? {t line : Text} {p : Position} (h : t.line? p.line = some line) :
    t.offset? p = some (t.lineStart p.line +
      if line.isColumnCut p.column then line.columnToByte p.column
      else byteSize (lineOf p.line t)) := by
  rw [line?_eq] at h
  split at h
  · rename_i hle
    cases h
    rw [offset?_of_le hle, before, byteSize_append, lineStart]
    split
    · rename_i hcut
      obtain ⟨e, he⟩ := dropReturn_isPrefix (lineOf p.line t)
      have htake := toColumn_of_isColumnCut hcut e
      rw [he] at htake
      rw [htake]
    · rename_i hcut
      rw [toColumn_lineOf (by simpa using hcut)]
  · cases h

/-- A position has an offset exactly if its line exists. The offset is that of its column on the
line exactly if the column is that of a cut, or else leads to the end of a line that no carriage
return ends; otherwise it is that of the line feed. -/
theorem offset?_on_line_iff (t : Text) (p : Position) :
    ((t.offset? p).isSome ↔ (t.line? p.line).isSome) ∧
    ∀ line, t.line? p.line = some line →
      (t.offset? p = some (t.lineStart p.line + line.columnToByte p.column) ↔
        line.isColumnCut p.column = true ∨
          lineOf p.line t = line ∧ line.columnToByte p.column = byteSize line) ∧
      (line.isColumnCut p.column = false →
        t.offset? p = some (t.lineStart p.line + byteSize (lineOf p.line t))) := by
  constructor
  · rw [offset?_eq, line?_eq]
    split <;> simp
  intro line hl
  have hoffset := offset?_of_line? hl
  constructor
  · by_cases hcut : line.isColumnCut p.column = true
    · rw [if_pos hcut] at hoffset
      exact iff_of_true hoffset (.inl hcut)
    · rw [if_neg hcut] at hoffset
      have hline : line = dropReturn (lineOf p.line t) := by
        rw [line?_eq] at hl
        split at hl
        · exact (Option.some.inj hl).symm
        · cases hl
      have hle := columnToByte_le line p.column
      have hshort := byteSize_dropReturn_le (lineOf p.line t)
      have hsame := dropReturn_eq_iff (lineOf p.line t)
      rw [← hline] at hshort hsame
      rw [hoffset, Option.some.injEq, eq_comm (a := lineOf p.line t), hsame]
      simp only [hcut, Bool.false_eq_true, false_or]
      omega
  · intro hcut
    rw [hoffset, hcut]
    rfl

end Text

/-! A line with a character of two units, under one that a carriage return ends. -/

namespace Sample

def pairLine : Text := "ab\r\n😀c".toList

end Sample

namespace Text

/-- The column behind the character of two units. -/
theorem offset?_on_line_iff_of_sample :
    Sample.pairLine.line? 1 = some "😀c".toList ∧ isColumnCut "😀c".toList 2 = true ∧
    Sample.pairLine.offset? ⟨1, 2⟩ =
      some (Sample.pairLine.lineStart 1 + columnToByte "😀c".toList 2) := by
  have hl : Sample.pairLine.line? 1 = some "😀c".toList := by decide
  have hcut : isColumnCut "😀c".toList 2 = true := by decide
  have hline := (offset?_on_line_iff Sample.pairLine ⟨1, 2⟩).2 _ hl
  exact ⟨hl, hcut, hline.1.2 (.inl hcut)⟩

/-- A column behind the end of the first line leads behind its carriage return, and the column
inside the character of two units to the end of the second line. -/
theorem columns_lead_elsewhere :
    Sample.pairLine.line? 0 = some "ab".toList ∧
    Sample.pairLine.lineStart 0 + columnToByte "ab".toList 9 = 2 ∧
    Sample.pairLine.offset? ⟨0, 9⟩ = some 3 ∧
    Sample.pairLine.line? 1 = some "😀c".toList ∧
    Sample.pairLine.lineStart 1 + columnToByte "😀c".toList 1 = 8 ∧
    Sample.pairLine.offset? ⟨1, 1⟩ = some 9 := by
  decide

end Text

end CustomProps
