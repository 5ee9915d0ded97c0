import CustomProps.Proofs.NameInLine
import Mathlib.Order.Bounds.Basic

/-!
Columns and bytes of one line. The cuts of a line have both a byte offset and a column, and both
grow from one cut to the next. So a cut comes back from its column, and a column that lies inside a
character of two units leads to the end of that character, the first cut that is not before it. A
column behind the line leads to its end.
-/

namespace CustomProps

namespace Text

variable {line : Text}

/-- The cuts are the ends of the beginnings of a text. -/
theorem isCut_iff {n : Nat} : line.isCut n = true ↔ ∃ x z, line = x ++ z ∧ n = byteSize x := by
  constructor
  · intro h
    induction line generalizing n with
    | nil => exact ⟨[], [], rfl, by simpa [isCut] using h⟩
    | cons c line ih =>
      by_cases hn : n = 0
      · exact ⟨[], c :: line, rfl, hn⟩
      · obtain ⟨hle, hcut⟩ : c.utf8Size ≤ n ∧ isCut line (n - c.utf8Size) = true := by
          simpa [isCut, hn] using h
        obtain ⟨x, z, rfl, hx⟩ := ih hcut
        exact ⟨c :: x, z, rfl, by rw [byteSize_cons]; omega⟩
  · rintro ⟨x, z, rfl, rfl⟩
    exact isCut_append x z

/-- A column leads no farther than a cut exactly if it is not behind the cut's column, or the cut is
the end of the line. -/
theorem columnToByte_le_iff (x z : Text) (column : Nat) :
    columnToByte (x ++ z) column ≤ byteSize x ↔ column ≤ unitSize x ∨ z = [] := by
  induction x generalizing column with
  | nil =>
    cases z with
    | nil => simp [columnToByte]
    | cons c z =>
      have hc := c.utf8Size_pos
      by_cases hcolumn : column = 0
      · simp [columnToByte, hcolumn]
      · have hlt : ¬ columnToByte (c :: z) column ≤ 0 := by
          rw [columnToByte, if_neg hcolumn]
          omega
        simpa using iff_of_false hlt hcolumn
  | cons c x ih =>
    by_cases hcolumn : column = 0
    · simp [columnToByte, hcolumn]
    · rw [List.cons_append, columnToByte, if_neg hcolumn, byteSize_cons, Nat.add_le_add_iff_left,
        ih, unitSize_cons, Nat.sub_le_iff_le_add']

theorem byteToColumn_mono (line : Text) {a b : Nat} (h : a ≤ b) :
    byteToColumn line a ≤ byteToColumn line b := by
  simp only [byteToColumn]
  induction line generalizing a b with
  | nil => exact Nat.le_refl _
  | cons c line ih =>
    by_cases ha : c.utf8Size ≤ a
    · rw [takeBytes, takeBytes, if_pos ha, if_pos (ha.trans h), unitSize_cons, unitSize_cons]
      exact Nat.add_le_add_left (ih (Nat.sub_le_sub_right h _)) _
    · simp [takeBytes, ha]

/-- The cuts of a line that a column does not lie behind. -/
def cutsFrom (line : Text) (column : Nat) : Set Nat :=
  { n | line.isCut n = true ∧ column ≤ byteToColumn line n }

/-- A column leads to the first of these cuts. -/
theorem isLeast_columnToByte {column : Nat} (h : column ≤ unitSize line) :
    IsLeast (cutsFrom line column) (columnToByte line column) := by
  constructor
  · obtain ⟨x, z, rfl, hx⟩ := exists_columnToByte line column
    refine ⟨isCut_iff.2 ⟨x, z, rfl, hx⟩, ?_⟩
    rw [hx, byteToColumn_append]
    rcases (columnToByte_le_iff x z column).1 hx.le with hle | rfl
    · exact hle
    · simpa using h
  · rintro n ⟨hcut, hle⟩
    obtain ⟨x, z, rfl, rfl⟩ := isCut_iff.1 hcut
    rw [byteToColumn_append] at hle
    exact (columnToByte_le_iff x z column).2 (.inl hle)

/-- No cut is left from a column behind the line, and the column leads to the end. -/
theorem columnToByte_of_unitSize_lt {column : Nat} (h : unitSize line < column) :
    cutsFrom line column = ∅ ∧ columnToByte line column = byteSize line := by
  constructor
  · rw [Set.eq_empty_iff_forall_notMem]
    rintro n ⟨hcut, hle⟩
    obtain ⟨x, z, rfl, rfl⟩ := isCut_iff.1 hcut
    rw [byteToColumn_append] at hle
    rw [unitSize_append] at h
    omega
  · obtain ⟨x, z, rfl, hx⟩ := exists_columnToByte line column
    rcases (columnToByte_le_iff x z column).1 hx.le with hle | rfl
    · rw [unitSize_append] at h
      omega
    · rw [hx, List.append_nil]

/-- A cut has a column, which leads back to it; a column leads to the first cut whose column is not
less, or to the end of the line if there is none; and both ways keep the order. -/
theorem columns_and_cuts (line : Text) :
    (∀ n, line.isCut n = true →
      line.column? n = some (line.byteToColumn n) ∧
        line.columnToByte (line.byteToColumn n) = n) ∧
    (∀ column,
      IsLeast (cutsFrom line column) (line.columnToByte column) ∨
        cutsFrom line column = ∅ ∧ line.columnToByte column = byteSize line) ∧
    Monotone line.columnToByte ∧ Monotone line.byteToColumn := by
  refine ⟨?_, ?_, fun _ _ h => columnToByte_mono line h, fun _ _ h => byteToColumn_mono line h⟩
  · intro n hcut
    obtain ⟨x, z, rfl, rfl⟩ := isCut_iff.1 hcut
    have hle : byteSize x ≤ byteSize (x ++ z) := by simp
    rw [column?, Nat.min_eq_left hle, if_pos hcut, byteToColumn_append, columnToByte_append]
    exact ⟨rfl, rfl⟩
  · intro column
    rcases Nat.lt_or_ge (unitSize line) column with h | h
    · exact .inr (columnToByte_of_unitSize_lt h)
    · exact .inl (isLeast_columnToByte h)

/-- Behind a character of two bytes and one of two units the column is the third; the second, which
lies inside the latter, leads there as well. -/
theorem columns_and_cuts_of_sample :
    isCut "é😀c".toList 6 = true ∧ byteToColumn "é😀c".toList 6 = 3 ∧
    columnToByte "é😀c".toList 3 = 6 ∧ columnToByte "é😀c".toList 2 = 6 ∧
    IsLeast (cutsFrom "é😀c".toList 2) 6 := by
  have hcut : isCut "é😀c".toList 6 = true := by decide
  have hcolumn : byteToColumn "é😀c".toList 6 = 3 := by decide
  have hinside : columnToByte "é😀c".toList 2 = 6 := by decide
  obtain ⟨hback, hleast, -⟩ := columns_and_cuts "é😀c".toList
  have hsix := (hback 6 hcut).2
  rw [hcolumn] at hsix
  have h := hleast 2
  rw [hinside] at h
  refine ⟨hcut, hcolumn, hsix, hinside, h.resolve_right ?_⟩
  rintro ⟨hempty, -⟩
  have hmem : 6 ∈ cutsFrom "é😀c".toList 2 := ⟨hcut, by decide⟩
  rw [hempty] at hmem
  exact hmem

end Text

end CustomProps
