import CustomProps.Proofs.Acceptance
import CustomProps.Proofs.Answers
import CustomProps.Proofs.Columns

/-!
Where the edit of a completion lies. A position of a line either falls between two characters or
into one of two units, which is neither a blank nor a parenthesis nor a character of a name. So the
token around it reaches over that character, no call is open there, and the range that is replaced
surrounds the position, from a cut of the line to a cut of the line.
-/

namespace CustomProps

open Text Token

/-- A range that an editor accepts for an edit at a position: it stays on the position's line, has
the position in it and starts and ends between characters of the line. -/
structure Range.IsEditAt (range : Range) (line : Text) (position : Position) : Prop where
  onLine : range = Range.onLine position.line range.start.column range.stop.column
  starts : range.start.column ≤ position.column
  stops : position.column ≤ range.stop.column
  inside : range.stop.column ≤ unitSize line
  startCut : line.isColumnCut range.start.column = true
  stopCut : line.isColumnCut range.stop.column = true

instance (range : Range) (line : Text) (position : Position) :
    Decidable (range.IsEditAt line position) :=
  decidable_of_iff
    (range = Range.onLine position.line range.start.column range.stop.column ∧
      range.start.column ≤ position.column ∧ position.column ≤ range.stop.column ∧
      range.stop.column ≤ unitSize line ∧ line.isColumnCut range.start.column = true ∧
      line.isColumnCut range.stop.column = true)
    ⟨fun ⟨hl, hs, he, hi, hsc, hec⟩ => ⟨hl, hs, he, hi, hsc, hec⟩,
      fun h => ⟨h.onLine, h.starts, h.stops, h.inside, h.startCut, h.stopCut⟩⟩

namespace Text

/-- A column of a line falls between two characters, or into one of two units and leads behind
it. -/
theorem exists_cut_of_le {line : Text} {column : Nat} (h : column ≤ unitSize line) :
    ∃ x z, line = x ++ z ∧ line.columnToByte column = byteSize x ∧
      (column = unitSize x ∨ ∃ y c, x = y ++ [c] ∧ unitsOf c = 2 ∧ column = unitSize y + 1) := by
  induction line generalizing column with
  | nil => exact ⟨[], [], rfl, rfl, .inl (Nat.le_zero.1 h)⟩
  | cons c line ih =>
    have hc : unitsOf c = 1 ∨ unitsOf c = 2 := by
      unfold unitsOf
      split <;> simp
    by_cases hz : column = 0
    · exact ⟨[], c :: line, rfl, by simp [columnToByte, hz], .inl hz⟩
    by_cases hle : unitsOf c ≤ column
    · rw [unitSize_cons] at h
      have hrest : column - unitsOf c ≤ unitSize line := by omega
      obtain ⟨x, z, rfl, hx, hcolumn⟩ := ih hrest
      refine ⟨c :: x, z, rfl, by rw [columnToByte, if_neg hz, hx, byteSize_cons], ?_⟩
      rcases hcolumn with hcolumn | ⟨y, d, rfl, hd, hcolumn⟩
      · left
        rw [unitSize_cons]
        omega
      · refine .inr ⟨c :: y, d, rfl, hd, ?_⟩
        rw [unitSize_cons]
        omega
    · have hinside : column - unitsOf c = 0 := by omega
      refine ⟨[c], line, rfl, ?_, .inr ⟨[], c, rfl, by omega, ?_⟩⟩
      · rw [columnToByte, if_neg hz, hinside]
        cases line <;> simp [columnToByte]
      · rw [unitSize_nil]
        omega

end Text

namespace Token

/-- Blanks lie in the basic plane. -/
theorem lt_of_isBlank {c : Char} (h : isBlank c = true) : c.toNat < 0x10000 := by
  have hall : ∀ interval ∈ blankIntervals, interval.2 < 0x10000 := by decide
  obtain ⟨interval, hmem, hc⟩ := List.any_eq_true.1 h
  have hhigh := hall interval hmem
  simp only [Bool.and_eq_true, decide_eq_true_eq] at hc
  omega

/-- A character of two units is not blank. -/
theorem isNonBlank_of_unitsOf {c : Char} (h : unitsOf c = 2) : isNonBlank c = true := by
  cases hb : isBlank c with
  | false => rw [isNonBlank, hb, Bool.not_false]
  | true =>
    rw [unitsOf, if_pos (lt_of_isBlank hb)] at h
    cases h

/-- Characters of a name are in ASCII. -/
theorem lt_of_isVariableChar {c : Char} (h : isVariableChar c = true) : c.toNat < 128 := by
  simp only [isVariableChar, Bool.or_eq_true, beq_iff_eq] at h
  rcases h with (h | rfl) | rfl
  · exact lt_of_isAlphanum h
  · decide
  · decide

/-- A run that takes in all characters of two units has every column in it by which it is
touched. -/
theorem Touches.column_mem {p : Char → Bool} {line left run right : Text} {column : Nat}
    (h : Touches p line column left run right) (hp : ∀ c, unitsOf c = 2 → p c = true)
    (hc : column ≤ unitSize line) :
    unitSize left ≤ column ∧ column ≤ unitSize (left ++ run) := by
  obtain ⟨x, z, hx, hcut, hcolumn⟩ := exists_cut_of_le hc
  have hleft : left <+: x := by
    apply isPrefix_of_byteSize_le ⟨_, h.eq.symm⟩ ⟨z, hx.symm⟩
    rw [← hcut]
    exact h.starts
  have hrun : x <+: left ++ run := by
    apply isPrefix_of_byteSize_le ⟨z, hx.symm⟩ ⟨right, h.eq_append.symm⟩
    rw [← hcut]
    exact h.stops
  have hstop : unitSize x ≤ unitSize (left ++ run) := by
    obtain ⟨e, he⟩ := hrun
    rw [← he, unitSize_append]
    exact Nat.le_add_right _ _
  rcases hcolumn with rfl | ⟨y, c, rfl, hpair, rfl⟩
  · refine ⟨?_, hstop⟩
    obtain ⟨e, rfl⟩ := hleft
    rw [unitSize_append]
    exact Nat.le_add_right _ _
  · -- The run starts before the character, which would otherwise end what is left of the run.
    rw [unitSize_append, unitSize_cons, hpair] at hstop
    refine ⟨?_, by rw [unitSize_nil] at hstop; omega⟩
    rcases List.prefix_concat_iff.1 hleft with rfl | ⟨e, rfl⟩
    · have hnot := h.before c (by simp)
      rw [hp c hpair] at hnot
      cases hnot
    · rw [unitSize_append]
      omega

end Token

/-- A range between two cuts of a line with the position between them. -/
theorem Range.isEditAt_of_append {line x y z : Text} {position : Position}
    (hl : line = x ++ y ++ z) (hs : unitSize x ≤ position.column)
    (he : position.column ≤ unitSize (x ++ y)) :
    (Range.onLine position.line (unitSize x) (unitSize (x ++ y))).IsEditAt line position where
  onLine := rfl
  starts := hs
  stops := he
  inside := by
    rw [hl, unitSize_append (x ++ y)]
    exact Nat.le_add_right _ _
  startCut := (isColumnCut_iff _ _).2 ⟨x, y ++ z, by rw [hl, List.append_assoc], rfl⟩
  stopCut := (isColumnCut_iff _ _).2 ⟨x ++ y, z, hl, rfl⟩

/-- The token at a position of the line is replaced as an edit there, also where it is empty. -/
theorem CursorLine.isEditAt_replaced {line : Text} {position : Position}
    (h : position.column ≤ unitSize line) :
    (ofLine line position).replaced.IsEditAt line position := by
  obtain ⟨left, token, right, ht⟩ := exists_touches isNonBlank line position.column
  obtain ⟨hs, he⟩ := ht.column_mem (fun _ => isNonBlank_of_unitsOf) h
  have hreplaced : (ofLine line position).replaced =
      Range.onLine position.line (unitSize left) (unitSize (left ++ token)) := by
    simp only [ofLine, ht.range?_eq]
    split
    · -- An empty token stands at the position itself.
      rename_i hempty
      rw [hempty, List.append_nil] at he ⊢
      have hcolumn : position.column = unitSize left := Nat.le_antisymm he hs
      rw [Option.getD_none, Range.at, Range.onLine, ← hcolumn]
    · rfl
  rw [hreplaced]
  exact Range.isEditAt_of_append ht.eq_append hs he

namespace OpenCall

/-- Where a call is open, the position falls between two characters. -/
theorem IsOpen.column_eq {line front typed : Text} {column : Nat}
    (h : IsOpen line column front typed) (hc : column ≤ unitSize line) :
    column = unitSize (front ++ (callMark ++ typed)) := by
  obtain ⟨x, z, rfl, hcut, hcolumn⟩ := exists_cut_of_le hc
  have hx : x = front ++ (callMark ++ typed) := by
    have heq := h.eq
    rwa [hcut, takeBytes_append] at heq
  rcases hcolumn with hcolumn | ⟨y, c, rfl, hpair, -⟩
  · rw [hcolumn, hx]
  · -- The character before the position is the parenthesis or one of a name.
    have hlast : (callMark ++ typed).getLast? = some c := by
      have hne : (callMark ++ typed).getLast?.isSome = true := by simp [callMark]
      have heq := congrArg List.getLast? hx
      rw [List.getLast?_concat, List.getLast?_append, Option.or_of_isSome hne] at heq
      exact heq.symm
    have hmark : callMark.all (·.toNat < 128) = true := by decide
    have hlt : c.toNat < 128 := by
      rcases List.mem_append.1 (List.mem_of_getLast? hlast) with hc | hc
      · exact of_decide_eq_true (List.all_eq_true.1 hmark c hc)
      · exact lt_of_isVariableChar (h.chars c hc)
    rw [unitsOf, if_pos (by omega)] at hpair
    cases hpair

/-- A name is completed by an edit at the position. -/
theorem IsOpen.isEditAt {line front typed name : Text} {position : Position}
    (h : IsOpen line position.column front typed) (hc : position.column ≤ unitSize line)
    (hn : nameMark <+: name) (replaced : Range) (propertyLine : Bool) :
    ∃ insertion, Insertion.resolve? name position replaced line propertyLine = some insertion ∧
      insertion.range.IsEditAt line position := by
  have htyped : typed.takeWhile (· == '-') ++ typed.dropWhile (· == '-') = typed :=
    List.takeWhile_append_dropWhile
  obtain ⟨remaining, middle, after, trail, -, hline, ⟨u, rfl⟩, -, -, hi⟩ :=
    exists_complete? h.stands hn position
  have hcolumn := h.column_eq hc
  rw [← htyped] at hcolumn
  refine ⟨_, by rw [Insertion.resolve?, h.before?_eq]; exact hi,
    Range.isEditAt_of_append hline ?_ ?_⟩
  · rw [hcolumn]
    simp only [unitSize_append]
    omega
  · rw [hcolumn]
    simp only [unitSize_append]
    omega

end OpenCall

namespace CompletionItem

/-- The item of a name is an edit at the position, by whichever rule the name is inserted. -/
theorem exists_isEditAt {d : Declaration} (hn : nameMark <+: d.name) {line : Text}
    {position : Position} (hc : position.column ≤ unitSize line) (swatches : Bool) :
    ∃ item, build? d (CursorLine.ofLine line position) swatches = some item ∧
      item.replaced.IsEditAt line position := by
  have hinsertion : ∃ insertion,
      Insertion.resolve? d.name position (CursorLine.ofLine line position).replaced line
        (CursorLine.ofLine line position).propertyLine = some insertion ∧
      insertion.range.IsEditAt line position := by
    cases ho : OpenCall.before? position line with
    | some call =>
      obtain ⟨front, typed, hopen, -⟩ := OpenCall.exists_isOpen ho
      exact hopen.isEditAt hc hn _ _
    | none =>
      have hreplaced := CursorLine.isEditAt_replaced hc
      simp only [Insertion.resolve?, ho]
      split
      · exact ⟨_, rfl, hreplaced⟩
      split
      · exact ⟨_, rfl, hreplaced⟩
      · exact ⟨_, rfl, hreplaced⟩
  obtain ⟨insertion, hi, hedit⟩ := hinsertion
  obtain ⟨item, hb, -, hr⟩ :
      ∃ item, build? d (CursorLine.ofLine line position) swatches = some item ∧
        item.insertText = insertion.text ∧ item.replaced = insertion.range :=
    exists_build?_of_resolve? hi swatches
  exact ⟨item, hb, by rw [hr]; exact hedit⟩

/-- In every document, at every position of a line that is there, each declaration of whatever text
has an item, and it is an edit at the position. -/
theorem extracted_item_isEditAt {t line : Text} {position : Position}
    (hl : t.line? position.line = some line) (hc : position.column ≤ unitSize line)
    {source : Text} {uri : Uri} {d : Declaration} (hd : d ∈ source.declarations uri)
    (swatches : Bool) :
    ∃ cursor item, CursorLine.ofDocument? t position = some cursor ∧
      build? d cursor swatches = some item ∧ item.replaced.IsEditAt line position := by
  obtain ⟨item, hb, hedit⟩ := exists_isEditAt (mark_of_mem_declarations hd) hc swatches
  exact ⟨CursorLine.ofLine line position, item, by rw [CursorLine.ofDocument?, hl]; rfl, hb, hedit⟩

end CompletionItem

/-! A position inside a character of two units, on a line under one that a carriage return ends. -/

namespace Sample

def splitPair : Text := "a\r\nvar( 😀b".toList

def sizes : Text := "css`--gap: 8px`".toList

end Sample

theorem CompletionItem.extracted_item_isEditAt_of_sample :
    Sample.splitPair.line? 1 = some "var( 😀b".toList ∧ 6 ≤ unitSize "var( 😀b".toList ∧
    ∃ d ∈ Sample.sizes.declarations Sample.sheetUri,
      ∃ cursor item, CursorLine.ofDocument? Sample.splitPair ⟨1, 6⟩ = some cursor ∧
        build? d cursor true = some item ∧
        item.replaced.IsEditAt "var( 😀b".toList ⟨1, 6⟩ := by
  have hl : Sample.splitPair.line? 1 = some "var( 😀b".toList := by decide
  have hc : 6 ≤ unitSize "var( 😀b".toList := by decide
  have hd : (⟨"--gap".toList, "8px".toList, Sample.sheetUri, ⟨⟨0, 4⟩, ⟨0, 9⟩⟩⟩ : Declaration) ∈
      Sample.sizes.declarations Sample.sheetUri := by
    decide +kernel
  refine ⟨hl, hc, _, hd, ?_⟩
  exact @extracted_item_isEditAt Sample.splitPair _ ⟨1, 6⟩ hl hc _ _ _ hd true

/-- Every item that a server answers with is an edit at the position it was asked for. -/
theorem Server.isEditAt_of_mem_completions {s : Server} {uri : Uri} {doc : Document}
    {index : Index} (h : s.inSight? uri = some (doc, index)) {line : Text} {p : Position}
    (hl : doc.text.line? p.line = some line) (hc : p.column ≤ unitSize line)
    {items : List CompletionItem} (hitems : s.completions? uri p = some items) :
    ∀ item ∈ items, item.replaced.IsEditAt line p := by
  intro item hitem
  have hlist : index.winners.filterMap (fun d =>
      CompletionItem.build? d (CursorLine.ofLine line p) s.settings.colorPreview) = items := by
    simpa [completions?, h, CursorLine.ofDocument?, hl] using hitems
  rw [← hlist] at hitem
  obtain ⟨d, hd, hb⟩ := List.mem_filterMap.1 hitem
  have hmark : nameMark <+: d.name := by
    rw [eq_build_of_inSight? h] at hd
    exact Index.mark_of_mem_build (Index.firsts_subset _ hd)
  obtain ⟨item', hb', hedit⟩ :=
    CompletionItem.exists_isEditAt hmark hc s.settings.colorPreview
  obtain rfl : item = item' := Option.some.inj (hb.symm.trans hb')
  exact hedit

end CustomProps
