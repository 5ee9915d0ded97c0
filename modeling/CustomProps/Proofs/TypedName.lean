import CustomProps.Proofs.Acceptance
import CustomProps.Proofs.InPlace

/-!
What is typed of a name and the items that are offered for it. An editor shows an item as long as
the text from the start of what it replaces to the cursor begins the item's filter text. In an open
call this text is what is typed behind the dashes. The item's filter text has lost the whole mark of
the name, however many dashes are typed, but where fewer than two of them are typed nothing of the
name can stand behind them.
-/

namespace CustomProps

open Text Token

/-- The text from the start of what an item replaces to the cursor. -/
def CompletionItem.entered (item : CompletionItem) (line : Text) (position : Position) : Text :=
  line.slice (line.columnToByte item.replaced.start.column) (line.columnToByte position.column)

@[simp] theorem bareName_append (rest : Text) : bareName (nameMark ++ rest) = rest := rfl

/-- A beginning of a name with at most two dashes in front ends with them or has the whole mark. -/
theorem dropWhile_dash_eq_nil_or {typed name : Text} (hn : nameMark <+: name)
    (ht : typed <+: name) (hd : Insertion.dashes typed ≤ 2) :
    typed.dropWhile (· == '-') = [] ∨ typed.takeWhile (· == '-') = nameMark := by
  rcases List.prefix_or_prefix_of_prefix ht hn with hshort | ⟨rest, rfl⟩
  · left
    rw [List.dropWhile_eq_nil_iff]
    intro c hc
    have hmark : ∀ c ∈ nameMark, (c == '-') = true := by simp [nameMark]
    exact hmark c (hshort.subset hc)
  · right
    have htake : (nameMark ++ rest).takeWhile (· == '-') =
        nameMark ++ rest.takeWhile (· == '-') := rfl
    have hmark : nameMark.length = 2 := rfl
    rw [Insertion.dashes, htake, List.length_append] at hd
    have hnone : rest.takeWhile (· == '-') = [] := List.eq_nil_of_length_eq_zero (by omega)
    rw [htake, hnone, List.append_nil]

namespace OpenCall

variable {line front typed name : Text} {position : Position}

/-- The edit of an open call starts behind the dashes that are typed, and inserts what the name has
behind them. -/
theorem IsOpen.exists_edit (h : IsOpen line position.column front typed) (hn : nameMark <+: name)
    (replaced : Range) (propertyLine : Bool) :
    ∃ insertion remaining,
      Insertion.resolve? name position replaced line propertyLine = some insertion ∧
      insertion.rule = .completeCall ∧ name = typed.takeWhile (· == '-') ++ remaining ∧
      remaining <+: insertion.text ∧
      line.slice (line.columnToByte insertion.range.start.column)
        (line.columnToByte position.column) = typed.dropWhile (· == '-') := by
  obtain ⟨remaining, middle, after, trail, hname, hline, -, -, -, hi⟩ :=
    exists_complete? h.stands hn position
  refine ⟨_, remaining, by rw [Insertion.resolve?, h.before?_eq]; exact hi, rfl, hname,
    List.prefix_append _ _, ?_⟩
  obtain ⟨hcut, hcursor⟩ := h.cut
  obtain ⟨hstart, -⟩ := columnToByte_piece hline
  -- Up to the cursor the line is what stands before the edit and what is typed behind the dashes.
  have hentered : front ++ (callMark ++ typed) =
      front ++ callMark ++ typed.takeWhile (· == '-') ++ typed.dropWhile (· == '-') := by
    simp only [List.append_assoc, List.takeWhile_append_dropWhile]
  rw [hentered] at hcursor hcut
  simp only [Range.onLine, hstart, hcursor]
  rw [hcut, List.append_assoc _ (typed.dropWhile _), byteSize_append _ (typed.dropWhile _),
    slice_append]

end OpenCall

/-- An item that completes an open call has a filter text and a text to insert that begin with what
an editor compares them with: the text from the start of the edit to the cursor, which is what is
typed behind the dashes, if the name begins with what is typed. -/
theorem entered_text_begins_item {d : Declaration} (hn : nameMark <+: d.name) {cursor : CursorLine}
    {insertion : Insertion}
    (hi : Insertion.resolve? d.name cursor.position cursor.replaced cursor.line
      cursor.propertyLine = some insertion)
    (hr : insertion.rule = .completeCall) (swatches : Bool) :
    ∃ item, CompletionItem.build? d cursor swatches = some item ∧
      (∃ front typed, OpenCall.IsOpen cursor.line cursor.position.column front typed) ∧
      ∀ front typed, OpenCall.IsOpen cursor.line cursor.position.column front typed →
        item.entered cursor.line cursor.position = typed.dropWhile (· == '-') ∧
        (typed <+: d.name →
          item.entered cursor.line cursor.position <+: item.filterText ∧
            item.entered cursor.line cursor.position <+: item.insertText) := by
  refine ⟨_, by rw [CompletionItem.build?, hi]; rfl, OpenCall.exists_isOpen_of_resolve? hi hr, ?_⟩
  intro front typed ho
  obtain ⟨insertion', remaining, hi', -, hname, hinsert, hentered⟩ :=
    ho.exists_edit hn cursor.replaced cursor.propertyLine
  obtain rfl : insertion = insertion' := Option.some.inj (hi.symm.trans hi')
  refine ⟨hentered, ?_⟩
  intro ht
  simp only [CompletionItem.entered, hentered, hr, CompletionItem.filterFor]
  have hremaining : typed.dropWhile (· == '-') <+: remaining := by
    rw [← List.prefix_append_right_inj (typed.takeWhile (· == '-')),
      List.takeWhile_append_dropWhile, ← hname]
    exact ht
  refine ⟨?_, hremaining.trans hinsert⟩
  rcases dropWhile_dash_eq_nil_or hn ht ho.dashes with hnil | hmark
  · rw [hnil]
    exact List.nil_prefix
  · rw [hmark] at hname
    rw [hname, bareName_append]
    exact hremaining

/-! The second of two calls behind a character of two units, with a part of a name typed in it. -/

namespace Sample

def partLine : CursorLine := CursorLine.ofLine "😀 var(--x) var(--ga, b)".toList ⟨3, 20⟩

end Sample

theorem entered_text_begins_item_of_sample :
    nameMark <+: Sample.gap.name ∧
    OpenCall.IsOpen Sample.partLine.line 20 "😀 var(--x) ".toList "--ga".toList ∧
    "--ga".toList <+: Sample.gap.name ∧
    ∃ insertion item,
      Insertion.resolve? Sample.gap.name Sample.partLine.position Sample.partLine.replaced
        Sample.partLine.line Sample.partLine.propertyLine = some insertion ∧
      insertion.rule = .completeCall ∧
      CompletionItem.build? Sample.gap Sample.partLine true = some item ∧
      item.entered Sample.partLine.line ⟨3, 20⟩ = "ga".toList ∧
      "ga".toList <+: item.filterText ∧ "ga".toList <+: item.insertText := by
  have hn : nameMark <+: Sample.gap.name := by decide
  have ho : OpenCall.IsOpen Sample.partLine.line 20 "😀 var(--x) ".toList "--ga".toList :=
    ⟨by decide +kernel, List.all_eq_true.1 (by decide), by decide⟩
  have ht : "--ga".toList <+: Sample.gap.name := by decide
  have hi : Insertion.resolve? Sample.gap.name Sample.partLine.position
      Sample.partLine.replaced Sample.partLine.line Sample.partLine.propertyLine =
        some ⟨"gap".toList, ⟨⟨3, 18⟩, ⟨3, 23⟩⟩, .completeCall⟩ := by decide +kernel
  obtain ⟨item, hb, -, hopen⟩ := entered_text_begins_item hn hi rfl true
  obtain ⟨hentered, hbegins⟩ := hopen _ _ ho
  obtain ⟨hfilter, hinsert⟩ := hbegins ht
  have hga : item.entered Sample.partLine.line ⟨3, 20⟩ = "ga".toList := hentered
  rw [← hga]
  exact ⟨hn, ho, ht, _, item, hi, rfl, hb, rfl, hfilter, hinsert⟩

end CustomProps
