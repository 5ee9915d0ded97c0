import CustomProps.Completion.Item
import CustomProps.Proofs.Change
import CustomProps.Proofs.NameInLine
import CustomProps.Proofs.OpenCall

/-!
An accepted completion and the name that is read afterwards. The edit of a completion leaves the
whole name on the line, behind what its rule puts there: the mark of the call that was open or is
inserted, or nothing where the bare name takes the place of a token. So the name is read at all its
columns, as long as no call stands before a completed one without a blank between them.
-/

namespace CustomProps

open Text Token

/-- What an insertion puts or finds before the name. -/
def InsertionRule.lead : InsertionRule → Text
  | completeCall => callMark
  | bareName => []
  | quotedCall => '\'' :: callMark
  | call => callMark

/-- The token at a cursor is what the editor replaces; without one it replaces nothing there. -/
theorem CursorLine.replaced_of_touches {line left token right : Text} {position : Position}
    (h : Touches isNonBlank line position.column left token right) :
    line.columnToByte (ofLine line position).replaced.start.column = byteSize left ∧
      line.columnToByte (ofLine line position).replaced.stop.column = byteSize (left ++ token) := by
  simp only [ofLine, h.range?_eq]
  split
  · -- No token: the cursor itself is the place.
    rename_i hempty
    have hstart := h.starts
    have hstop := h.stops
    rw [hempty, List.append_nil] at hstop ⊢
    simp only [Option.getD_none, Range.at]
    omega
  · exact columnToByte_piece h.eq_append

namespace Insertion

/-- An insertion that puts a name on a line. Up to the end of what is inserted the line is `front`,
what the rule puts before the name, the name, and what closes a call and its quotes; `after` is what
the edit keeps of the line behind it. -/
structure Places (insertion : Insertion) (line name front trail after : Text) : Prop where
  head : line.takeBytes (line.columnToByte insertion.range.start.column) ++ insertion.text =
    front ++ (insertion.rule.lead ++ (name ++ trail))
  tail : line.dropBytes (line.columnToByte insertion.range.stop.column) = after
  before : front <+: line
  behind : after <:+ line
  closing : trail <+: [')', '\'']
  starts : insertion.rule ≠ .completeCall → ∀ c ∈ front.getLast?, isNonBlank c = false
  closes : insertion.rule ≠ .bareName → ∃ next, trail ++ after = ')' :: next
  stops : insertion.rule = .bareName → trail = [] ∧ ∀ c ∈ after.head?, isNonBlank c = false

theorem places_of_stands {call : OpenCall} {line front dashes typed rest name : Text}
    (h : call.Stands line front dashes typed rest) (hn : nameMark <+: name) (position : Position) :
    ∃ insertion trail after, call.complete? name position line = some insertion ∧
      insertion.Places line name front trail after := by
  obtain ⟨remaining, middle, after, trail, rfl, hline, -, hparen, hnext, hi⟩ :=
    OpenCall.exists_complete? h hn position
  obtain ⟨hstart, hstop⟩ := columnToByte_piece hline
  have hclosing : trail <+: [')', '\''] := hparen.trans (List.prefix_append [')'] ['\''])
  have hbefore : front <+: line := ⟨callMark ++ (dashes ++ (middle ++ after)), by
    rw [hline]
    simp only [List.append_assoc]⟩
  refine ⟨_, trail, after, hi, ?_, ?_, hbefore, ⟨_, hline.symm⟩, hclosing, by simp,
    fun _ => ⟨_, hnext⟩, by simp⟩
  · simp only [Range.onLine, hstart, InsertionRule.lead]
    rw [hline, List.append_assoc _ middle, takeBytes_append]
    simp only [List.append_assoc]
  · simp only [Range.onLine, hstop]
    rw [hline, dropBytes_append]

theorem places_of_touches {line left token right : Text} {position : Position}
    (h : Touches isNonBlank line position.column left token right) (name : Text)
    (ho : OpenCall.before? position line = none) :
    ∃ insertion trail,
      resolve? name position (CursorLine.ofLine line position).replaced line
        (CursorLine.ofLine line position).propertyLine = some insertion ∧
      insertion.Places line name left trail right := by
  obtain ⟨hstart, hstop⟩ := CursorLine.replaced_of_touches h
  have hline := h.eq_append
  have hhead : line.takeBytes (byteSize left) = left := by rw [h.eq, takeBytes_append]
  have htail : line.dropBytes (byteSize (left ++ token)) = right := by rw [hline, dropBytes_append]
  have hbefore : left <+: line := ⟨_, h.eq.symm⟩
  have hbehind : right <:+ line := ⟨_, hline.symm⟩
  simp only [resolve?, ho]
  split
  · refine ⟨_, [], rfl, ?_, ?_, hbefore, hbehind, List.nil_prefix, fun _ => h.before, by simp,
      fun _ => ⟨rfl, h.after⟩⟩
    · simp [hstart, hhead, InsertionRule.lead]
    · rw [hstop, htail]
  split
  · refine ⟨_, [')', '\''], rfl, ?_, ?_, hbefore, hbehind, List.prefix_rfl, fun _ => h.before,
      fun _ => ⟨'\'' :: right, rfl⟩, by simp⟩
    · simp [hstart, hhead, InsertionRule.lead, callOf]
    · rw [hstop, htail]
  · refine ⟨_, [')'], rfl, ?_, ?_, hbefore, hbehind, List.prefix_append [')'] ['\''],
      fun _ => h.before, fun _ => ⟨right, rfl⟩, by simp⟩
    · simp [hstart, hhead, InsertionRule.lead, callOf]
    · rw [hstop, htail]

/-- Whatever the line and the cursor, a name is inserted, and whole. -/
theorem exists_places (line : Text) (position : Position) {name : Text} (hn : nameMark <+: name) :
    ∃ insertion front trail after,
      resolve? name position (CursorLine.ofLine line position).replaced line
        (CursorLine.ofLine line position).propertyLine = some insertion ∧
      insertion.Places line name front trail after := by
  cases ho : OpenCall.before? position line with
  | some call =>
    obtain ⟨front, dashes, typed, rest, hs⟩ := OpenCall.exists_stands ho
    obtain ⟨insertion, trail, after, hi, hp⟩ := places_of_stands hs hn position
    exact ⟨insertion, front, trail, after, by rw [resolve?, ho]; exact hi, hp⟩
  | none =>
    obtain ⟨left, token, right, ht⟩ := exists_touches isNonBlank line position.column
    obtain ⟨insertion, trail, hi, hp⟩ := places_of_touches ht name ho
    exact ⟨insertion, left, trail, right, hi, hp⟩

end Insertion

/-- A plain name holds no call. -/
theorem IsPlainName.not_mark_infix {name : Text} (h : IsPlainName name) :
    ¬ namedCallMark <:+: name := by
  intro hm
  have hc := h.isVariableChar '(' (hm.subset (by decide))
  exact absurd hc (by decide)

namespace Insertion.Places

variable {insertion : Insertion} {line name front trail after : Text}

/-- The edited line is one line. -/
theorem lineFeed_not_mem (hp : insertion.Places line name front trail after) (hn : IsPlainName name)
    (hl : '\n' ∉ line) :
    '\n' ∉ front ++ (insertion.rule.lead ++ (name ++ (trail ++ after))) := by
  have hlead : '\n' ∉ insertion.rule.lead := by
    cases insertion.rule <;> decide
  have hname : '\n' ∉ name := fun h => (hn.ascii _ h).2.2.2 rfl
  have htrail : '\n' ∉ trail := fun h => absurd (hp.closing.subset h) (by decide)
  simp only [List.mem_append, not_or]
  exact ⟨fun h => hl (hp.before.subset h), hlead, hname, htrail, fun h => hl (hp.behind.subset h)⟩

/-- Where the name is not bare, the mark of its call stands before it, and no call stands before
that one without a blank between them. -/
theorem exists_callMark (hp : insertion.Places line name front trail after)
    (hr : insertion.rule ≠ .bareName)
    (hearlier : insertion.rule = .completeCall → ¬ callMark <:+: trailing isNonBlank front) :
    ∃ x, front ++ insertion.rule.lead = x ++ callMark ∧
      ¬ callMark <:+: trailing isNonBlank x := by
  have hnil : insertion.rule ≠ .completeCall → trailing isNonBlank front = [] := fun h =>
    trailing_eq_nil (hp.starts h)
  cases hrule : insertion.rule with
  | bareName => exact absurd hrule hr
  | completeCall => exact ⟨front, rfl, hearlier hrule⟩
  | call =>
    refine ⟨front, rfl, ?_⟩
    rw [hnil (by simp [hrule])]
    decide
  | quotedCall =>
    refine ⟨front ++ ['\''], by simp [InsertionRule.lead], ?_⟩
    rw [trailing_append_of_forall front (List.all_eq_true.1 (by decide)), hnil (by simp [hrule])]
    decide

/-- The name on the edited line is read at all its columns. -/
theorem variableAt (hp : insertion.Places line name front trail after) (hn : IsPlainName name)
    (hl : '\n' ∉ line)
    (hearlier : insertion.rule = .completeCall → ¬ callMark <:+: trailing isNonBlank front)
    {column : Nat} (hstart : unitSize (front ++ insertion.rule.lead) ≤ column)
    (hstop : column ≤ unitSize (front ++ insertion.rule.lead ++ name)) :
    Token.variableAt (front ++ (insertion.rule.lead ++ (name ++ (trail ++ after)))) ⟨0, column⟩ =
      .ok name := by
  have hline := line?_of_not_mem (hp.lineFeed_not_mem hn hl)
  by_cases hr : insertion.rule = .bareName
  · obtain ⟨rfl, hafter⟩ := hp.stops hr
    have hlead : insertion.rule.lead = [] := by rw [hr]; rfl
    have hne : name ≠ [] := by
      rintro rfl
      exact absurd hn.longer (by decide)
    have hreturn : ∀ c ∈ name, c ≠ '\r' := by
      rintro c hc rfl
      exact absurd (hn.isVariableChar _ hc) (by decide)
    have hfront := hp.starts (by simp [hr])
    have htail : ∀ c ∈ (dropReturn after).head?, isNonBlank c = false := by
      intro c hc
      obtain ⟨u, hu⟩ := List.head?_eq_some_iff.1 hc
      obtain ⟨e, he⟩ := dropReturn_isPrefix after
      exact hafter c (by rw [← he, hu]; rfl)
    have htoken : tokenAround front name (dropReturn after) = name := by
      rw [tokenAround, trailing_eq_nil hfront, takeWhile_eq_nil_of_head htail, List.append_nil,
        List.nil_append]
    simp only [hlead, List.nil_append, List.append_nil] at hline hstart hstop ⊢
    rw [dropReturn_append_of_ne_nil front hne hreturn] at hline
    refine variableAt_of_alone hline hn
      (fun c hc => ?_) (fun c hc => ?_) ?_ hstart hstop
    · exact isVariableChar_of_not_isNonBlank (hfront c hc)
    · exact isVariableChar_of_not_isNonBlank (htail c hc)
    · rw [htoken]
      exact hn.not_mark_infix
  · obtain ⟨x, hx, hfirst⟩ := hp.exists_callMark hr hearlier
    obtain ⟨next, hnext⟩ := hp.closes hr
    rw [hx] at hstart hstop
    have hshape : front ++ (insertion.rule.lead ++ (name ++ (trail ++ after))) =
        x ++ callMark ++ name ++ ')' :: next := by
      rw [hnext, ← List.append_assoc, hx]
      simp only [List.append_assoc]
    rw [hshape] at hline ⊢
    rw [dropReturn_append_cons _ (by decide),
      List.append_assoc (x ++ callMark) name (')' :: dropReturn next)] at hline
    exact variableAt_of_call hline hn hfirst hstart hstop

end Insertion.Places

namespace CompletionItem

/-- The line after an item of the list was accepted. -/
def apply (item : CompletionItem) (line : Text) : Text :=
  line.splice (line.columnToByte item.replaced.start.column)
    (line.columnToByte item.replaced.stop.column) item.insertText

/-- An item carries the edit of its insertion. -/
theorem exists_build?_of_resolve? {d : Declaration} {cursor : CursorLine} {insertion : Insertion}
    (h : Insertion.resolve? d.name cursor.position cursor.replaced cursor.line
      cursor.propertyLine = some insertion) (swatches : Bool) :
    ∃ item, build? d cursor swatches = some item ∧ item.insertText = insertion.text ∧
      item.replaced = insertion.range := by
  rw [build?, h]
  exact ⟨_, rfl, rfl, rfl⟩

theorem apply_of_places {item : CompletionItem} {insertion : Insertion}
    {line name front trail after : Text} (hp : insertion.Places line name front trail after)
    (ht : item.insertText = insertion.text) (hr : item.replaced = insertion.range) :
    item.apply line = front ++ (insertion.rule.lead ++ (name ++ (trail ++ after))) := by
  rw [apply, ht, hr, splice, hp.head, hp.tail]
  simp only [List.append_assoc]

end CompletionItem

/-- Whatever the line and the cursor, a plain name has an item. On the line after it was accepted,
the name stands where what was inserted ends, but for what closes its call, and a request at any of
its columns reads exactly that name. Where an open call was completed, this holds if no call stands
before it without a blank between them. -/
theorem accepted_name_is_read {line : Text} (hl : '\n' ∉ line) (position : Position)
    {d : Declaration} (hn : IsPlainName d.name) (swatches : Bool) :
    ∃ insertion item front trail,
      Insertion.resolve? d.name position (CursorLine.ofLine line position).replaced line
        (CursorLine.ofLine line position).propertyLine = some insertion ∧
      CompletionItem.build? d (CursorLine.ofLine line position) swatches = some item ∧
      line.takeBytes (line.columnToByte item.replaced.start.column) ++ item.insertText =
        front ++ (insertion.rule.lead ++ (d.name ++ trail)) ∧
      trail <+: [')', '\''] ∧
      ((insertion.rule = .completeCall → ¬ callMark <:+: trailing isNonBlank front) →
        ∀ column, unitSize (front ++ insertion.rule.lead) ≤ column →
          column ≤ unitSize (front ++ insertion.rule.lead ++ d.name) →
          Token.variableAt (item.apply line) ⟨0, column⟩ = .ok d.name) := by
  obtain ⟨insertion, front, trail, after, hi, hp⟩ := Insertion.exists_places line position hn.mark
  have hcursor : Insertion.resolve? d.name (CursorLine.ofLine line position).position
      (CursorLine.ofLine line position).replaced (CursorLine.ofLine line position).line
      (CursorLine.ofLine line position).propertyLine = some insertion := hi
  obtain ⟨item, hb, ht, hr⟩ := CompletionItem.exists_build?_of_resolve? hcursor swatches
  refine ⟨insertion, item, front, trail, hi, hb, ?_, hp.closing, ?_⟩
  · rw [ht, hr]
    exact hp.head
  · intro hearlier column hstart hstop
    rw [CompletionItem.apply_of_places hp ht hr]
    exact hp.variableAt hn hl hearlier hstart hstop

/-! A call that is open behind a character of two units, with the cursor in its argument and a
closing parenthesis behind a blank. -/

namespace Sample

def openLine : Text := "😀 gap: calc(var(--o ld)".toList

def gap : Declaration :=
  ⟨"--gap".toList, "8px".toList, ⟨"file".toList, none, "/w/gap.ts".toList, none, none⟩,
    ⟨⟨0, 4⟩, ⟨0, 9⟩⟩⟩

end Sample

theorem accepted_name_is_read_of_sample :
    '\n' ∉ Sample.openLine ∧ IsPlainName Sample.gap.name ∧
    ∃ (insertion : Insertion) (item : CompletionItem) (front trail : Text),
      insertion.rule = .completeCall ∧
      CompletionItem.build? Sample.gap (CursorLine.ofLine Sample.openLine ⟨7, 20⟩) true =
        some item ∧
      Sample.openLine.takeBytes (Sample.openLine.columnToByte item.replaced.start.column) ++
        item.insertText = front ++ (insertion.rule.lead ++ (Sample.gap.name ++ trail)) ∧
      ∀ column, unitSize (front ++ insertion.rule.lead) ≤ column →
        column ≤ unitSize (front ++ insertion.rule.lead ++ Sample.gap.name) →
        Token.variableAt (item.apply Sample.openLine) ⟨0, column⟩ = .ok Sample.gap.name := by
  have hl : '\n' ∉ Sample.openLine := by decide
  have hn : IsPlainName Sample.gap.name := by decide
  obtain ⟨insertion, item, front, trail, hi, hb, hhead, htrail, hread⟩ :=
    accepted_name_is_read hl ⟨7, 20⟩ hn true
  have hinsertion : Insertion.resolve? Sample.gap.name ⟨7, 20⟩
      (CursorLine.ofLine Sample.openLine ⟨7, 20⟩).replaced Sample.openLine
      (CursorLine.ofLine Sample.openLine ⟨7, 20⟩).propertyLine =
        some ⟨"gap".toList, ⟨⟨7, 19⟩, ⟨7, 23⟩⟩, .completeCall⟩ := by decide +kernel
  have hrule : insertion.rule = .completeCall := by
    rw [hinsertion] at hi
    cases hi
    rfl
  -- The edited line holds one `v` up to there, that of the completed call.
  have hcount := congrArg (List.count 'v') hhead
  have hone : (Sample.openLine.takeBytes
      (Sample.openLine.columnToByte item.replaced.start.column) ++ item.insertText).count 'v' = 1 := by
    have hitem : CompletionItem.build? Sample.gap (CursorLine.ofLine Sample.openLine ⟨7, 20⟩) true =
        some ⟨"--gap".toList, "gap".toList, "gap".toList, ⟨⟨7, 19⟩, ⟨7, 23⟩⟩, .value, "8px".toList,
          "8px".toList⟩ := by decide +kernel
    rw [hitem] at hb
    cases hb
    decide
  have hnone : front.count 'v' = 0 := by
    rw [hone, List.count_append, hrule, List.count_append] at hcount
    have hlead : InsertionRule.completeCall.lead.count 'v' = 1 := by decide
    omega
  refine ⟨hl, hn, insertion, item, front, trail, hrule, hb, hhead, hread ?_⟩
  intro _ hm
  have hv : 'v' ∈ trailing isNonBlank front := hm.subset (by decide)
  obtain ⟨y, hy, -⟩ := append_trailing isNonBlank front
  exact List.count_eq_zero.1 hnone (by rw [hy]; exact List.mem_append_right _ hv)

end CustomProps
