import CustomProps.Declaration.Basic
import CustomProps.Proofs.Columns

/-!
What a lookup at a cursor gives. As a range it gives the run of characters of one kind around the
cursor, with nothing of that kind left beside it, and no range where the cursor has no such
character on either side. As a name it gives the run of name characters or, where a call `var(--`
stands among the characters around the cursor that are not blank, the first argument of the first
call. Either is a piece of these characters that starts like a name, and nothing else is given.
-/

namespace CustomProps

namespace Token

open Text

/-- A range that covers the whole run of `p` characters at a position of a line. -/
structure Covers (p : Char → Bool) (line : Text) (position : Position) (range : Range) :
    Prop where
  onLine : range = Range.onLine position.line range.start.column range.stop.column
  startCut : line.isColumnCut range.start.column = true
  stopCut : line.isColumnCut range.stop.column = true
  starts : line.columnToByte range.start.column ≤ line.columnToByte position.column
  stops : line.columnToByte position.column ≤ line.columnToByte range.stop.column
  nonempty : line.columnToByte range.start.column < line.columnToByte range.stop.column
  holds : ∀ c ∈ text line range, p c = true
  before : ∀ c ∈ (line.takeBytes (line.columnToByte range.start.column)).getLast?, p c = false
  after : ∀ c ∈ (line.dropBytes (line.columnToByte range.stop.column)).head?, p c = false

section Runs

variable {p : Char → Bool} {line left run right : Text} {position : Position}

/-- A run is empty exactly if the cursor has no `p` character on either side. -/
theorem Touches.eq_nil_iff {column : Nat} (h : Touches p line column left run right) :
    run = [] ↔ (∀ c ∈ (line.takeBytes (line.columnToByte column)).getLast?, p c = false) ∧
      ∀ c ∈ (line.dropBytes (line.columnToByte column)).head?, p c = false := by
  obtain ⟨first, last, rfl, hline, hcut⟩ := h.exists_cut
  have htake : line.takeBytes (line.columnToByte column) = left ++ first := by
    rw [hcut, hline, takeBytes_append]
  have hdrop : line.dropBytes (line.columnToByte column) = last ++ right := by
    rw [hcut, hline, dropBytes_append]
  rw [htake, hdrop, List.append_eq_nil_iff]
  constructor
  · rintro ⟨rfl, rfl⟩
    rw [List.append_nil, List.nil_append]
    exact ⟨h.before, h.after⟩
  · rintro ⟨hbefore, hafter⟩
    constructor
    · by_contra hne
      have hlast := hbefore (first.getLast hne)
        (by simp [List.getLast?_append, List.getLast?_eq_some_getLast hne])
      rw [h.holds _ (List.mem_append_left _ (List.getLast_mem hne))] at hlast
      cases hlast
    · by_contra hne
      have hhead := hafter (last.head hne)
        (by simp [List.head?_append, List.head?_eq_some_head hne])
      rw [h.holds _ (List.mem_append_right _ (List.head_mem hne))] at hhead
      cases hhead

/-- The columns around a run cover it. -/
theorem Touches.covers (h : Touches p line position.column left run right) (hr : run ≠ []) :
    Covers p line position
      (Range.onLine position.line (unitSize left) (unitSize (left ++ run))) := by
  have hline := h.eq_append
  obtain ⟨hstart, hstop⟩ := columnToByte_piece hline
  have hpos := byteSize_pos_of_ne_nil hr
  exact {
    onLine := rfl
    startCut := (isColumnCut_iff _ _).2 ⟨left, run ++ right, h.eq, rfl⟩
    stopCut := (isColumnCut_iff _ _).2 ⟨left ++ run, right, hline, rfl⟩
    starts := by
      simp only [Range.onLine, hstart]
      exact h.starts
    stops := by
      simp only [Range.onLine, hstop]
      exact h.stops
    nonempty := by
      simp only [Range.onLine, hstart, hstop, byteSize_append]
      omega
    holds := by
      rw [text_onLine hline]
      exact h.holds
    before := by
      simp only [Range.onLine, hstart]
      rw [h.eq, takeBytes_append]
      exact h.before
    after := by
      simp only [Range.onLine, hstop]
      rw [hline, dropBytes_append]
      exact h.after }

/-- A range that covers a run is the one of the columns around it. -/
theorem Covers.exists_touches {range : Range} (h : Covers p line position range) :
    ∃ left run right, Touches p line position.column left run right ∧ run ≠ [] ∧
      range = Range.onLine position.line (unitSize left) (unitSize (left ++ run)) := by
  obtain ⟨left, rest, hleft, hstart⟩ := (isColumnCut_iff _ _).1 h.startCut
  obtain ⟨upTo, right, hupTo, hstop⟩ := (isColumnCut_iff _ _).1 h.stopCut
  have hstartByte : line.columnToByte (unitSize left) = byteSize left := by
    rw [hleft, columnToByte_append]
  have hstopByte : line.columnToByte (unitSize upTo) = byteSize upTo := by
    rw [hupTo, columnToByte_append]
  have hnonempty := h.nonempty
  rw [hstart, hstop, hstartByte, hstopByte] at hnonempty
  obtain ⟨run, rfl⟩ :=
    isPrefix_of_byteSize_le ⟨rest, hleft.symm⟩ ⟨right, hupTo.symm⟩ hnonempty.le
  have hline : line = left ++ (run ++ right) := by rw [hupTo, List.append_assoc]
  have hrange := h.onLine
  rw [hstart, hstop] at hrange
  have hholds := h.holds
  rw [hrange, text_onLine hupTo] at hholds
  have hbefore := h.before
  rw [hstart, hstartByte, hline, takeBytes_append] at hbefore
  have hafter := h.after
  rw [hstop, hstopByte, hupTo, dropBytes_append] at hafter
  have hstarts := h.starts
  rw [hstart, hstartByte] at hstarts
  have hstops := h.stops
  rw [hstop, hstopByte] at hstops
  refine ⟨left, run, right, ⟨hline, hholds, hbefore, hafter, hstarts, hstops⟩, ?_, hrange⟩
  rintro rfl
  rw [List.append_nil] at hnonempty
  exact Nat.lt_irrefl _ hnonempty

end Runs

/-- No range is found exactly where the cursor has no `p` character on either side, and else the one
that covers the whole run of them around the cursor. -/
theorem range?_covers_run (p : Char → Bool) (line : Text) (position : Position) :
    (range? p line position = none ↔
      (∀ c ∈ (line.takeBytes (line.columnToByte position.column)).getLast?, p c = false) ∧
        ∀ c ∈ (line.dropBytes (line.columnToByte position.column)).head?, p c = false) ∧
    ∀ range, range? p line position = some range ↔ Covers p line position range := by
  obtain ⟨left, run, right, ht⟩ := exists_touches p line position.column
  rw [← ht.eq_nil_iff]
  constructor
  · rw [ht.range?_eq]
    by_cases hr : run = []
    · simp [hr]
    · simp [hr]
  intro range
  constructor
  · intro h
    rw [ht.range?_eq] at h
    split at h
    · cases h
    · rename_i hr
      cases h
      exact ht.covers hr
  · intro h
    obtain ⟨_, _, _, ht', hr, rfl⟩ := h.exists_touches
    rw [ht'.range?_eq, if_neg hr]

/-- A cursor inside a character of two units, which stands between the name characters of a line and
belongs to the run behind it. -/
example : range? isVariableChar "--é😀gap".toList ⟨0, 4⟩ = some (Range.onLine 0 5 8) := by decide

/-- The names that are read at a position: that of the run of name characters where no call
`var(--` stands around it, and the first argument of the first call where one does. -/
inductive ReadsAt (t : Text) (position : Position) : Text → Prop
  | run {line left token right before run after : Text} :
      t.line? position.line = some line →
      Touches isNonBlank line position.column left token right →
      Touches isVariableChar line position.column before run after →
      ¬ namedCallMark <:+: token → isName run = true → ReadsAt t position run
  | argument {line left token right x z : Text} :
      t.line? position.line = some line →
      Touches isNonBlank line position.column left token right →
      namedCallMark <:+: token → FirstAt callMark token x z →
      isName (z.takeWhile isArgumentChar) = true →
      ReadsAt t position (z.takeWhile isArgumentChar)

/-- What a name that is read looks like, and where it stands. -/
structure IsNameIn (t : Text) (position : Position) (name : Text) : Prop where
  mark : nameMark <+: name
  longer : 2 < byteSize name
  chars : ∀ c ∈ name, isBlank c = false ∧ c ≠ ',' ∧ c ≠ ')'
  inToken : ∃ line left token right, t.line? position.line = some line ∧
    Touches isNonBlank line position.column left token right ∧ name <:+: token

theorem asName_eq_ok_iff {name name' : Text} :
    asName name = .ok name' ↔ isName name = true ∧ name = name' := by
  unfold asName
  split
  · rename_i h
    simp [h]
  · rename_i h
    simp [h]

theorem asName_eq_error {name : Text} (h : isName name = false) :
    asName name = .error .noVariable := by
  simp [asName, h]

section Names

variable {t name : Text} {position : Position}

theorem isNameIn_of_isName {line left token right : Text} (hn : isName name = true)
    (hl : t.line? position.line = some line)
    (ht : Touches isNonBlank line position.column left token right) (hi : name <:+: token)
    (ha : ∀ c ∈ name, isArgumentChar c = true) : IsNameIn t position name := by
  obtain ⟨hlonger, hmark⟩ : 2 < byteSize name ∧ nameMark.isPrefixOf name = true := by
    simpa [isName, nameMark] using hn
  refine ⟨List.isPrefixOf_iff_prefix.1 hmark, hlonger, ?_, line, left, token, right, hl, ht, hi⟩
  intro c hc
  have hblank : isBlank c = false := by simpa [isNonBlank] using ht.holds c (hi.subset hc)
  have hargument : c ≠ ',' ∧ c ≠ ')' := by simpa [isArgumentChar] using ha c hc
  exact ⟨hblank, hargument⟩

/-- A name that is read is a piece of the characters around the position that are not blank. -/
theorem ReadsAt.isNameIn (h : ReadsAt t position name) : IsNameIn t position name := by
  cases h with
  | run hl ht hr _ hn =>
    obtain ⟨x, z, -, htoken, -⟩ := ht.exists_append hr
    apply isNameIn_of_isName hn hl ht
    · exact ⟨x, z, by rw [htoken, List.append_assoc]⟩
    · exact fun c hc => (isNonBlank_of_isVariableChar (hr.holds c hc)).2
  | @argument line left token right x z hl ht _ hf hn =>
    apply isNameIn_of_isName hn hl ht
    · have hz : z.takeWhile isArgumentChar <:+: z := (List.takeWhile_prefix _).isInfix
      have htoken : z <:+: token :=
        ⟨x ++ callMark, [], by rw [hf.eq, List.append_nil, List.append_assoc]⟩
      exact hz.trans htoken
    · exact fun c hc => List.mem_takeWhile_imp hc

theorem variableAt_of_readsAt (h : ReadsAt t position name) : variableAt t position = .ok name := by
  cases h with
  | run hl ht hr hc hn =>
    rw [(variableAt_of_touches hl ht hr).1 hc]
    exact asName_eq_ok_iff.2 ⟨hn, rfl⟩
  | @argument line _ _ _ _ _ hl ht hc hf hn =>
    obtain ⟨_, _, _, hr⟩ := exists_touches isVariableChar line position.column
    rw [(variableAt_of_touches hl ht hr).2 _ _ hc hf]
    exact asName_eq_ok_iff.2 ⟨hn, rfl⟩

/-- Either a name is read, or the answer is that there is none. -/
theorem exists_readsAt_or_error (t : Text) (position : Position) :
    (∃ name, ReadsAt t position name) ∨ variableAt t position = .error .noVariable := by
  cases hl : t.line? position.line with
  | none => exact .inr (by simp [variableAt, hl])
  | some line =>
    obtain ⟨left, token, right, ht⟩ := exists_touches isNonBlank line position.column
    obtain ⟨before, run, after, hr⟩ := exists_touches isVariableChar line position.column
    obtain ⟨hplain, hcall⟩ := variableAt_of_touches hl ht hr
    by_cases hc : namedCallMark <:+: token
    · have hm : callMark <:+: token := by
        have hp : callMark <:+: namedCallMark := ⟨[], ['-', '-'], rfl⟩
        exact hp.trans hc
      obtain ⟨x, z, hf⟩ := exists_firstAt (by decide) hm
      cases hn : isName (z.takeWhile isArgumentChar) with
      | true => exact .inl ⟨_, .argument hl ht hc hf hn⟩
      | false => exact .inr (by rw [hcall x z hc hf, asName_eq_error hn])
    · cases hn : isName run with
      | true => exact .inl ⟨_, .run hl ht hr hc hn⟩
      | false => exact .inr (by rw [hplain hc, asName_eq_error hn])

end Names

/-- The names that a lookup gives are those that are read at the position. Each of them starts like
a name, is longer than its mark, ends before a blank, a comma and a closing parenthesis and is a
piece of the characters around the position that are not blank. Any other lookup gives the error
that there is no variable. -/
theorem variableAt_gives_name_in_token (t : Text) (position : Position) :
    (∀ name, variableAt t position = .ok name ↔ ReadsAt t position name) ∧
    (∀ name, variableAt t position = .ok name → IsNameIn t position name) ∧
    ((∀ name, variableAt t position ≠ .ok name) → variableAt t position = .error .noVariable) := by
  have hiff : ∀ name, variableAt t position = .ok name ↔ ReadsAt t position name := by
    intro name
    refine ⟨?_, variableAt_of_readsAt⟩
    intro h
    rcases exists_readsAt_or_error t position with ⟨name', hname⟩ | herror
    · rw [variableAt_of_readsAt hname] at h
      cases h
      exact hname
    · rw [herror] at h
      cases h
  refine ⟨hiff, fun name h => ((hiff name).1 h).isNameIn, ?_⟩
  intro hnone
  rcases exists_readsAt_or_error t position with ⟨name, hname⟩ | herror
  · exact absurd (variableAt_of_readsAt hname) (hnone name)
  · exact herror

/-! Two calls that are not closed, behind a character of two units, with the cursor past the end of
the line. -/

theorem variableAt_gives_name_of_unclosed_calls :
    variableAt "a\n😀calc(var(--é*var(--b".toList ⟨1, 99⟩ = .ok "--é*var(--b".toList ∧
      IsNameIn "a\n😀calc(var(--é*var(--b".toList ⟨1, 99⟩ "--é*var(--b".toList := by
  have h : variableAt "a\n😀calc(var(--é*var(--b".toList ⟨1, 99⟩ = .ok "--é*var(--b".toList := by
    decide
  exact ⟨h, (variableAt_gives_name_in_token _ _).2.1 _ h⟩

end Token

end CustomProps
