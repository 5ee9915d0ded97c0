import CustomProps.Proofs.Change
import CustomProps.Proofs.NameInLine
import CustomProps.Proofs.OpenCall
import Mathlib.Data.List.Infix

/-!
A name completed in the call that is open at the cursor. The call is completed exactly where the
line up to the cursor ends with its mark and the beginning of a name, and the edited line goes on
behind the mark with the whole name, a parenthesis and what followed the first parenthesis behind
the cursor. Parentheses are not matched with each other. A balanced line has a closing one behind
the cursor, but if a call was opened before it, the edit leaves the parentheses uneven.
-/

namespace CustomProps

open Text Token

/-- The line after the edit of an insertion. -/
def Insertion.apply (insertion : Insertion) (line : Text) : Text :=
  line.splice (line.columnToByte insertion.range.start.column)
    (line.columnToByte insertion.range.stop.column) insertion.text

namespace OpenCall

theorem rule_of_complete? {call : OpenCall} {name line : Text} {position : Position}
    {insertion : Insertion} (h : call.complete? name position line = some insertion) :
    insertion.rule = .completeCall := by
  simp only [complete?] at h
  split at h
  · split at h <;> cases h <;> rfl
  · cases h

/-- The edit stays on its line, and the line is what was before the argument, the name, a
parenthesis and what is kept behind it. -/
theorem exists_apply {call : OpenCall} {line front dashes typed rest name : Text}
    (h : call.Stands line front dashes typed rest) (hn : nameMark <+: name) (position : Position) :
    ∃ insertion first last, call.complete? name position line = some insertion ∧
      insertion.range = Range.onLine position.line first last ∧ first ≤ last ∧
      last ≤ unitSize line ∧
      insertion.apply line = front ++ (callMark ++ (name ++ ')' :: behind rest)) := by
  obtain ⟨remaining, middle, after, trail, rfl, hline, -, -, hnext, hi⟩ :=
    exists_complete? h hn position
  refine ⟨_, _, _, hi, rfl, ?_, ?_, ?_⟩
  · rw [unitSize_append (front ++ callMark ++ dashes)]
    exact Nat.le_add_right _ _
  · rw [hline, unitSize_append _ after]
    exact Nat.le_add_right _ _
  · obtain ⟨hstart, hstop⟩ := columnToByte_piece hline
    simp only [Insertion.apply, Range.onLine, hstart, hstop]
    rw [hline, splice_append]
    simp only [List.append_assoc, hnext]

theorem IsOpen.exists_resolve? {line front typed name : Text} {cursor : Position}
    (h : IsOpen line cursor.column front typed) (hn : nameMark <+: name) (replaced : Range)
    (propertyLine : Bool) :
    ∃ insertion first last,
      Insertion.resolve? name cursor replaced line propertyLine = some insertion ∧
      insertion.rule = .completeCall ∧
      insertion.range = Range.onLine cursor.line first last ∧ first ≤ last ∧
      last ≤ unitSize line ∧
      insertion.apply line = front ++ (callMark ++ (name ++
        ')' :: behind (line.dropBytes (line.columnToByte cursor.column)))) := by
  obtain ⟨insertion, first, last, hi, hedit⟩ := exists_apply h.stands hn cursor
  refine ⟨insertion, first, last, ?_, rule_of_complete? hi, hedit⟩
  rw [Insertion.resolve?, h.before?_eq]
  exact hi

theorem exists_resolve?_of_none {line : Text} {cursor : Position} (h : before? cursor line = none)
    (name : Text) (replaced : Range) (propertyLine : Bool) :
    ∃ insertion, Insertion.resolve? name cursor replaced line propertyLine = some insertion ∧
      insertion.rule ≠ .completeCall := by
  simp only [Insertion.resolve?, h]
  split
  · exact ⟨_, rfl, by simp⟩
  split
  · exact ⟨_, rfl, by simp⟩
  · exact ⟨_, rfl, by simp⟩

theorem exists_isOpen_of_resolve? {name line : Text} {cursor : Position} {replaced : Range}
    {propertyLine : Bool} {insertion : Insertion}
    (hi : Insertion.resolve? name cursor replaced line propertyLine = some insertion)
    (hr : insertion.rule = .completeCall) :
    ∃ front typed, IsOpen line cursor.column front typed := by
  cases hb : before? cursor line with
  | some call =>
    obtain ⟨front, typed, ho, -⟩ := exists_isOpen hb
    exact ⟨front, typed, ho⟩
  | none =>
    obtain ⟨insertion', hi', hr'⟩ := exists_resolve?_of_none hb name replaced propertyLine
    obtain rfl : insertion = insertion' := Option.some.inj (hi.symm.trans hi')
    exact absurd hr hr'

end OpenCall

/-- An open call is completed in place, whatever the line, and nothing else is. Up to the mark of
the call the edited line is what it was; then come the whole name, a parenthesis, and what followed
the first parenthesis behind the cursor, or the name at the cursor if there is none. -/
theorem open_call_is_completed {name : Text} (hn : nameMark <+: name) (line : Text)
    (cursor : Position) (replaced : Range) (propertyLine : Bool) :
    ∃ insertion, Insertion.resolve? name cursor replaced line propertyLine = some insertion ∧
      (insertion.rule = .completeCall ↔
        ∃ front typed, OpenCall.IsOpen line cursor.column front typed) ∧
      ∀ front typed, OpenCall.IsOpen line cursor.column front typed →
        (∃ first last, insertion.range = Range.onLine cursor.line first last ∧ first ≤ last ∧
          last ≤ unitSize line) ∧
        insertion.apply line = front ++ (callMark ++ (name ++
          ')' :: OpenCall.behind (line.dropBytes (line.columnToByte cursor.column)))) := by
  cases hb : OpenCall.before? cursor line with
  | some call =>
    obtain ⟨front, typed, ho, -⟩ := OpenCall.exists_isOpen hb
    obtain ⟨insertion, -, -, hi, hrule, -⟩ := ho.exists_resolve? hn replaced propertyLine
    refine ⟨insertion, hi, iff_of_true hrule ⟨front, typed, ho⟩, ?_⟩
    intro front typed ho
    obtain ⟨insertion', first, last, hi', -, hrange, hle, hsize, happly⟩ :=
      ho.exists_resolve? hn replaced propertyLine
    obtain rfl : insertion = insertion' := Option.some.inj (hi.symm.trans hi')
    exact ⟨⟨first, last, hrange, hle, hsize⟩, happly⟩
  | none =>
    have hno : ∀ front typed, ¬ OpenCall.IsOpen line cursor.column front typed := by
      intro front typed ho
      rw [ho.before?_eq] at hb
      cases hb
    obtain ⟨insertion, hi, hrule⟩ :=
      OpenCall.exists_resolve?_of_none hb name replaced propertyLine
    refine ⟨insertion, hi, iff_of_false hrule ?_, fun front typed ho => absurd ho (hno front typed)⟩
    rintro ⟨front, typed, ho⟩
    exact hno front typed ho

/-! A line with two calls and a character of two units, the second call with one dash typed, the
cursor in the name that is typed and a parenthesis behind a blank. -/

namespace Sample

def twoCalls : Text := "😀 var(--x) var(-o_ld b) c".toList

end Sample

theorem open_call_is_completed_of_sample :
    nameMark <+: "--gap".toList ∧
    OpenCall.IsOpen Sample.twoCalls 18 "😀 var(--x) ".toList "-o".toList ∧
    ∃ insertion, Insertion.resolve? "--gap".toList ⟨3, 18⟩ ⟨⟨3, 0⟩, ⟨3, 0⟩⟩ Sample.twoCalls true =
        some insertion ∧
      insertion.rule = .completeCall ∧
      insertion.apply Sample.twoCalls = "😀 var(--x) var(--gap) c".toList := by
  have hn : nameMark <+: "--gap".toList := by decide
  have ho : OpenCall.IsOpen Sample.twoCalls 18 "😀 var(--x) ".toList "-o".toList :=
    ⟨by decide +kernel, List.all_eq_true.1 (by decide), by decide⟩
  obtain ⟨insertion, hi, hrule, hedit⟩ :=
    open_call_is_completed hn Sample.twoCalls ⟨3, 18⟩ ⟨⟨3, 0⟩, ⟨3, 0⟩⟩ true
  refine ⟨hn, ho, insertion, hi, hrule.2 ⟨_, _, ho⟩, ?_⟩
  rw [(hedit _ _ ho).2]
  decide +kernel

namespace Text

/-- Whether as many parentheses are closed as are opened, and at no place more. -/
def Balanced (t : Text) : Prop :=
  t.count '(' = t.count ')' ∧ ∀ s, s <+: t → s.count ')' ≤ s.count '('

instance (t : Text) : Decidable (Balanced t) :=
  decidable_of_iff
    (t.count '(' = t.count ')' ∧ ∀ s ∈ t.inits, List.count ')' s ≤ List.count '(' s) (by
      simp only [Balanced, List.mem_inits])

/-- A beginning of two pieces is one of the first piece, or all of it with one of the second. -/
theorem isPrefix_append_cases {s x w : Text} (h : s <+: x ++ w) :
    s <+: x ∨ ∃ r, s = x ++ r ∧ r <+: w := by
  rcases List.prefix_or_prefix_of_prefix h (List.prefix_append x w) with hs | ⟨r, rfl⟩
  · exact .inl hs
  · exact .inr ⟨r, rfl, (List.prefix_append_right_inj x).1 h⟩

theorem count_eq_zero_of_not_mem {u : Text} (h : '(' ∉ u ∧ ')' ∉ u) :
    u.count '(' = 0 ∧ u.count ')' = 0 :=
  ⟨List.count_eq_zero.2 h.1, List.count_eq_zero.2 h.2⟩

/-- Balance does not depend on text without parentheses. -/
theorem Balanced.replace {x y z : Text} (h : Balanced (x ++ (y ++ z))) {new : Text}
    (hy : '(' ∉ y ∧ ')' ∉ y) (hnew : '(' ∉ new ∧ ')' ∉ new) : Balanced (x ++ (new ++ z)) := by
  obtain ⟨hyo, hyc⟩ := count_eq_zero_of_not_mem hy
  obtain ⟨hno, hnc⟩ := count_eq_zero_of_not_mem hnew
  constructor
  · have htotal := h.1
    simp only [List.count_append, hyo, hyc, hno, hnc] at htotal ⊢
    exact htotal
  · intro s hs
    -- A beginning that ends in the piece that is replaced has the parentheses of what is before it.
    rcases isPrefix_append_cases hs with hx | ⟨r, rfl, hr⟩
    · exact h.2 s (hx.trans (List.prefix_append _ _))
    rcases isPrefix_append_cases hr with hr | ⟨r, rfl, hr⟩
    · have hx := h.2 x (List.prefix_append _ _)
      obtain ⟨hro, hrc⟩ := count_eq_zero_of_not_mem (u := r)
        ⟨fun hm => hnew.1 (hr.subset hm), fun hm => hnew.2 (hr.subset hm)⟩
      simpa only [List.count_append, hro, hrc, Nat.add_zero] using hx
    · have hz : x ++ (y ++ r) <+: x ++ (y ++ z) := by
        rwa [List.prefix_append_right_inj, List.prefix_append_right_inj]
      have hx := h.2 _ hz
      simpa only [List.count_append, hyo, hyc, hno, hnc] using hx

/-- Each parenthesis that is opened in the piece that is replaced, and not closed there, leaves one
too many that is closed. -/
theorem Balanced.count_replace {x y z : Text} (h : Balanced (x ++ (y ++ z))) {new : Text}
    (hy : ')' ∉ y) (hnew : '(' ∉ new ∧ ')' ∉ new) :
    (x ++ (new ++ z)).count ')' = (x ++ (new ++ z)).count '(' + y.count '(' := by
  obtain ⟨hno, hnc⟩ := count_eq_zero_of_not_mem hnew
  have hyc : y.count ')' = 0 := List.count_eq_zero.2 hy
  have htotal := h.1
  simp only [List.count_append, hno, hnc, hyc] at htotal ⊢
  omega

/-- In a balanced text every open parenthesis is closed further on. -/
theorem Balanced.mem_of_open {x y : Text} (h : Balanced (x ++ '(' :: y)) : ')' ∈ y := by
  by_contra hy
  have hx := h.2 x (List.prefix_append _ _)
  have htotal := h.1
  have hnone : y.count ')' = 0 := List.count_eq_zero.2 hy
  simp only [List.count_append, List.count_cons_self,
    List.count_cons_of_ne (show '(' ≠ ')' by decide), hnone] at htotal
  omega

end Text

namespace OpenCall.IsOpen

variable {line front typed : Text} {column : Nat}

/-- On a balanced line an open call has a parenthesis behind the cursor. -/
theorem exists_close (h : IsOpen line column front typed) (hl : Balanced line) :
    ∃ argument next, line.dropBytes (line.columnToByte column) = argument ++ ')' :: next ∧
      ')' ∉ argument := by
  have hclose : ')' ∈ line.dropBytes (line.columnToByte column) := by
    have hline : line = (front ++ ['v', 'a', 'r']) ++ '(' ::
        (typed ++ line.dropBytes (line.columnToByte column)) := by
      simpa [callMark] using h.cut.1
    rw [hline] at hl
    exact (List.mem_append.1 hl.mem_of_open).resolve_left (paren_not_mem h.chars).2
  exact List.eq_append_cons_of_mem hclose

end OpenCall.IsOpen

/-- A name completed in place on a balanced line takes the place of all up to the first closing
parenthesis behind the cursor, and there is one. The edited line is balanced exactly if nothing is
opened in between, and otherwise closes one parenthesis too many for each that is opened there. -/
theorem completed_line_balanced_iff {name line : Text} (hn : IsPlainName name) (hl : Balanced line)
    {cursor : Position} {replaced : Range} {propertyLine : Bool} {insertion : Insertion}
    (hi : Insertion.resolve? name cursor replaced line propertyLine = some insertion)
    (hr : insertion.rule = .completeCall) :
    ∃ argument next, line.dropBytes (line.columnToByte cursor.column) = argument ++ ')' :: next ∧
      ')' ∉ argument ∧
      (Balanced (insertion.apply line) ↔ '(' ∉ argument) ∧
      (insertion.apply line).count ')' =
        (insertion.apply line).count '(' + argument.count '(' := by
  obtain ⟨front, typed, ho⟩ := OpenCall.exists_isOpen_of_resolve? hi hr
  obtain ⟨argument, next, hrest, hargument⟩ := ho.exists_close hl
  obtain ⟨insertion', -, -, hi', -, -, -, -, happly⟩ :=
    ho.exists_resolve? hn.mark replaced propertyLine
  obtain rfl : insertion = insertion' := Option.some.inj (hi.symm.trans hi')
  rw [hrest, OpenCall.behind_append hargument] at happly
  have htyped := paren_not_mem ho.chars
  have hname := paren_not_mem hn.isVariableChar
  have hline : line = (front ++ callMark) ++ ((typed ++ argument) ++ ')' :: next) := by
    rw [ho.cut.1, hrest]
    simp only [List.append_assoc]
  have hedited : insertion.apply line = (front ++ callMark) ++ (name ++ ')' :: next) := by
    rw [happly, List.append_assoc]
  have hclosed : ')' ∉ typed ++ argument := by
    rw [List.mem_append, not_or]
    exact ⟨htyped.2, hargument⟩
  have hopened : (typed ++ argument).count '(' = argument.count '(' := by
    rw [List.count_append, List.count_eq_zero.2 htyped.1, Nat.zero_add]
  rw [hline] at hl
  have hcount := hl.count_replace hclosed hname
  rw [← hedited, hopened] at hcount
  refine ⟨argument, next, hrest, hargument, ⟨?_, ?_⟩, hcount⟩
  · intro hb
    rw [← List.count_eq_zero]
    have htotal := hb.1
    omega
  · intro hopen
    rw [hedited]
    refine hl.replace ⟨?_, hclosed⟩ hname
    rw [List.mem_append, not_or]
    exact ⟨htyped.1, hopen⟩

/-! Two balanced lines, the cursor in the first argument of the first call. In one a plain fallback
follows, in the other a call, which loses its parenthesis. -/

namespace Sample

def plainFallback : Text := "calc(var(--a, 1px) + var(--b))".toList

def nestedCall : Text := "var(--a, var(--b))".toList

end Sample

theorem completed_line_balanced_iff_of_sample :
    IsPlainName "--gap".toList ∧ Balanced Sample.plainFallback ∧
    ∃ insertion, Insertion.resolve? "--gap".toList ⟨0, 12⟩ ⟨⟨0, 0⟩, ⟨0, 8⟩⟩ Sample.plainFallback
        false = some insertion ∧
      insertion.rule = .completeCall ∧
      insertion.apply Sample.plainFallback = "calc(var(--gap) + var(--b))".toList ∧
      Balanced (insertion.apply Sample.plainFallback) := by
  have hn : IsPlainName "--gap".toList := by decide
  have hl : Balanced Sample.plainFallback := by decide +kernel
  have hi : Insertion.resolve? "--gap".toList ⟨0, 12⟩ ⟨⟨0, 0⟩, ⟨0, 8⟩⟩ Sample.plainFallback
      false = some ⟨"gap".toList, ⟨⟨0, 11⟩, ⟨0, 17⟩⟩, .completeCall⟩ := by decide +kernel
  obtain ⟨argument, -, -, -, hiff, hcount⟩ := completed_line_balanced_iff hn hl hi rfl
  have happly : Insertion.apply ⟨"gap".toList, ⟨⟨0, 11⟩, ⟨0, 17⟩⟩, .completeCall⟩
      Sample.plainFallback = "calc(var(--gap) + var(--b))".toList := by decide +kernel
  refine ⟨hn, hl, _, hi, rfl, happly, hiff.2 ?_⟩
  rw [happly] at hcount
  have hopened : "calc(var(--gap) + var(--b))".toList.count '(' = 3 := by decide
  have hclosed : "calc(var(--gap) + var(--b))".toList.count ')' = 3 := by decide
  rw [← List.count_eq_zero]
  omega

theorem completed_outer_call_is_unbalanced :
    Balanced Sample.nestedCall ∧ IsPlainName "--gap".toList ∧
    ∃ insertion, Insertion.resolve? "--gap".toList ⟨0, 7⟩ ⟨⟨0, 0⟩, ⟨0, 8⟩⟩ Sample.nestedCall false =
        some insertion ∧
      insertion.rule = .completeCall ∧
      insertion.apply Sample.nestedCall = "var(--gap))".toList ∧
      ¬ Balanced (insertion.apply Sample.nestedCall) := by
  have hi : Insertion.resolve? "--gap".toList ⟨0, 7⟩ ⟨⟨0, 0⟩, ⟨0, 8⟩⟩ Sample.nestedCall false =
      some ⟨"gap".toList, ⟨⟨0, 6⟩, ⟨0, 16⟩⟩, .completeCall⟩ := by decide +kernel
  exact ⟨by decide +kernel, by decide, _, hi, rfl, by decide +kernel, by decide +kernel⟩

end CustomProps
