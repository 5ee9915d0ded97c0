import CustomProps.Position
import Mathlib.Data.List.Induction

/-!
The lines of a text by their numbers. A text falls into the lines before a line and the text from
there on, and a position falls into its line by walking columns. The offset of a position is the
size of the text before it, and it exists exactly when its line does. The position reached at the
end of a beginning of the text leads back to that beginning.
-/

namespace CustomProps

namespace Text

/-- The number of the last line. -/
def lastLine (t : Text) : Nat := t.count '\n'

/-- The lines before line `n`, each with its line feed; the whole text where there is no line
`n`. -/
def beforeLine : Nat → Text → Text
  | 0, _ => []
  | _ + 1, [] => []
  | n + 1, c :: t => c :: beforeLine (if c = '\n' then n else n + 1) t

/-- The text from the start of line `n` on; nothing where there is no such line. -/
def fromLine : Nat → Text → Text
  | 0, t => t
  | _ + 1, [] => []
  | n + 1, c :: t => fromLine (if c = '\n' then n else n + 1) t

/-- Line `n` without its line feed. -/
def lineOf (n : Nat) (t : Text) : Text := (fromLine n t).takeWhile (· != '\n')

/-- The beginning of a line up to a column, where the line itself starts at column `here`. A column
at which no character starts takes the whole line. -/
def toColumn (column : Nat) : Nat → Text → Text
  | _, [] => []
  | here, c :: t => if here = column then [] else c :: toColumn column (here + unitsOf c) t

/-- Whether a column lies inside a character of two units. -/
def splitsPair (column : Nat) : Nat → Text → Bool
  | _, [] => false
  | here, c :: t =>
    (here < column && column < here + unitsOf c) || splitsPair column (here + unitsOf c) t

/-- The text before a position. -/
def before (t : Text) (p : Position) : Text :=
  beforeLine p.line t ++ toColumn p.column 0 (lineOf p.line t)

/-- The position at the end of a text: the line feeds in it, and the units after the last of
them. -/
def endOf (t : Text) : Position := ⟨t.count '\n', unitSize (trailing (· != '\n') t)⟩

theorem unitsOf_pos (c : Char) : 0 < unitsOf c := by
  unfold unitsOf
  split <;> decide

theorem utf8Size_lineFeed : '\n'.utf8Size = 1 := rfl

@[simp] theorem beforeLine_zero (t : Text) : beforeLine 0 t = [] := by cases t <;> rfl
@[simp] theorem fromLine_zero (t : Text) : fromLine 0 t = t := by cases t <;> rfl

/-- No line is lost or doubled at a cut between lines. -/
theorem beforeLine_append_fromLine (n : Nat) (t : Text) : beforeLine n t ++ fromLine n t = t := by
  induction t generalizing n with
  | nil => cases n <;> rfl
  | cons c t ih =>
    cases n with
    | zero => rfl
    | succ n => simp only [beforeLine, fromLine, List.cons_append, ih]

/-- The next line starts behind the next line feed. -/
theorem fromLine_succ (n : Nat) (t : Text) :
    fromLine (n + 1) t = ((fromLine n t).dropWhile (· != '\n')).drop 1 := by
  induction t generalizing n with
  | nil => cases n <;> rfl
  | cons c t ih =>
    cases n with
    | zero => by_cases hc : c = '\n' <;> simp [fromLine, hc, ih]
    | succ n => by_cases hc : c = '\n' <;> simp [fromLine, hc, ih]

/-- What is left of a text at the start of a line: the line, its line feed if it has one, and the
lines after it. -/
theorem fromLine_eq_append (n : Nat) (t : Text) :
    ∃ feed, feed <+: ['\n'] ∧ fromLine n t = lineOf n t ++ feed ++ fromLine (n + 1) t := by
  have hs : fromLine n t = lineOf n t ++ (fromLine n t).dropWhile (· != '\n') :=
    List.takeWhile_append_dropWhile.symm
  cases hd : (fromLine n t).dropWhile (· != '\n') with
  | nil => exact ⟨[], List.nil_prefix, by rw [hs, fromLine_succ, hd]; simp⟩
  | cons c rest =>
    have hc : c = '\n' := by
      have h := List.head?_dropWhile_not (· != '\n') (fromLine n t)
      simpa [hd] using h
    refine ⟨['\n'], List.prefix_rfl, ?_⟩
    rw [fromLine_succ, hd, hc]
    simpa [hd, hc] using hs

theorem toColumn_isPrefix (column here : Nat) (line : Text) :
    toColumn column here line <+: line := by
  induction line generalizing here with
  | nil => exact List.nil_prefix
  | cons c line ih =>
    simp only [toColumn]
    split
    · exact List.nil_prefix
    · exact List.cons_prefix_cons.2 ⟨rfl, ih _⟩

/-- Columns in order cut a line in order, unless the first lies inside a character. -/
theorem toColumn_isPrefix_toColumn {a b here : Nat} (line : Text) (hh : here ≤ a) (hab : a ≤ b)
    (hs : splitsPair a here line = false) :
    toColumn a here line <+: toColumn b here line := by
  induction line generalizing here with
  | nil => exact List.nil_prefix
  | cons c line ih =>
    simp only [splitsPair, Bool.or_eq_false_iff, Bool.and_eq_false_iff, decide_eq_false_iff_not]
      at hs
    by_cases ha : here = a
    · simp [toColumn, ha]
    · have hb : here ≠ b := by omega
      have hn : here + unitsOf c ≤ a := by omega
      simp only [toColumn, if_neg ha, if_neg hb]
      exact List.cons_prefix_cons.2 ⟨rfl, ih hn hs.2⟩

/-- The column behind a beginning of a line leads to that beginning. -/
theorem toColumn_append (here : Nat) (first rest : Text) :
    toColumn (here + unitSize first) here (first ++ rest) = first := by
  induction first generalizing here with
  | nil => cases rest <;> simp [toColumn]
  | cons c first ih =>
    have hc := unitsOf_pos c
    simp only [List.cons_append, unitSize_cons, toColumn]
    rw [if_neg (by omega), ← Nat.add_assoc, ih]

/-- On its own line a position is found by walking columns. -/
theorem go_of_line (p : Position) (t : Text) (column offset : Nat) :
    offset?.go p t p.line column offset =
      some (offset + byteSize (toColumn p.column column (t.takeWhile (· != '\n')))) := by
  induction t generalizing column offset with
  | nil => simp [offset?.go, toColumn]
  | cons c t ih =>
    by_cases hn : c = '\n'
    · subst hn
      simp [offset?.go, toColumn]
    · by_cases hc : column = p.column
      · simp [offset?.go, toColumn, hn, hc]
      · simp [offset?.go, toColumn, hn, hc, ih, Nat.add_assoc]

/-- From an earlier line the search goes on to the start of the position's line, if there is one. -/
theorem go_before_line (p : Position) (n : Nat) (t : Text) (line column offset : Nat)
    (hp : p.line = line + n) (hn : 0 < n) :
    offset?.go p t line column offset =
      if n ≤ t.lastLine then
        offset?.go p (fromLine n t) p.line 0 (offset + byteSize (beforeLine n t))
      else none := by
  induction t generalizing n line column offset with
  | nil =>
    have hl : line ≠ p.line := by omega
    simp [offset?.go, lastLine, hl, Nat.not_le.2 hn]
  | cons c t ih =>
    obtain ⟨n, rfl⟩ : ∃ k, n = k + 1 := ⟨n - 1, by omega⟩
    have hl : line ≠ p.line := by omega
    by_cases hc : c = '\n'
    · subst hc
      cases n with
      | zero =>
        have he : line + 1 = p.line := by omega
        simp [offset?.go, hl, he, lastLine, fromLine, beforeLine, utf8Size_lineFeed]
      | succ n =>
        rw [offset?.go, if_neg (by simp [hl]), if_pos rfl, if_neg hl,
          ih (n + 1) (line + 1) 0 (offset + 1) (by omega) (by omega)]
        simp [lastLine, fromLine, beforeLine, utf8Size_lineFeed, Nat.add_assoc]
    · rw [offset?.go, if_neg (by simp [hl]), if_neg hc,
        ih (n + 1) line _ (offset + c.utf8Size) hp (by omega)]
      simp [lastLine, fromLine, beforeLine, hc, Nat.add_assoc]

/-- A position has an offset exactly when its line exists, and the offset is the size of the text
before it. -/
theorem offset?_eq (t : Text) (p : Position) :
    t.offset? p = if p.line ≤ t.lastLine then some (byteSize (t.before p)) else none := by
  by_cases hz : p.line = 0
  · have h := go_of_line p t 0 0
    rw [hz] at h
    simp [offset?, before, lineOf, hz, h]
  · rw [offset?, go_before_line p p.line t 0 0 0 (by omega) (by omega)]
    by_cases hl : p.line ≤ t.lastLine
    · simp [hl, go_of_line, before, lineOf]
    · simp [hl]

theorem offset?_of_le {t : Text} {p : Position} (h : p.line ≤ t.lastLine) :
    t.offset? p = some (byteSize (t.before p)) := by rw [offset?_eq, if_pos h]

theorem offset?_of_lt {t : Text} {p : Position} (h : t.lastLine < p.line) :
    t.offset? p = none := by rw [offset?_eq, if_neg (Nat.not_le.2 h)]

@[simp] theorem trailing_append_singleton (p : Char → Bool) (t : Text) (c : Char) :
    trailing p (t ++ [c]) = if p c then trailing p t ++ [c] else [] := by
  by_cases hc : p c <;> simp [trailing, hc]

theorem mem_trailing (p : Char → Bool) (t : Text) : ∀ c ∈ trailing p t, p c = true := by
  intro c hc
  rw [trailing, List.mem_reverse] at hc
  exact List.all_eq_true.1 List.all_takeWhile c hc

theorem forall_bne_of_not_mem {a : Char} {t : Text} (h : a ∉ t) : ∀ c ∈ t, (c != a) = true := by
  intro c hc
  rw [bne_iff_ne]
  rintro rfl
  exact h hc

/-- A beginning of `p` characters ends where the first other character stands. -/
theorem takeWhile_append_of_head {p : Char → Bool} {s t : Text} (hs : ∀ c ∈ s, p c = true)
    (ht : ∀ c ∈ t.head?, p c = false) : (s ++ t).takeWhile p = s := by
  rw [List.takeWhile_append_of_pos hs]
  cases t with
  | nil => simp
  | cons c t => simp [ht c rfl]

theorem dropWhile_append_of_head {p : Char → Bool} {s t : Text} (hs : ∀ c ∈ s, p c = true)
    (ht : ∀ c ∈ t.head?, p c = false) : (s ++ t).dropWhile p = t := by
  rw [List.dropWhile_append_of_pos hs]
  cases t with
  | nil => rfl
  | cons c t => simp [ht c rfl]

/-- The line that a text ends in goes on in what follows the text. -/
theorem fromLine_count_append (x z : Text) :
    fromLine (x.count '\n') (x ++ z) = trailing (· != '\n') x ++ z := by
  induction x using List.reverseRecOn generalizing z with
  | nil => simp [trailing]
  | append_singleton x c ih =>
    have hx : fromLine (x.count '\n') (x ++ [c] ++ z) = trailing (· != '\n') x ++ c :: z := by
      simpa using ih (c :: z)
    by_cases hc : c = '\n'
    · subst hc
      rw [List.count_append, List.count_singleton_self, fromLine_succ, hx,
        List.dropWhile_append_of_pos (mem_trailing _ x)]
      simp
    · simpa [hc] using hx

theorem beforeLine_count_append (x z : Text) :
    beforeLine (x.count '\n') (x ++ z) ++ trailing (· != '\n') x = x := by
  have h := beforeLine_append_fromLine (x.count '\n') (x ++ z)
  rw [fromLine_count_append, ← List.append_assoc] at h
  exact List.append_cancel_right h

theorem lineOf_count_append (x z : Text) :
    lineOf (x.count '\n') (x ++ z) =
      trailing (· != '\n') x ++ z.takeWhile (· != '\n') := by
  rw [lineOf, fromLine_count_append, List.takeWhile_append_of_pos (mem_trailing _ x)]

/-- What stands before the position at the end of a beginning is that beginning. -/
theorem before_endOf (x z : Text) : (x ++ z).before (endOf x) = x := by
  have hc := toColumn_append 0 (trailing (· != '\n') x) (z.takeWhile (· != '\n'))
  rw [Nat.zero_add] at hc
  simp only [before, endOf, lineOf_count_append, hc, beforeLine_count_append]

/-- Offsets invert the positions of cuts. -/
theorem offset?_endOf (x z : Text) : (x ++ z).offset? (endOf x) = some (byteSize x) := by
  have hl : (endOf x).line ≤ (x ++ z).lastLine := by simp [endOf, lastLine]
  rw [offset?_of_le hl, before_endOf]

theorem split_of_not_mem {sep : Char} {t : Text} (h : sep ∉ t) : split sep t = [t] := by
  induction t with
  | nil => rfl
  | cons c t ih =>
    rw [List.mem_cons, not_or] at h
    rw [split, if_neg (Ne.symm h.1), ih h.2]

/-- The first piece of a split ends before the first separator. -/
theorem split_append {sep : Char} {piece : Text} (h : sep ∉ piece) (t : Text) :
    split sep (piece ++ sep :: t) = piece :: split sep t := by
  induction piece with
  | nil => simp [split]
  | cons c piece ih =>
    rw [List.mem_cons, not_or] at h
    rw [List.cons_append, split, if_neg (Ne.symm h.1), ih h.2]

/-- Splitting at line feeds gives the lines by their numbers. -/
theorem getElem?_split (n : Nat) (t : Text) :
    (split '\n' t)[n]? = if n ≤ t.lastLine then some (lineOf n t) else none := by
  induction t generalizing n with
  | nil => cases n <;> simp [split, lastLine, lineOf]
  | cons c t ih =>
    by_cases hc : c = '\n'
    · subst hc
      cases n with
      | zero => simp [split, lineOf]
      | succ n =>
        have hl : lastLine ('\n' :: t) = lastLine t + 1 := List.count_cons_self
        rw [hl, split, if_pos rfl, List.getElem?_cons_succ, ih n]
        simp only [Nat.add_le_add_iff_right]
        rfl
    · have hz : (split '\n' t)[0]? = some (lineOf 0 t) := by simp [ih 0]
      cases hs : split '\n' t with
      | nil => simp [hs] at hz
      | cons piece pieces =>
        rw [hs] at hz ih
        cases n with
        | zero => simpa [split, hs, hc, lineOf] using hz
        | succ n =>
          have hl : lastLine (c :: t) = lastLine t := List.count_cons_of_ne hc
          have hf : lineOf (n + 1) (c :: t) = lineOf (n + 1) t := by simp [lineOf, fromLine, hc]
          rw [hl, hf, split, if_neg hc, hs]
          exact ih (n + 1)

theorem line?_eq (n : Nat) (t : Text) :
    t.line? n = if n ≤ t.lastLine then some (dropReturn (lineOf n t)) else none := by
  rw [line?, getElem?_split]
  split <;> rfl

theorem dropReturn_append (t : Text) : dropReturn (t ++ ['\r']) = t := by
  simp [dropReturn, before?]

theorem dropReturn_of_getLast? {t : Text} (h : t.getLast? ≠ some '\r') : dropReturn t = t := by
  have hs : ['\r'].isSuffixOf t = false := by
    rw [Bool.eq_false_iff, Ne, List.isSuffixOf_iff_suffix]
    rintro ⟨s, rfl⟩
    simp at h
  simp [dropReturn, before?, hs]

theorem dropReturn_append_cons (s : Text) {c : Char} (hc : c ≠ '\r') (t : Text) :
    dropReturn (s ++ c :: t) = s ++ c :: dropReturn t := by
  by_cases h : t.getLast? = some '\r'
  · obtain ⟨u, rfl⟩ := List.getLast?_eq_some_iff.1 h
    have hu : s ++ c :: (u ++ ['\r']) = (s ++ c :: u) ++ ['\r'] := by simp
    rw [hu, dropReturn_append, dropReturn_append]
  · have hl : (s ++ c :: t).getLast? ≠ some '\r' := by
      rw [List.getLast?_append, List.getLast?_cons, Option.some_or, Ne, Option.some.injEq]
      cases ht : t.getLast? with
      | none => exact hc
      | some d =>
        intro hd
        rw [ht] at h
        exact h (congrArg some hd)
    rw [dropReturn_of_getLast? h, dropReturn_of_getLast? hl]

theorem dropReturn_isPrefix (t : Text) : dropReturn t <+: t := by
  by_cases h : t.getLast? = some '\r'
  · obtain ⟨s, rfl⟩ := List.getLast?_eq_some_iff.1 h
    rw [dropReturn_append]
    exact List.prefix_append s _
  · refine ⟨[], ?_⟩
    rw [List.append_nil, dropReturn_of_getLast? h]

end Text

end CustomProps
