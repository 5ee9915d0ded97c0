import CustomProps.Proofs.Lines
import CustomProps.Server.Sync

/-!
What a ranged change does to the lines of a text. Between two cuts of the text it replaces what
stands there and nothing else, so a range whose lines exist leaves all lines outside it as they
were. A range that ends on a line which the text does not have is no range of it, and the change
then gives the whole text.
-/

namespace CustomProps

/-- Positions in reading order. -/
instance : LE Position where
  le p q := p.line < q.line ∨ p.line = q.line ∧ p.column ≤ q.column

instance (p q : Position) : Decidable (p ≤ q) :=
  inferInstanceAs (Decidable (p.line < q.line ∨ p.line = q.line ∧ p.column ≤ q.column))

namespace Text

/-- Whether a range starts inside a character of two units and ends at a character of the same line:
then its start means the end of the line, which lies after its end. -/
def crosses (t : Text) (r : Range) : Bool :=
  let line := lineOf r.start.line t
  r.start.line == r.stop.line && splitsPair r.start.column 0 line &&
    toColumn r.stop.column 0 line != line

/-- Replacing what stands between two cuts keeps both ends. -/
theorem splice_append (x y z new : Text) :
    splice (x ++ y ++ z) (byteSize x) (byteSize (x ++ y)) new = x ++ new ++ z := by
  have hx : takeBytes (x ++ y ++ z) (byteSize x) = x := by
    rw [List.append_assoc, takeBytes_append]
  rw [splice, hx, dropBytes_append]

/-- A change between two positions, the text before the first being the beginning of the text before
the second. -/
theorem change_between {t x y z new : Text} {r : Range} (ht : t = x ++ y ++ z)
    (hs : t.offset? r.start = some (byteSize x))
    (he : t.offset? r.stop = some (byteSize (x ++ y))) :
    t.change ⟨some r, new⟩ = x ++ new ++ z := by
  have hle : byteSize x ≤ byteSize (x ++ y) := by simp
  simp only [change, hs, he, if_pos hle]
  rw [ht, splice_append]

/-- A change at the positions of two cuts replaces what stands between them. -/
theorem change_endOf (x y z new : Text) :
    (x ++ y ++ z).change ⟨some ⟨endOf x, endOf (x ++ y)⟩, new⟩ = x ++ new ++ z := by
  apply change_between rfl
  · rw [List.append_assoc]
    exact offset?_endOf x (y ++ z)
  · exact offset?_endOf (x ++ y) z

/-- A range that ends behind the last line is none of the text's. -/
theorem change_of_lastLine_lt {t : Text} {r : Range} (new : Text) (h : t.lastLine < r.stop.line) :
    t.change ⟨some r, new⟩ = new := by
  simp only [change, offset?_of_lt h]
  split <;> simp_all

/-- One more line before a line is the line with its line feed. -/
theorem beforeLine_succ (n : Nat) (t : Text) :
    ∃ feed, feed <+: ['\n'] ∧ beforeLine (n + 1) t = beforeLine n t ++ lineOf n t ++ feed := by
  obtain ⟨feed, hf, he⟩ := fromLine_eq_append n t
  have h : beforeLine (n + 1) t ++ fromLine (n + 1) t =
      beforeLine n t ++ lineOf n t ++ feed ++ fromLine (n + 1) t := by
    calc beforeLine (n + 1) t ++ fromLine (n + 1) t
        = beforeLine n t ++ fromLine n t := by simp only [beforeLine_append_fromLine]
      _ = beforeLine n t ++ lineOf n t ++ feed ++ fromLine (n + 1) t := by
        rw [he]; simp only [List.append_assoc]
  exact ⟨feed, hf, List.append_cancel_right h⟩

theorem beforeLine_isPrefix {m n : Nat} (h : m ≤ n) (t : Text) :
    beforeLine m t <+: beforeLine n t := by
  induction h with
  | refl => exact List.prefix_rfl
  | @step n _ ih =>
    obtain ⟨feed, -, he⟩ := beforeLine_succ n t
    rw [he, List.append_assoc]
    exact ih.trans (List.prefix_append _ _)

/-- A position splits the text into what stands before it, the rest of its line, and the lines after
that. -/
theorem append_before (t : Text) (p : Position) :
    ∃ tail, tail ++ fromLine (p.line + 1) t <:+ fromLine p.line t ∧
      t = t.before p ++ (tail ++ fromLine (p.line + 1) t) := by
  obtain ⟨feed, -, he⟩ := fromLine_eq_append p.line t
  obtain ⟨rest, hr⟩ := toColumn_isPrefix p.column 0 (lineOf p.line t)
  have hl : fromLine p.line t = toColumn p.column 0 (lineOf p.line t) ++
      (rest ++ feed ++ fromLine (p.line + 1) t) := by
    nth_rewrite 1 [he]
    nth_rewrite 1 [← hr]
    simp only [List.append_assoc]
  refine ⟨rest ++ feed, ⟨_, hl.symm⟩, ?_⟩
  calc t = beforeLine p.line t ++ fromLine p.line t := (beforeLine_append_fromLine _ t).symm
    _ = t.before p ++ (rest ++ feed ++ fromLine (p.line + 1) t) := by
        rw [hl, before]; simp only [List.append_assoc]

/-- Positions in order cut the text in order. -/
theorem before_isPrefix_before {t : Text} {r : Range} (ho : r.start ≤ r.stop)
    (hc : t.crosses r = false) : t.before r.start <+: t.before r.stop := by
  rcases ho with hl | ⟨hl, hcol⟩
  · obtain ⟨feed, -, he⟩ := beforeLine_succ r.start.line t
    have hp : t.before r.start <+: beforeLine (r.start.line + 1) t := by
      rw [he, before, List.append_assoc]
      exact (List.prefix_append_right_inj _).2
        ((toColumn_isPrefix _ _ _).trans (List.prefix_append _ _))
    exact (hp.trans (beforeLine_isPrefix hl t)).trans (List.prefix_append _ _)
  · simp only [before, ← hl]
    apply (List.prefix_append_right_inj _).2
    cases hs : splitsPair r.start.column 0 (lineOf r.start.line t) with
    | false => exact toColumn_isPrefix_toColumn _ (Nat.zero_le _) hcol hs
    | true =>
      have hw : toColumn r.stop.column 0 (lineOf r.start.line t) = lineOf r.start.line t := by
        simpa [crosses, ← hl, hs] using hc
      rw [hw]
      exact toColumn_isPrefix _ _ _

/-- A range of the text's own lines touches only these: what it keeps of its first line stands
after all lines before, and what it keeps of its last line before all lines after. A range that ends
behind the last line gives the whole text. -/
theorem change_keeps_other_lines (t : Text) (r : Range) (new : Text) (ho : r.start ≤ r.stop) :
    (r.stop.line ≤ t.lastLine → t.crosses r = false →
      ∃ head tail, head <+: lineOf r.start.line t ∧
        tail ++ fromLine (r.stop.line + 1) t <:+ fromLine r.stop.line t ∧
        t.change ⟨some r, new⟩ =
          beforeLine r.start.line t ++ head ++ new ++ tail ++ fromLine (r.stop.line + 1) t) ∧
    (t.lastLine < r.stop.line → t.change ⟨some r, new⟩ = new) := by
  refine ⟨fun hl hc => ?_, change_of_lastLine_lt new⟩
  have hs : r.start.line ≤ t.lastLine := by
    rcases ho with h | ⟨h, -⟩ <;> omega
  obtain ⟨y, hy⟩ := before_isPrefix_before ho hc
  obtain ⟨tail, ht, he⟩ := append_before t r.stop
  refine ⟨toColumn r.start.column 0 (lineOf r.start.line t), tail, toColumn_isPrefix _ _ _, ht, ?_⟩
  have hsplit : t = t.before r.start ++ y ++ (tail ++ fromLine (r.stop.line + 1) t) := by
    rw [hy]; exact he
  rw [change_between hsplit (offset?_of_le hs) (by rw [hy]; exact offset?_of_le hl), before]
  simp only [List.append_assoc]

/-- The middle line of three, a character of two units in it taken out. -/
theorem change_keeps_other_lines_around_pair :
    (⟨1, 1⟩ : Position) ≤ ⟨1, 3⟩ ∧
    ∃ head tail, head <+: lineOf 1 "a\nb😀c\nd".toList ∧
      tail ++ fromLine 2 "a\nb😀c\nd".toList <:+ fromLine 1 "a\nb😀c\nd".toList ∧
      change "a\nb😀c\nd".toList ⟨some ⟨⟨1, 1⟩, ⟨1, 3⟩⟩, "x".toList⟩ =
        beforeLine 1 "a\nb😀c\nd".toList ++ head ++ "x".toList ++ tail ++
          fromLine 2 "a\nb😀c\nd".toList :=
  ⟨by decide, (change_keeps_other_lines "a\nb😀c\nd".toList ⟨⟨1, 1⟩, ⟨1, 3⟩⟩ "x".toList
    (by decide)).1 (by decide) (by decide)⟩

/-- Not every range in reading order keeps the lines outside it: one that ends on a missing line
does not keep the lines before its start. -/
theorem change_to_missing_line_drops_lines :
    ¬ ∀ (t : Text) (r : Range) (new : Text), r.start ≤ r.stop →
      beforeLine r.start.line t <+: t.change ⟨some r, new⟩ ∧
        fromLine (r.stop.line + 1) t <:+ t.change ⟨some r, new⟩ := by
  intro h
  have hl := (h "a\nb".toList ⟨⟨1, 1⟩, ⟨2, 0⟩⟩ "c".toList (by decide)).1
  exact absurd hl (by decide)

/-- Nor does a range that crosses. -/
example : crosses "a\n😀b".toList ⟨⟨1, 1⟩, ⟨1, 2⟩⟩ = true ∧
    change "a\n😀b".toList ⟨some ⟨⟨1, 1⟩, ⟨1, 2⟩⟩, "c".toList⟩ = "c".toList := by decide

end Text

end CustomProps
