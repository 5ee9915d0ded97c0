import CustomProps.Proofs.Extract

/-!
A line counter through a session of questions. It keeps how far it has counted and the line reached
there, and it either goes on from that place or starts afresh; after every question the two still
belong together. So no answer depends on what was asked before: each is the number of line feeds
before its offset. A counter that keeps its line in a word of 32 bits answers the same for every
text whose lines such words can number.
-/

namespace CustomProps

namespace LineCounter

variable {bs : Bytes} {k : LineCounter}

/-- The answers of a counter that is asked for one offset after the other. -/
def answers (bs : Bytes) (k : LineCounter) : List Nat → List Nat
  | [] => []
  | offset :: offsets => (k.advance bs offset).line :: (k.advance bs offset).answers bs offsets

/-- The line feeds before an offset, counted from the start. -/
def recount (bs : Bytes) (offset : Nat) : Nat := (bs.take (min offset bs.length)).count 0x0A

theorem recount_le (t : Text) (offset : Nat) : recount t.utf8 offset ≤ t.lastLine := by
  rw [Text.lastLine, ← Text.count_utf8 (by decide)]
  exact (List.take_sublist _ _).count_le _

/-- A counter whose line belongs to its place answers every question with a recount. -/
theorem Counts.answers_eq (hk : k.Counts bs) (offsets : List Nat) :
    k.answers bs offsets = offsets.map (recount bs) := by
  induction offsets generalizing k with
  | nil => rfl
  | cons offset offsets ih =>
    have hline : (k.advance bs offset).line = recount bs offset := by
      rw [hk.line_advance, recount, ← List.take_eq_take_min]
    rw [answers, List.map_cons, hline, ih (hk.advance offset)]

end LineCounter

/-- A line counter that keeps its line in a word of 32 bits and lets sums wrap around. -/
structure WordCounter where
  counted : Nat
  line : UInt32
  deriving DecidableEq, Repr

namespace WordCounter

def start : WordCounter := ⟨0, 0⟩

def advance (bs : Bytes) (k : WordCounter) (offset : Nat) : WordCounter :=
  let offset := min offset bs.length
  if k.counted ≤ offset then
    ⟨offset, k.line + UInt32.ofNat (LineCounter.feeds bs k.counted offset)⟩
  else ⟨offset, UInt32.ofNat (LineCounter.feeds bs 0 offset)⟩

def answers (bs : Bytes) (k : WordCounter) : List Nat → List UInt32
  | [] => []
  | offset :: offsets => (k.advance bs offset).line :: (k.advance bs offset).answers bs offsets

/-- The word that a counter's line leaves. -/
def ofCounter (k : LineCounter) : WordCounter := ⟨k.counted, UInt32.ofNat k.line⟩

theorem advance_ofCounter (bs : Bytes) (k : LineCounter) (offset : Nat) :
    (ofCounter k).advance bs offset = ofCounter (k.advance bs offset) := by
  rw [advance, LineCounter.advance]
  by_cases h : k.counted ≤ min offset bs.length
  · simp [ofCounter, h]
  · simp [ofCounter, h]

theorem answers_ofCounter (bs : Bytes) (k : LineCounter) (offsets : List Nat) :
    (ofCounter k).answers bs offsets = (k.answers bs offsets).map UInt32.ofNat := by
  induction offsets generalizing k with
  | nil => rfl
  | cons offset offsets ih =>
    rw [answers, advance_ofCounter, ih, LineCounter.answers, List.map_cons]
    rfl

end WordCounter

namespace LineCounter

/-- Whatever offsets a counter is asked for, and in which order, it answers each with the number of
line feeds before it, where an offset past the end counts as the end. In words of 32 bits it answers
the same, unless the text has more lines than they can number. -/
theorem answers_eq_recounts (t : Text) (offsets : List Nat) :
    start.answers t.utf8 offsets = offsets.map (recount t.utf8) ∧
      (t.lastLine < 0x100000000 →
        (WordCounter.start.answers t.utf8 offsets).map UInt32.toNat =
          offsets.map (recount t.utf8)) := by
  have hanswers := (counts_start t.utf8).answers_eq offsets
  refine ⟨hanswers, fun hlines => ?_⟩
  have hwords : WordCounter.start.answers t.utf8 offsets =
      (offsets.map (recount t.utf8)).map UInt32.ofNat := by
    rw [← hanswers]
    exact WordCounter.answers_ofCounter t.utf8 start offsets
  rw [hwords, List.map_map, List.map_map]
  apply List.map_congr_left
  intro offset _
  exact UInt32.toNat_ofNat_of_lt' ((recount_le t offset).trans_lt hlines)

/-- The end first, then back into the second line, into the middle of a character, past the end, and
to both sides of a line feed. -/
theorem answers_eq_recounts_of_sample :
    Text.lastLine "a\n😀\nb\n".toList < 0x100000000 ∧
    start.answers (Text.utf8 "a\n😀\nb\n".toList) [9, 2, 4, 100, 0, 7, 6] = [3, 1, 1, 3, 0, 2, 1] ∧
    (WordCounter.start.answers (Text.utf8 "a\n😀\nb\n".toList) [9, 2, 4, 100, 0, 7, 6]).map
      UInt32.toNat = [3, 1, 1, 3, 0, 2, 1] := by
  have hlines : Text.lastLine "a\n😀\nb\n".toList < 0x100000000 := by decide
  have hcounts : [9, 2, 4, 100, 0, 7, 6].map (recount (Text.utf8 "a\n😀\nb\n".toList)) =
      [3, 1, 1, 3, 0, 2, 1] := by decide
  obtain ⟨hanswers, hwords⟩ := answers_eq_recounts "a\n😀\nb\n".toList [9, 2, 4, 100, 0, 7, 6]
  exact ⟨hlines, hanswers.trans hcounts, (hwords hlines).trans hcounts⟩

end LineCounter

end CustomProps
