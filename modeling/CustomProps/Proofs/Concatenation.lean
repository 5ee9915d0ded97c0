import CustomProps.Proofs.Firsts
import CustomProps.Proofs.Written

/-!
A text read in two parts. A quote may be sought past the end of its line only behind a backslash,
and a literal in backticks only up to its closing backtick. So where the first part ends its last
line and leaves no backtick open, nothing in it reaches into the second part: each part has the
regions it has alone, and the second part declares the names that the first one does not.
-/

namespace CustomProps

namespace Text

/-- Whether a text is empty or ends with a line feed that no backslash takes along. -/
def EndsLine (t : Text) : Prop := t = [] ∨ ∃ s, t = s ++ ['\n'] ∧ s.getLast? ≠ some '\\'

/-- Whether the reading of a text stops at a backtick that is never closed. -/
def leavesOpen : Text → Bool
  | [] => false
  | c :: t =>
    if c = '/' ∧ t.head? = some '/' then leavesOpen (t.tail.dropWhile (· != '\n'))
    else if isQuoteMark c then
      match _h : literal? c t with
      | some (_, rest) => leavesOpen rest
      | none => c == backtick || leavesOpen t
    else leavesOpen t
termination_by t => t.length
decreasing_by
  · have h : (t.tail.dropWhile (· != '\n')).length ≤ t.tail.length :=
      (List.dropWhile_sublist _).length_le
    simp only [List.length_tail, List.length_cons] at h ⊢
    omega
  · rw [eq_append_of_literal? _h]
    simp only [List.length_append, List.length_cons]
    omega
  · exact Nat.lt_succ_self _
  · exact Nat.lt_succ_self _

theorem EndsLine.of_append {x y : Text} (h : EndsLine (x ++ y)) : EndsLine y := by
  induction y using List.reverseRecOn with
  | nil => exact .inl rfl
  | append_singleton y c _ =>
    rcases h with h | ⟨s, hs, hl⟩
    · simp at h
    · rw [← List.append_assoc] at hs
      obtain ⟨rfl, hc⟩ := List.append_inj' hs rfl
      refine .inr ⟨y, by rw [hc], ?_⟩
      intro hy
      simp [List.getLast?_append, hy] at hl

theorem EndsLine.of_cons {c : Char} {y : Text} (h : EndsLine (c :: y)) : EndsLine y :=
  of_append (x := [c]) h

theorem EndsLine.mem_of_ne_nil {t : Text} (h : EndsLine t) (hne : t ≠ []) : '\n' ∈ t := by
  rcases h with h | ⟨s, rfl, -⟩
  · exact absurd h hne
  · simp

theorem EndsLine.ne_nil_of_cons {c : Char} {t : Text} (h : EndsLine (c :: t)) (hc : c ≠ '\n') :
    t ≠ [] := by
  rintro rfl
  have hm := h.mem_of_ne_nil (List.cons_ne_nil _ _)
  exact hc (List.mem_singleton.1 hm).symm

theorem lineFeed_not_mem_takeWhile (t : Text) : '\n' ∉ t.takeWhile (· != '\n') := by
  intro h
  simpa using List.mem_takeWhile_imp h

theorem head?_dropWhile_of_mem {t : Text} (h : '\n' ∈ t) :
    (t.dropWhile (· != '\n')).head? = some '\n' := by
  induction t with
  | nil => cases h
  | cons c t ih =>
    by_cases hc : c = '\n'
    · simp [hc]
    · have ht := ih (List.mem_of_ne_of_mem (Ne.symm hc) h)
      simpa [hc] using ht

theorem not_comment_of_isQuoteMark {c : Char} (h : isQuoteMark c = true) (t : Text) :
    ¬ (c = '/' ∧ t.head? = some '/') := by
  rintro ⟨rfl, -⟩
  exact absurd h (by decide)

theorem leavesOpen_of_literal? {c : Char} {t body rest : Text} (hq : isQuoteMark c = true)
    (h : literal? c t = some (body, rest)) : leavesOpen (c :: t) = leavesOpen rest := by
  rw [leavesOpen, if_neg (not_comment_of_isQuoteMark hq t), if_pos hq]
  split
  · rename_i h'
    rw [h] at h'
    cases h'
    rfl
  · rename_i h'
    rw [h] at h'
    cases h'

theorem leavesOpen_of_none {c : Char} {t : Text} (hq : isQuoteMark c = true)
    (h : literal? c t = none) : leavesOpen (c :: t) = (c == backtick || leavesOpen t) := by
  rw [leavesOpen, if_neg (not_comment_of_isQuoteMark hq t), if_pos hq]
  split
  · rename_i h'
    rw [h] at h'
    cases h'
  · rfl

theorem literal?_cons {quote c : Char} (hb : c ≠ '\\') (t : Text) :
    literal? quote (c :: t) =
      if c = '\n' ∧ quote ≠ backtick then none
      else if c = quote then some ([], t)
      else (literal? quote t).map fun p => (c :: p.1, p.2) := by
  rw [literal?.eq_def]
  simp only [if_neg hb]

/-- Where a quote is not closed in a text, it is not closed either when an end of the text is
replaced by one that does not close it. The end's first character must count only if a backslash
does not take it along. -/
theorem literal?_append_eq_none {quote : Char} {x w w' : Text}
    (h : literal? quote (x ++ w) = none) (hw : literal? quote w' = none)
    (hx : x.getLast? = some '\\' → literal? quote w'.tail = none) :
    literal? quote (x ++ w') = none := by
  fun_induction literal? quote x with
  | case1 => exact hw
  | case2 =>
    cases w' with
    | nil => exact hw
    | cons d w' => simpa [literal?] using hx
  | case3 d t ih =>
    simp only [List.cons_append, literal?, if_pos, Option.map_eq_none_iff] at h ⊢
    apply ih h
    intro ht
    apply hx
    simp [List.getLast?_cons, ht]
  | case4 c t hb hf => rw [List.cons_append, literal?_cons hb, if_pos hf]
  | case5 t hb hf =>
    rw [List.cons_append, literal?_cons hb, if_neg hf, if_pos rfl] at h
    cases h
  | case6 c t hb hf hc ih =>
    rw [List.cons_append, literal?_cons hb, if_neg hf, if_neg hc, Option.map_eq_none_iff] at h ⊢
    apply ih h
    intro ht
    apply hx
    simp [List.getLast?_cons, ht]

theorem add_byteSize_comment (i : Nat) (line x : Text) :
    i + byteSize ('/' :: '/' :: (line ++ x)) = i + 2 + byteSize line + byteSize x := by
  simp only [byteSize_cons, byteSize_append, utf8Size_of_lt (show '/'.toNat < 128 by decide)]
  omega

theorem add_byteSize_literal {quote : Char} (hq : isQuoteMark quote = true) (i : Nat)
    (body x : Text) :
    i + byteSize (quote :: (body ++ quote :: x)) = i + 2 + byteSize body + byteSize x := by
  simp only [byteSize_cons, byteSize_append, utf8Size_of_lt (lt_of_isQuoteMark hq)]
  omega

theorem add_byteSize_quote {quote : Char} (hq : isQuoteMark quote = true) (i : Nat) (x : Text) :
    i + byteSize (quote :: x) = i + 1 + byteSize x := by
  rw [byteSize_cons, utf8Size_of_lt (lt_of_isQuoteMark hq), Nat.add_assoc]

/-- What follows a text that ends its last line closes no quote of the text. -/
theorem EndsLine.literal?_append {t : Text} (ht : EndsLine t) (hne : t ≠ []) {quote : Char}
    (hq : quote ≠ backtick) (h : literal? quote t = none) (b : Text) :
    literal? quote (t ++ b) = none := by
  rcases ht with ht | ⟨s, rfl, hs⟩
  · exact absurd ht hne
  · rw [List.append_assoc, List.singleton_append]
    apply literal?_append_eq_none h
    · rw [literal?_cons (by decide), if_pos ⟨rfl, hq⟩]
    · exact fun hl => absurd hl hs

/-- A reading whose text ends its last line and leaves no backtick open goes on in the next text. -/
theorem reads_append {i : Nat} {a b : Text} {rs : List Region} (ha : EndsLine a)
    (hc : leavesOpen a = false) (hb : Reads (i + byteSize a) b rs) :
    Reads i (a ++ b) (regionsFrom i a ++ rs) := by
  fun_induction regionsFrom i a with
  | case1 i => exact hb
  | case2 i c t hs line ih =>
    rw [leavesOpen, if_pos hs] at hc
    obtain ⟨rfl, ht⟩ := hs
    obtain ⟨t, rfl⟩ := List.head?_eq_some_iff.1 ht
    simp only [List.tail_cons] at line ih hc ⊢
    have hline : t = line ++ t.dropWhile (· != '\n') := List.takeWhile_append_dropWhile.symm
    have hl : '\n' ∉ line := lineFeed_not_mem_takeWhile t
    have hfeed : '\n' ∈ t := by simpa using ha.mem_of_ne_nil (by simp)
    have he : ∀ c ∈ (t.dropWhile (· != '\n') ++ b).head?, c = '\n' := by
      intro c hc
      rw [List.head?_append, head?_dropWhile_of_mem hfeed] at hc
      simpa using hc.symm
    rw [hline, add_byteSize_comment] at hb
    have hrest : EndsLine (t.dropWhile (· != '\n')) := by
      have h := ha.of_cons.of_cons
      rw [hline] at h
      exact h.of_append
    have h := Reads.comment hl he (ih hrest hc hb)
    rwa [← List.append_assoc, ← hline] at h
  | case3 i c t hs hq body rest h ih =>
    rw [leavesOpen_of_literal? hq h] at hc
    obtain ⟨hbody, rfl⟩ := (literal?_eq_some_iff hq).1 h
    rw [add_byteSize_literal hq] at hb
    have h := Reads.literal hq hbody (ih ha.of_cons.of_append.of_cons hc hb)
    simpa using h
  | case4 i t hs hq h =>
    rw [leavesOpen_of_none hq h] at hc
    exact absurd hc (by simp)
  | case5 i c t hs hq h hne ih =>
    -- The quote is passed over in `a`, and it must not find its end in `b`.
    rw [leavesOpen_of_none hq h, Bool.or_eq_false_iff] at hc
    have ht : t ≠ [] := by
      apply ha.ne_nil_of_cons
      rintro rfl
      exact absurd hq (by decide)
    rw [add_byteSize_quote hq] at hb
    refine .openQuote hq hne ?_ (ih ha.of_cons hc.2 hb)
    rw [← literal?_eq_none_iff hq]
    exact ha.of_cons.literal?_append ht hne h b
  | case6 i c t hs hq ih =>
    rw [leavesOpen, if_neg hs, if_neg hq] at hc
    rw [byteSize_cons, ← Nat.add_assoc] at hb
    refine .other (Bool.eq_false_iff.2 hq) ?_ (ih ha.of_cons hc hb)
    -- A slash is not the last character of `a`, so no slash of `b` makes it a comment.
    rintro ⟨rfl, hh⟩
    obtain ⟨d, u, rfl⟩ := List.exists_cons_of_ne_nil (ha.ne_nil_of_cons (by decide))
    exact hs ⟨rfl, hh⟩

theorem regions_append {a b : Text} (ha : EndsLine a) (hc : leavesOpen a = false) :
    (a ++ b).regions = a.regions ++ b.regions.map (Region.shift (byteSize a)) := by
  have h := (reads_append ha hc (reads_regionsFrom (0 + byteSize a) b)).eq_regionsFrom
  rw [regions_eq (a ++ b), ← h, Nat.zero_add, regionsFrom_eq_map_shift (byteSize a) b,
    regions_eq a]

theorem written_append {a b : Text} (ha : EndsLine a) (hc : leavesOpen a = false) (uri : Uri) :
    (a ++ b).written uri =
      a.written uri ++ (b.written uri).map (Declaration.lower (a.count '\n')) := by
  have hin : ∀ r ∈ a.regions, r.start ≤ byteSize a := by
    intro r hr
    rw [regions_eq] at hr
    have h := ((reads_regionsFrom 0 a).bounds r hr).2
    simp only [Region.span] at h
    omega
  simp only [written_eq_flatMap]
  rw [regions_append ha hc, List.flatMap_append, flatMap_writtenIn_left hin,
    flatMap_writtenIn_right]

/-- Where the first of two texts ends its last line and leaves no backtick open, both have the
regions that they have alone, and declare what they declare alone except that the second loses the
names of the first. -/
theorem extraction_append {a b : Text} (ha : EndsLine a) (hc : leavesOpen a = false) (uri : Uri) :
    (a ++ b).regions = a.regions ++ b.regions.map (Region.shift (byteSize a)) ∧
    (a ++ b).declarations uri = a.declarations uri ++
      ((b.declarations uri).filter fun d => d.name ∉ (a.declarations uri).map (·.name)).map
        (Declaration.lower (a.count '\n')) := by
  refine ⟨regions_append ha hc, ?_⟩
  rw [declarations_eq, written_append ha hc, Index.firsts_append,
    Index.firsts_map (Declaration.name_lower _), ← declarations_eq, ← declarations_eq,
    List.filter_map]
  congr 2
  apply List.filter_congr
  intro d _
  rw [Bool.eq_iff_iff]
  simp

end Text

/-! A script with a quote in a comment and one that is not closed on its line, and a script that
declares one of its names again. -/

namespace Sample

def script : Uri := ⟨"file".toList, some .nobody, "/w/a.ts".toList, none, none⟩

def unevenLines : Text := "// it's `\n'no\nf(`--x: 1px;`, \"--y: 2px\")".toList

def uneven : Text := unevenLines ++ ['\n']

def again : Text := "css`--x: 3px;\n--z: 4px`".toList

end Sample

namespace Text

theorem extraction_append_of_sample :
    EndsLine Sample.uneven ∧ leavesOpen Sample.uneven = false ∧
    ((Sample.uneven ++ Sample.again : Text).declarations Sample.script).map
        (fun d => (d.name, d.value, d.range.start.line)) =
      [("--x".toList, "1px".toList, 2), ("--y".toList, "2px".toList, 2),
        ("--z".toList, "4px".toList, 4)] ∧
    (Sample.uneven ++ Sample.again : Text).regions =
      Sample.uneven.regions ++ Sample.again.regions.map (Region.shift (byteSize Sample.uneven)) ∧
    (Sample.uneven ++ Sample.again : Text).declarations Sample.script =
      Sample.uneven.declarations Sample.script ++
      ((Sample.again.declarations Sample.script).filter
        fun d => d.name ∉ (Sample.uneven.declarations Sample.script).map (·.name)).map
        (Declaration.lower (Sample.uneven.count '\n')) := by
  have ha : EndsLine Sample.uneven := .inr ⟨Sample.unevenLines, rfl, by decide +kernel⟩
  have hc : leavesOpen Sample.uneven = false := by decide +kernel
  exact ⟨ha, hc, by decide +kernel, extraction_append ha hc Sample.script⟩

end Text

end CustomProps
