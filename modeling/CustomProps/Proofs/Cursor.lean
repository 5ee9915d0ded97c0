import CustomProps.Proofs.Region
import CustomProps.Token
import Mathlib.Data.List.TakeWhile

/-!
The variable at a cursor. The run of name characters that touches the cursor and the run of
characters that are not blank are both pieces of its line, each as long as it can be. A name under
the cursor is the answer as long as the characters around it hold no call `var(--`. Where they do,
the answer is the first argument of the first call among them, on whichever name the cursor stands.
-/

namespace CustomProps

namespace Text

theorem byteSize_pos_of_ne_nil {t : Text} (h : t ≠ []) : 0 < byteSize t := by
  cases t with
  | nil => exact absurd rfl h
  | cons c t =>
    have hc := c.utf8Size_pos
    rw [byteSize_cons]
    omega

/-- Of two beginnings of a text the one with fewer bytes begins the other. -/
theorem isPrefix_of_byteSize_le {x y t : Text} (hx : x <+: t) (hy : y <+: t)
    (h : byteSize x ≤ byteSize y) : x <+: y := by
  rcases List.prefix_or_prefix_of_prefix hx hy with hxy | ⟨e, rfl⟩
  · exact hxy
  · by_cases he : e = []
    · simp [he]
    · have hpos := byteSize_pos_of_ne_nil he
      rw [byteSize_append] at h
      omega

/-- The column behind a beginning of a line leads to its end in bytes. -/
theorem columnToByte_append (x z : Text) : columnToByte (x ++ z) (unitSize x) = byteSize x := by
  induction x with
  | nil => cases z <;> simp [columnToByte]
  | cons c x ih =>
    have hc := unitsOf_pos c
    rw [List.cons_append, unitSize_cons, columnToByte, if_neg (by omega), Nat.add_sub_cancel_left,
      ih, byteSize_cons]

/-- The columns around a piece of a line lead to its ends in bytes. -/
theorem columnToByte_piece {line x y z : Text} (h : line = x ++ y ++ z) :
    line.columnToByte (unitSize x) = byteSize x ∧
      line.columnToByte (unitSize (x ++ y)) = byteSize (x ++ y) := by
  constructor
  · rw [h, List.append_assoc, columnToByte_append]
  · rw [h, columnToByte_append]

/-- Every column leads to a cut of its line. -/
theorem exists_columnToByte (line : Text) (column : Nat) :
    ∃ x z, line = x ++ z ∧ columnToByte line column = byteSize x := by
  induction line generalizing column with
  | nil => exact ⟨[], [], rfl, rfl⟩
  | cons c line ih =>
    by_cases hc : column = 0
    · exact ⟨[], c :: line, rfl, by simp [columnToByte, hc]⟩
    · obtain ⟨x, z, rfl, hx⟩ := ih (column - unitsOf c)
      exact ⟨c :: x, z, rfl, by rw [columnToByte, if_neg hc, hx, byteSize_cons]⟩

theorem byteToColumn_append (x z : Text) : byteToColumn (x ++ z) (byteSize x) = unitSize x := by
  rw [byteToColumn, takeBytes_append]

/-- The longest end of a text and what stands before it. -/
theorem append_trailing (p : Char → Bool) (x : Text) :
    ∃ y, x = y ++ trailing p x ∧ ∀ c ∈ y.getLast?, p c = false := by
  refine ⟨(x.reverse.dropWhile p).reverse, ?_, ?_⟩
  · rw [trailing, ← List.reverse_append, List.takeWhile_append_dropWhile, List.reverse_reverse]
  · intro c hc
    have h := List.head?_dropWhile_not p x.reverse
    rw [List.getLast?_reverse] at hc
    rw [hc] at h
    simpa using h

theorem trailing_append_of_getLast? {p : Char → Bool} {s t : Text}
    (hs : ∀ c ∈ s.getLast?, p c = false) (ht : ∀ c ∈ t, p c = true) : trailing p (s ++ t) = t := by
  have hs' : ∀ c ∈ s.reverse.head?, p c = false := by
    rw [List.head?_reverse]
    exact hs
  have ht' : ∀ c ∈ t.reverse, p c = true := fun c hc => ht c (List.mem_reverse.1 hc)
  rw [trailing, List.reverse_append, takeWhile_append_of_head ht' hs', List.reverse_reverse]

/-- The first place of `needle` in a text. -/
structure FirstAt (needle t x z : Text) : Prop where
  eq : t = x ++ (needle ++ z)
  first : ∀ x' z', t = x' ++ (needle ++ z') → x.length ≤ x'.length

/-- The search finds the first place, if there is any. -/
theorem find?_eq_some_iff {needle : Text} (hn : needle ≠ []) {t : Text} {n : Nat} :
    find? t needle = some n ↔ ∃ x z, FirstAt needle t x z ∧ n = byteSize x := by
  induction t generalizing n with
  | nil =>
    have hnone : find? [] needle = none := by simp [find?, hn]
    rw [hnone]
    refine iff_of_false (by simp) ?_
    rintro ⟨x, z, h, -⟩
    exact hn (List.append_eq_nil_iff.1 (List.append_eq_nil_iff.1 h.eq.symm).2).1
  | cons c t ih =>
    rw [find?]
    by_cases hp : needle.isPrefixOf (c :: t) = true
    · obtain ⟨z, hz⟩ := List.isPrefixOf_iff_prefix.1 hp
      rw [if_pos hp, Option.some.injEq]
      constructor
      · rintro rfl
        exact ⟨[], z, ⟨hz.symm, fun _ _ _ => Nat.zero_le _⟩, rfl⟩
      · rintro ⟨x, z', h, rfl⟩
        have hx : x = [] := List.eq_nil_of_length_eq_zero (Nat.le_zero.1 (h.first [] z hz.symm))
        rw [hx, byteSize_nil]
    · have hne : ∀ x z, c :: t = x ++ (needle ++ z) →
          ∃ x', x = c :: x' ∧ t = x' ++ (needle ++ z) := by
        intro x z h
        cases x with
        | nil => exact absurd (List.isPrefixOf_iff_prefix.2 ⟨z, h.symm⟩) hp
        | cons d x =>
          cases h
          exact ⟨x, rfl, rfl⟩
      rw [if_neg hp, Option.map_eq_some_iff]
      constructor
      · rintro ⟨m, hm, rfl⟩
        obtain ⟨x, z, h, rfl⟩ := ih.1 hm
        refine ⟨c :: x, z, ⟨by rw [h.eq]; rfl, ?_⟩, rfl⟩
        intro x' z' h'
        obtain ⟨y, rfl, hy⟩ := hne x' z' h'
        exact Nat.succ_le_succ (h.first y z' hy)
      · rintro ⟨x, z, h, rfl⟩
        obtain ⟨y, rfl, hy⟩ := hne x z h.eq
        refine ⟨byteSize y, ih.2 ⟨y, z, ⟨hy, ?_⟩, rfl⟩, rfl⟩
        intro x' z' h'
        exact Nat.le_of_succ_le_succ (h.first (c :: x') z' (by rw [h']; rfl))

/-- A text holds `needle` exactly if the search finds a place of it. -/
theorem contains_iff {needle : Text} (hn : needle ≠ []) (t : Text) :
    contains t needle = true ↔ needle <:+: t := by
  induction t with
  | nil => simp [contains, find?, hn]
  | cons c t ih =>
    rw [contains, find?, List.infix_cons_iff, ← List.isPrefixOf_iff_prefix, ← ih]
    by_cases hp : needle.isPrefixOf (c :: t) = true
    · simp [hp]
    · simp [hp, contains]

theorem exists_firstAt {needle : Text} (hn : needle ≠ []) {t : Text} (h : needle <:+: t) :
    ∃ x z, FirstAt needle t x z := by
  obtain ⟨n, hf⟩ := Option.isSome_iff_exists.1 ((contains_iff hn t).2 h)
  obtain ⟨x, z, hx, -⟩ := (find?_eq_some_iff hn).1 hf
  exact ⟨x, z, hx⟩

theorem find?_of_firstAt {needle : Text} (hn : needle ≠ []) {t x z : Text}
    (h : FirstAt needle t x z) : find? t needle = some (byteSize x) :=
  (find?_eq_some_iff hn).2 ⟨x, z, h, rfl⟩

/-- The text before the first `c`, which is all of it where there is none. -/
theorem takeBytes_find? (c : Char) (t : Text) :
    t.takeBytes ((t.find? [c]).getD t.byteSize) = t.takeWhile (· != c) := by
  induction t with
  | nil => rfl
  | cons d t ih =>
    by_cases hd : d = c
    · have hpos := d.utf8Size_pos
      have hp : [c].isPrefixOf (d :: t) = true := by simp [hd]
      rw [find?, if_pos hp, Option.getD_some, takeBytes, if_neg (by omega)]
      simp [hd]
    · have hp : ¬ [c].isPrefixOf (d :: t) = true := by simp [Ne.symm hd]
      have hsize : ((find? t [c]).map (d.utf8Size + ·)).getD (byteSize (d :: t)) =
          d.utf8Size + (find? t [c]).getD (byteSize t) := by
        cases find? t [c] <;> rfl
      rw [find?, if_neg hp, hsize, takeBytes, if_pos (Nat.le_add_right _ _),
        Nat.add_sub_cancel_left, ih]
      simp [hd]

/-- The first piece between separators ends before the first of them. -/
theorem head?_split (sep : Char) (t : Text) :
    (split sep t).head? = some (t.takeWhile (· != sep)) := by
  induction t with
  | nil => rfl
  | cons c t ih =>
    by_cases hc : c = sep
    · simp [split, hc]
    · cases hs : split sep t with
      | nil => simp [hs] at ih
      | cons piece pieces =>
        rw [hs, List.head?_cons, Option.some.injEq] at ih
        simp [split, hc, hs, ih]

theorem trim_of_forall {t : Text} (h : ∀ c ∈ t, isBlank c = false) : trim t = t := by
  have hd : ∀ {s : Text}, (∀ c ∈ s, isBlank c = false) → s.dropWhile isBlank = s := by
    intro s hs
    cases s with
    | nil => rfl
    | cons c s => simp [hs c List.mem_cons_self]
  have hr : ∀ c ∈ t.reverse, isBlank c = false := fun c hc => h c (List.mem_reverse.1 hc)
  rw [trim, trimStart, hd h, trimEnd, hd hr, List.reverse_reverse]

end Text

namespace Token

open Text

/-- A run of `p` characters of a line that touches the cursor and that no `p` character stands
beside. -/
structure Touches (p : Char → Bool) (line : Text) (column : Nat) (left run right : Text) :
    Prop where
  eq : line = left ++ (run ++ right)
  holds : ∀ c ∈ run, p c = true
  before : ∀ c ∈ left.getLast?, p c = false
  after : ∀ c ∈ right.head?, p c = false
  starts : byteSize left ≤ line.columnToByte column
  stops : line.columnToByte column ≤ byteSize (left ++ run)

theorem Touches.eq_append {p : Char → Bool} {line left run right : Text} {column : Nat}
    (h : Touches p line column left run right) : line = left ++ run ++ right := by
  rw [h.eq, List.append_assoc]

/-- Every cursor is touched by a run, which may be empty. -/
theorem exists_touches (p : Char → Bool) (line : Text) (column : Nat) :
    ∃ left run right, Touches p line column left run right := by
  obtain ⟨x, z, rfl, hcut⟩ := exists_columnToByte line column
  obtain ⟨y, hx, hy⟩ := append_trailing p x
  refine ⟨y, trailing p x ++ z.takeWhile p, z.dropWhile p, ?_, ?_, hy, ?_, ?_, ?_⟩
  · rw [List.append_assoc, List.takeWhile_append_dropWhile, ← List.append_assoc, ← hx]
  · intro c hc
    rcases List.mem_append.1 hc with hc | hc
    · exact mem_trailing p x c hc
    · exact List.mem_takeWhile_imp hc
  · intro c hc
    have h := List.head?_dropWhile_not p z
    rw [hc] at h
    simpa using h
  · have h := congrArg byteSize hx
    rw [byteSize_append] at h
    omega
  · rw [hcut, ← List.append_assoc, ← hx, byteSize_append]
    exact Nat.le_add_right _ _

/-- The cursor falls into the run that touches it. -/
theorem Touches.exists_cut {p : Char → Bool} {line left run right : Text} {column : Nat}
    (h : Touches p line column left run right) :
    ∃ first last, run = first ++ last ∧ line = (left ++ first) ++ (last ++ right) ∧
      line.columnToByte column = byteSize (left ++ first) := by
  obtain ⟨x, z, hline, hcut⟩ := exists_columnToByte line column
  have hleft : left <+: line := ⟨run ++ right, h.eq.symm⟩
  have hrun : left ++ run <+: line := ⟨right, by rw [List.append_assoc, h.eq]⟩
  have hx : x <+: line := ⟨z, hline.symm⟩
  have hstart := h.starts
  have hstop := h.stops
  rw [hcut] at hstart hstop
  obtain ⟨first, rfl⟩ := isPrefix_of_byteSize_le hleft hx hstart
  obtain ⟨last, hlast⟩ := isPrefix_of_byteSize_le hx hrun hstop
  have hsplit : first ++ last = run := by
    rw [List.append_assoc] at hlast
    exact List.append_cancel_left hlast
  refine ⟨first, last, hsplit.symm, ?_, hcut⟩
  rw [h.eq, ← hsplit]
  simp only [List.append_assoc]

/-- The offsets around the cursor are those of the run. -/
theorem Touches.span_eq {p : Char → Bool} {line left run right : Text} {column : Nat}
    (h : Touches p line column left run right) :
    span p line (line.columnToByte column) = (byteSize left, byteSize (left ++ run)) := by
  obtain ⟨first, last, hrun, hline, hcut⟩ := h.exists_cut
  have hfirst : ∀ c ∈ first, p c = true := fun c hc =>
    h.holds c (by rw [hrun]; exact List.mem_append_left _ hc)
  have hlast : ∀ c ∈ last, p c = true := fun c hc =>
    h.holds c (by rw [hrun]; exact List.mem_append_right _ hc)
  have hbefore : trailing p (line.takeBytes (byteSize (left ++ first))) = first := by
    rw [hline, takeBytes_append, trailing_append_of_getLast? h.before hfirst]
  have hafter : (line.dropBytes (byteSize (left ++ first))).takeWhile p = last := by
    rw [hline, dropBytes_append, takeWhile_append_of_head hlast h.after]
  rw [span, hcut, hbefore, hafter, hrun]
  simp only [byteSize_append, Prod.mk.injEq]
  omega

/-- The range at the cursor covers the run that touches it; an empty run has none. -/
theorem Touches.range?_eq {p : Char → Bool} {line left run right : Text} {position : Position}
    (h : Touches p line position.column left run right) :
    range? p line position = if run = [] then none
      else some (Range.onLine position.line (unitSize left) (unitSize (left ++ run))) := by
  rw [range?, h.span_eq]
  by_cases hr : run = []
  · simp [hr]
  · have hpos := byteSize_pos_of_ne_nil hr
    have hne : byteSize left ≠ byteSize (left ++ run) := by
      rw [byteSize_append]
      omega
    have hstart : line.byteToColumn (byteSize left) = unitSize left := by
      rw [h.eq, byteToColumn_append]
    have hstop : line.byteToColumn (byteSize (left ++ run)) = unitSize (left ++ run) := by
      rw [h.eq_append, byteToColumn_append]
    simp only [if_neg hne, if_neg hr, hstart, hstop]

/-- The columns around a run of a line lead to its text. -/
theorem text_onLine {line left run right : Text} (h : line = left ++ run ++ right) (n : Nat) :
    text line (Range.onLine n (unitSize left) (unitSize (left ++ run))) = run := by
  obtain ⟨hstart, hstop⟩ := columnToByte_piece h
  simp only [text, Range.onLine, hstart, hstop]
  rw [h, List.append_assoc, byteSize_append, slice_append]

/-- The token at the cursor is the run that touches it; an empty run is none. -/
theorem Touches.token_eq {p : Char → Bool} {line left run right : Text} {position : Position}
    (h : Touches p line position.column left run right) :
    (range? p line position).map (text line) = if run = [] then none else some run := by
  rw [h.range?_eq]
  split
  · rfl
  · rw [Option.map_some, text_onLine h.eq_append]

/-- A comma or a closing parenthesis ends an argument. -/
def isArgumentChar (c : Char) : Bool := c != ',' && c != ')'

/-- The first argument of the first call. -/
theorem firstArgument?_of_firstAt {token x z : Text} (h : FirstAt callMark token x z) :
    firstArgument? token = some (trim (z.takeWhile isArgumentChar)) := by
  have hdrop : token.dropBytes (byteSize x + callMark.byteSize) = z := by
    rw [h.eq, ← byteSize_append, ← List.append_assoc, dropBytes_append]
  have hboth : (fun c : Char => decide ((c != ',') = true ∧ (c != ')') = true)) =
      isArgumentChar := by
    funext c
    rw [Bool.decide_and, Bool.decide_coe, Bool.decide_coe, isArgumentChar]
  have hhead := head?_split ',' (z.takeWhile (· != ')'))
  rw [List.takeWhile_takeWhile, hboth] at hhead
  simp only [firstArgument?, find?_of_firstAt (by decide) h, hdrop, takeBytes_find?, hhead,
    Option.bind_eq_bind, Option.bind_some, Option.pure_def]

/-- What is read at a cursor, said by the two runs that touch it. -/
theorem variableAt_of_touches {t line left token right before run after : Text}
    {position : Position} (hl : t.line? position.line = some line)
    (ht : Touches isNonBlank line position.column left token right)
    (hr : Touches isVariableChar line position.column before run after) :
    (¬ namedCallMark <:+: token → variableAt t position = asName run) ∧
    (∀ x z, namedCallMark <:+: token → FirstAt callMark token x z →
      variableAt t position = asName (z.takeWhile isArgumentChar)) := by
  have htoken : ((range? isNonBlank line position).map (text line)).getD [] = token := by
    rw [ht.token_eq]
    split
    · rename_i he
      exact he.symm
    · rfl
  have hmark : namedCallMark ≠ [] := by decide
  constructor
  · intro hc
    rw [← contains_iff hmark] at hc
    have hrun := hr.token_eq
    simp only [variableAt, hl, htoken, if_neg hc]
    split
    · rename_i range hrange
      rw [hrange, Option.map_some] at hrun
      split at hrun
      · cases hrun
      · rw [Option.some.inj hrun]
    · rename_i hnone
      rw [hnone, Option.map_none] at hrun
      split at hrun
      · rename_i he
        rw [he]
        rfl
      · cases hrun
  · intro x z hc hfirst
    have hz : ∀ c ∈ z.takeWhile isArgumentChar, isBlank c = false := by
      intro c hc
      have hm : c ∈ token := by
        rw [hfirst.eq]
        simp [(List.takeWhile_sublist _).mem hc]
      simpa [isNonBlank] using ht.holds c hm
    rw [← contains_iff hmark] at hc
    simp only [variableAt, hl, htoken, if_pos hc, firstArgument?_of_firstAt hfirst,
      trim_of_forall hz]

/-- Name characters are neither blank nor the end of an argument. -/
theorem isNonBlank_of_isVariableChar {c : Char} (h : isVariableChar c = true) :
    isNonBlank c = true ∧ isArgumentChar c = true := by
  have hcode : c.toNat = 45 ∨ c.toNat = 95 ∨ (48 ≤ c.toNat ∧ c.toNat ≤ 57) ∨
      (65 ≤ c.toNat ∧ c.toNat ≤ 90) ∨ (97 ≤ c.toNat ∧ c.toNat ≤ 122) := by
    have hor : (decide (c.val ≥ 65 ∧ c.val ≤ 90) ||
        (decide (c.val ≥ 97) && decide (c.val ≤ 122)) ||
        (decide (c.val ≥ 48) && decide (c.val ≤ 57)) || c == '-' || c == '_') = true := h
    simp only [Bool.or_eq_true, Bool.and_eq_true, decide_eq_true_eq, beq_iff_eq,
      UInt32.le_iff_toNat_le, ge_iff_le] at hor
    rcases hor with ((((h | h) | h) | rfl) | rfl)
    · exact .inr (.inr (.inr (.inl h)))
    · exact .inr (.inr (.inr (.inr h)))
    · exact .inr (.inr (.inl h))
    · exact .inl rfl
    · exact .inr (.inl rfl)
  have hne : ∀ d : Char, d.toNat = 44 ∨ d.toNat = 41 → c ≠ d := by
    rintro d hd rfl
    omega
  refine ⟨?_, ?_⟩
  · simp only [isNonBlank, isBlank, blankIntervals, List.any_cons, List.any_nil, Bool.not_eq_true',
      Bool.or_eq_false_iff, Bool.and_eq_false_iff, decide_eq_false_iff_not,
      and_true]
    omega
  · simp [isArgumentChar, hne ',' (.inl rfl), hne ')' (.inr rfl)]

/-- Of two splits of a list, the second comes first if its front ends outside the first's rest. -/
theorem exists_append_of_getLast?_not_mem {a b c d : Text} (h : a ++ b = c ++ d)
    (hc : ∀ x ∈ c.getLast?, x ∉ b) : ∃ y, a = c ++ y ∧ d = y ++ b := by
  rcases List.append_eq_append_iff.1 h with ⟨y, rfl, rfl⟩ | h
  · cases hl : y.getLast? with
    | none => exact ⟨[], by simp [List.getLast?_eq_none_iff.1 hl]⟩
    | some x =>
      have hm : x ∈ (a ++ y).getLast? := by
        rw [List.getLast?_append, hl]
        rfl
      exact absurd (List.mem_append_left d (List.mem_of_getLast? hl)) (hc x hm)
  · exact h

theorem exists_append_of_head?_not_mem {a b c d : Text} (h : a ++ b = c ++ d)
    (hb : ∀ x ∈ b.head?, x ∉ c) : ∃ y, a = c ++ y ∧ d = y ++ b := by
  rcases List.append_eq_append_iff.1 h with ⟨y, rfl, rfl⟩ | h
  · cases hh : y.head? with
    | none => exact ⟨[], by simp [List.head?_eq_none_iff.1 hh]⟩
    | some x =>
      have hm : x ∈ (y ++ d).head? := by
        rw [List.head?_append, hh]
        rfl
      exact absurd (List.mem_append_right a (List.mem_of_mem_head? hh)) (hb x hm)
  · exact h

/-- A run of name characters stands inside the run of characters that are not blank. -/
theorem Touches.exists_append {line left token right before run after : Text} {column : Nat}
    (ht : Touches isNonBlank line column left token right)
    (hr : Touches isVariableChar line column before run after) :
    ∃ x z, before = left ++ x ∧ token = x ++ (run ++ z) ∧ after = z ++ right := by
  obtain ⟨tokenFirst, tokenLast, htoken, htline, htcut⟩ := ht.exists_cut
  obtain ⟨first, last, hrun, hline, hcut⟩ := hr.exists_cut
  have hsame : left ++ tokenFirst = before ++ first := by
    have hle : left ++ tokenFirst <+: line := ⟨_, htline.symm⟩
    have hle' : before ++ first <+: line := ⟨_, hline.symm⟩
    have hsize : byteSize (left ++ tokenFirst) = byteSize (before ++ first) := by
      rw [← htcut, hcut]
    exact (isPrefix_of_byteSize_le hle hle' hsize.le).eq_of_length_le
      (isPrefix_of_byteSize_le hle' hle hsize.ge).length_le
  have hrest : tokenLast ++ right = last ++ after := by
    have h := htline.symm.trans hline
    rw [hsame] at h
    exact List.append_cancel_left h
  -- The neighbours of the longer run are blank, so none of them is in the shorter one.
  have hnot : ∀ c, isNonBlank c = false → c ∉ first ++ last := by
    intro c hc hm
    rw [← hrun] at hm
    rw [(isNonBlank_of_isVariableChar (hr.holds c hm)).1] at hc
    cases hc
  obtain ⟨x, hx, hfirst⟩ := exists_append_of_getLast?_not_mem hsame.symm
    fun c hc hm => hnot c (ht.before c hc) (List.mem_append_left _ hm)
  obtain ⟨z, hlast, hz⟩ := exists_append_of_head?_not_mem hrest
    fun c hc hm => hnot c (ht.after c hc) (List.mem_append_right _ hm)
  refine ⟨x, z, hx, ?_, hz⟩
  rw [htoken, hrun, hfirst, hlast]
  simp only [List.append_assoc]

/-- A name behind the mark of the first call is read when its argument ends behind it. -/
theorem takeWhile_isArgumentChar {run z : Text} (hr : ∀ c ∈ run, isVariableChar c = true)
    (hz : ∀ c ∈ z.head?, c = ',' ∨ c = ')') : (run ++ z).takeWhile isArgumentChar = run := by
  apply takeWhile_append_of_head
  · intro c hc
    exact (isNonBlank_of_isVariableChar (hr c hc)).2
  · intro c hc
    rcases hz c hc with rfl | rfl <;> decide

theorem asName_of_isPrefix {name : Text} (hd : ['-', '-'] <+: name) (hs : 2 < byteSize name) :
    asName name = .ok name := by
  have hp : ['-', '-'].isPrefixOf name = true := List.isPrefixOf_iff_prefix.2 hd
  simp only [asName, isName, hp, hs, decide_true, Bool.and_self, if_true]

/-- A name under the cursor is the answer where no call `var(--` stands in the characters around it
that are not blank, and where it is the whole first argument of the first call among them. The
answer at any other call is the first argument of the first one, if that is a name. -/
theorem variableAt_name_under_cursor {t line before run after : Text} {position : Position}
    (hl : t.line? position.line = some line)
    (hr : Touches isVariableChar line position.column before run after)
    (hd : ['-', '-'] <+: run) (hs : 2 < byteSize run) :
    ∃ left token right, Touches isNonBlank line position.column left token right ∧
      (¬ namedCallMark <:+: token → variableAt t position = .ok run) ∧
      (namedCallMark <:+: token → ∃ x z, FirstAt callMark token x z ∧
        variableAt t position = asName (z.takeWhile isArgumentChar) ∧
        (before = left ++ (x ++ callMark) →
          (∀ c ∈ after.head?, c = ',' ∨ c = ')' ∨ isBlank c = true) →
          variableAt t position = .ok run)) := by
  obtain ⟨left, token, right, ht⟩ := exists_touches isNonBlank line position.column
  obtain ⟨hplain, hcall⟩ := variableAt_of_touches hl ht hr
  have hname := asName_of_isPrefix hd hs
  refine ⟨left, token, right, ht, ?_, ?_⟩
  · intro hn
    rw [hplain hn, hname]
  · intro hn
    have hm : callMark <:+: token := by
      have hp : callMark <:+: namedCallMark := ⟨[], ['-', '-'], rfl⟩
      exact hp.trans hn
    obtain ⟨x, z, hf⟩ := exists_firstAt (by decide) hm
    refine ⟨x, z, hf, hcall x z hn hf, ?_⟩
    intro hb ha
    obtain ⟨x', z', hx', htoken, hafter⟩ := ht.exists_append hr
    -- The run stands right behind the mark, and what ends it ends the argument too.
    have hx : x' = x ++ callMark := List.append_cancel_left (hx'.symm.trans hb)
    have hz : z = run ++ z' := by
      have h := hf.eq.symm.trans htoken
      rw [hx, List.append_assoc] at h
      exact List.append_cancel_left (List.append_cancel_left h)
    have hend : ∀ c ∈ z'.head?, c = ',' ∨ c = ')' := by
      intro c hc
      have hm : c ∈ token := by
        rw [htoken]
        simp [List.mem_of_mem_head? hc]
      have hblank := ht.holds c hm
      have hhead : c ∈ after.head? := by
        rw [hafter, List.head?_append, hc]
        rfl
      rcases ha c hhead with h | h | h
      · exact .inl h
      · exact .inr h
      · simp [isNonBlank, h] at hblank
    rw [hcall x z hn hf, hz, takeWhile_isArgumentChar hr.holds hend, hname]

/-- A name behind a character of two units, with the cursor inside the name. -/
theorem variableAt_name_behind_pair :
    ∃ before run after, Touches isVariableChar "😀--gap: 8px".toList 4 before run after ∧
      ['-', '-'] <+: run ∧ 2 < byteSize run ∧
      ∃ left token right, Touches isNonBlank "😀--gap: 8px".toList 4 left token right ∧
        (¬ namedCallMark <:+: token →
          variableAt "a\n😀--gap: 8px".toList ⟨1, 4⟩ = .ok run) ∧
        (namedCallMark <:+: token → ∃ x z, FirstAt callMark token x z ∧
          variableAt "a\n😀--gap: 8px".toList ⟨1, 4⟩ = asName (z.takeWhile isArgumentChar) ∧
          (before = left ++ (x ++ callMark) →
            (∀ c ∈ after.head?, c = ',' ∨ c = ')' ∨ isBlank c = true) →
            variableAt "a\n😀--gap: 8px".toList ⟨1, 4⟩ = .ok run)) := by
  have hr : Touches isVariableChar "😀--gap: 8px".toList 4 ['😀'] "--gap".toList ": 8px".toList :=
    ⟨by decide, List.all_eq_true.1 (by decide), by simp; decide, by simp; decide, by decide,
      by decide⟩
  have hl : line? "a\n😀--gap: 8px".toList (⟨1, 4⟩ : Position).line =
      some "😀--gap: 8px".toList := by decide
  exact ⟨_, _, _, hr, by decide, by decide,
    variableAt_name_under_cursor hl hr (by decide) (by decide)⟩

/-- Not every name under the cursor is the answer: the second of two calls without a blank between
them is answered by the first. -/
theorem variableAt_second_call_reads_first :
    ¬ ∀ (t line before run after : Text) (position : Position),
      t.line? position.line = some line →
      Touches isVariableChar line position.column before run after →
      ['-', '-'] <+: run → 2 < byteSize run → variableAt t position = .ok run := by
  intro h
  have hr : Touches isVariableChar "calc(var(--a)*var(--b))".toList 19 "calc(var(--a)*var(".toList
      "--b".toList "))".toList :=
    ⟨by decide, List.all_eq_true.1 (by decide), by simp; decide, by simp; decide, by decide,
      by decide⟩
  have hb := h "calc(var(--a)*var(--b))".toList _ _ _ _ ⟨0, 19⟩ (by decide) hr (by decide)
    (by decide)
  exact absurd hb (by decide)

end Token

end CustomProps
