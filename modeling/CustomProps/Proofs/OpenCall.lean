import CustomProps.Completion.Insertion
import CustomProps.Declaration.Basic
import CustomProps.Proofs.Cursor
import CustomProps.Proofs.Grammar

/-!
The call that is open at a cursor, and the completion of its argument. The call that is found is the
last one before the cursor, and only characters of a name stand behind it. The edit keeps the dashes
that are typed and ends before a parenthesis that closes a call, or puts one.
-/

namespace CustomProps

namespace Text

/-- The last place that is found is a place. -/
theorem eq_append_of_findLast? {needle t : Text} {n : Nat} (h : findLast? t needle = some n) :
    ∃ x z, t = x ++ (needle ++ z) ∧ n = byteSize x := by
  induction t generalizing n with
  | nil => cases h
  | cons c t ih =>
    rw [findLast?] at h
    split at h
    · rename_i m hm
      cases h
      obtain ⟨x, z, rfl, rfl⟩ := ih hm
      exact ⟨c :: x, z, rfl, rfl⟩
    · split at h
      · rename_i hp
        cases h
        obtain ⟨z, hz⟩ := List.isPrefixOf_iff_prefix.1 hp
        exact ⟨[], z, hz.symm, rfl⟩
      · cases h

/-- What holds no parenthesis holds no call. -/
theorem findLast?_callMark_eq_none {t : Text} (h : '(' ∉ t) :
    findLast? t Token.callMark = none := by
  cases hf : findLast? t Token.callMark with
  | none => rfl
  | some n =>
    obtain ⟨x, z, rfl, -⟩ := eq_append_of_findLast? hf
    exact absurd (by simp [Token.callMark]) h

/-- The last call of a text is the one that no parenthesis follows. -/
theorem findLast?_append_callMark (x : Text) {z : Text} (h : '(' ∉ z) :
    findLast? (x ++ (Token.callMark ++ z)) Token.callMark = some (byteSize x) := by
  induction x with
  | nil =>
    have hz := findLast?_callMark_eq_none h
    rw [Token.callMark] at hz
    simp [Token.callMark, findLast?, hz]
  | cons c x ih => rw [List.cons_append, findLast?, ih, byteSize_cons]

/-- Before the first place of a character it does not stand. -/
theorem FirstAt.not_mem {c : Char} {t x z : Text} (h : FirstAt [c] t x z) : c ∉ x := by
  intro hc
  obtain ⟨y, w, rfl⟩ := List.append_of_mem hc
  have hle := h.first y (w ++ c :: z) (by rw [h.eq]; simp)
  rw [List.length_append, List.length_cons] at hle
  omega

theorem not_mem_of_find?_eq_none {c : Char} {t : Text} (h : find? t [c] = none) : c ∉ t := by
  intro hc
  obtain ⟨x, z, rfl⟩ := List.append_of_mem hc
  have hs := (contains_iff (List.cons_ne_nil c []) (x ++ c :: z)).2 ⟨x, z, by simp⟩
  rw [contains, h] at hs
  cases hs

/-- Up to two dashes at the start of a text begin the mark of a name. -/
theorem takeWhile_dash_isPrefix {t : Text} (h : Insertion.dashes t ≤ 2) :
    t.takeWhile (· == '-') <+: nameMark ∧
      byteSize (t.takeWhile (· == '-')) = Insertion.dashes t := by
  have hall : t.takeWhile (· == '-') = List.replicate (Insertion.dashes t) '-' := by
    rw [List.eq_replicate_iff]
    refine ⟨rfl, ?_⟩
    intro c hc
    simpa using List.mem_takeWhile_imp hc
  rw [hall]
  have hn : Insertion.dashes t = 0 ∨ Insertion.dashes t = 1 ∨ Insertion.dashes t = 2 := by omega
  rcases hn with hn | hn | hn <;> rw [hn] <;> decide

end Text

open Text Token

/-- Characters of a name are no parentheses. -/
theorem Token.paren_not_mem {t : Text} (h : ∀ c ∈ t, isVariableChar c = true) :
    '(' ∉ t ∧ ')' ∉ t :=
  ⟨fun hm => absurd (h _ hm) (by decide), fun hm => absurd (h _ hm) (by decide)⟩

namespace OpenCall

/-- A call that is open at a column. Up to there the line is `front`, the mark of the call and what
is typed of a name. -/
structure IsOpen (line : Text) (column : Nat) (front typed : Text) : Prop where
  eq : line.takeBytes (line.columnToByte column) = front ++ (callMark ++ typed)
  chars : ∀ c ∈ typed, isVariableChar c = true
  dashes : Insertion.dashes typed ≤ 2

/-- What an edit keeps of a line that goes on with `rest` at the cursor: what follows the first
closing parenthesis or, if there is none, what follows the name. -/
def behind (rest : Text) : Text :=
  if ')' ∈ rest then (rest.dropWhile (· != ')')).tail else rest.dropWhile isVariableChar

/-- An open call on its line: its mark, the dashes that are typed, the rest of what is typed and
what follows the cursor. -/
structure Stands (call : OpenCall) (line front dashes typed rest : Text) : Prop where
  eq : line = front ++ callMark ++ dashes ++ typed ++ rest
  mark : dashes <+: nameMark
  argument : call.argument = byteSize (front ++ callMark)
  typedDashes : call.dashes = byteSize dashes
  cursor : call.cursor = byteSize (front ++ callMark ++ dashes ++ typed)

theorem behind_append {u : Text} (hu : ')' ∉ u) (w : Text) : behind (u ++ ')' :: w) = w := by
  rw [behind, if_pos (by simp), dropWhile_append_of_head (forall_bne_of_not_mem hu) (by simp)]
  rfl

/-- An open call cuts its line at the cursor. -/
theorem IsOpen.cut {line front typed : Text} {column : Nat} (h : IsOpen line column front typed) :
    line = front ++ (callMark ++ typed) ++ line.dropBytes (line.columnToByte column) ∧
      line.columnToByte column = byteSize (front ++ (callMark ++ typed)) := by
  obtain ⟨x, z, rfl, hcut⟩ := exists_columnToByte line column
  have heq := h.eq
  rw [hcut, takeBytes_append] at heq
  rw [hcut, dropBytes_append, heq]
  exact ⟨rfl, rfl⟩

theorem slice_typed (front typed rest : Text) :
    slice (front ++ (callMark ++ typed) ++ rest) (byteSize front + callMark.byteSize)
      (byteSize (front ++ (callMark ++ typed))) = typed := by
  have h := slice_append (front ++ callMark) typed rest
  simpa only [byteSize_append, List.append_assoc, Nat.add_assoc] using h

/-- An open call is found. -/
theorem IsOpen.before?_eq {line front typed : Text} {position : Position}
    (h : IsOpen line position.column front typed) :
    before? position line = some ⟨byteSize (front ++ callMark), Insertion.dashes typed,
      line.columnToByte position.column⟩ := by
  have hsize : (line.takeBytes (line.columnToByte position.column)).findLast? callMark =
      some (byteSize front) := by
    rw [h.eq, findLast?_append_callMark front (paren_not_mem h.chars).1]
  have hslice : line.slice (byteSize front + callMark.byteSize)
      (line.columnToByte position.column) = typed := by
    obtain ⟨hline, hcut⟩ := h.cut
    rw [hcut, hline, slice_typed]
  have hall : typed.all isVariableChar = true := List.all_eq_true.2 h.chars
  simp only [before?, hsize, Option.bind_eq_bind, Option.bind_some, hslice, hall, h.dashes]
  rw [byteSize_append]
  rfl

/-- A call that is found is open. -/
theorem exists_isOpen {position : Position} {line : Text} {call : OpenCall}
    (h : before? position line = some call) :
    ∃ front typed, IsOpen line position.column front typed ∧
      call = ⟨byteSize (front ++ callMark), Insertion.dashes typed,
        line.columnToByte position.column⟩ := by
  obtain ⟨x, z, rfl, hcut⟩ := exists_columnToByte line position.column
  obtain ⟨opening, ho, h⟩ := Option.bind_eq_some_iff.1 h
  rw [hcut, takeBytes_append] at ho
  obtain ⟨front, w, rfl, rfl⟩ := eq_append_of_findLast? ho
  simp only [hcut, slice_typed] at h
  split at h
  · rename_i hc
    cases h
    obtain ⟨hchars, hdashes⟩ : w.all isVariableChar = true ∧ Insertion.dashes w ≤ 2 := by
      simpa using hc
    refine ⟨front, w, ⟨by rw [hcut, takeBytes_append], List.all_eq_true.1 hchars, hdashes⟩, ?_⟩
    rw [hcut, byteSize_append front callMark]
  · cases h

theorem IsOpen.stands {line front typed : Text} {column : Nat}
    (h : IsOpen line column front typed) :
    Stands ⟨byteSize (front ++ callMark), Insertion.dashes typed, line.columnToByte column⟩ line
      front (typed.takeWhile (· == '-')) (typed.dropWhile (· == '-'))
      (line.dropBytes (line.columnToByte column)) := by
  obtain ⟨hline, hcut⟩ := h.cut
  obtain ⟨hmark, hsize⟩ := takeWhile_dash_isPrefix h.dashes
  have htyped : typed.takeWhile (· == '-') ++ typed.dropWhile (· == '-') = typed :=
    List.takeWhile_append_dropWhile
  have hbefore : front ++ callMark ++ typed.takeWhile (· == '-') ++ typed.dropWhile (· == '-') =
      front ++ (callMark ++ typed) := by
    rw [List.append_assoc _ (typed.takeWhile _), htyped, List.append_assoc front]
  refine ⟨?_, hmark, rfl, hsize.symm, ?_⟩
  · rw [hbefore]
    exact hline
  · rw [hbefore]
    exact hcut

theorem exists_stands {position : Position} {line : Text} {call : OpenCall}
    (h : before? position line = some call) :
    ∃ front dashes typed rest, call.Stands line front dashes typed rest := by
  obtain ⟨front, typed, ho, rfl⟩ := exists_isOpen h
  exact ⟨_, _, _, _, ho.stands⟩

namespace Stands

variable {call : OpenCall} {line front dashes typed rest : Text}

theorem dropBytes_cursor (h : call.Stands line front dashes typed rest) :
    line.dropBytes call.cursor = rest := by rw [h.eq, h.cursor, dropBytes_append]

/-- A name that starts with the dashes typed is cut behind them. -/
theorem min_dashes (h : call.Stands line front dashes typed rest) (remaining : Text) :
    min call.dashes (byteSize (dashes ++ remaining)) = byteSize dashes := by
  rw [h.typedDashes, byteSize_append]
  omega

/-- The edit starts behind the dashes. -/
theorem start_eq (h : call.Stands line front dashes typed rest) :
    line = (front ++ callMark ++ dashes) ++ (typed ++ rest) ∧
      call.argument + call.dashes = byteSize (front ++ callMark ++ dashes) := by
  constructor
  · rw [h.eq, List.append_assoc _ typed]
  · rw [h.argument, h.typedDashes, ← byteSize_append]

/-- The edit of a call that is closed ends before the parenthesis. -/
theorem exists_stop (h : call.Stands line front dashes typed rest) {close : Nat}
    (hf : rest.find? [')'] = some close) :
    ∃ u, line = (front ++ callMark ++ dashes) ++ (typed ++ u) ++ ')' :: behind rest ∧
      call.cursor + close = byteSize ((front ++ callMark ++ dashes) ++ (typed ++ u)) := by
  obtain ⟨u, w, hu, rfl⟩ := (find?_eq_some_iff (by decide)).1 hf
  refine ⟨u, ?_, ?_⟩
  · rw [h.eq, hu.eq, List.singleton_append, behind_append hu.not_mem]
    simp only [List.append_assoc]
  · rw [h.cursor, ← byteSize_append, List.append_assoc _ typed]

/-- The edit of a call that is not closed ends behind the name at the cursor. -/
theorem stop_eq (h : call.Stands line front dashes typed rest) :
    line = (front ++ callMark ++ dashes) ++ (typed ++ rest.takeWhile isVariableChar) ++
        rest.dropWhile isVariableChar ∧
      call.cursor + byteSize (rest.takeWhile isVariableChar) =
        byteSize ((front ++ callMark ++ dashes) ++ (typed ++ rest.takeWhile isVariableChar)) := by
  constructor
  · rw [h.eq]
    simp only [List.append_assoc, List.takeWhile_append_dropWhile]
  · rw [h.cursor, ← byteSize_append, List.append_assoc _ typed]

end Stands

/-- A name is completed behind the dashes that are typed, up to the next closing parenthesis or, if
there is none, to the end of what is typed, and then a parenthesis is put. -/
theorem exists_complete? {call : OpenCall} {line front dashes typed rest name : Text}
    (h : call.Stands line front dashes typed rest) (hn : nameMark <+: name) (position : Position) :
    ∃ remaining middle after trail, name = dashes ++ remaining ∧
      line = (front ++ callMark ++ dashes) ++ middle ++ after ∧ typed <+: middle ∧
      trail <+: [')'] ∧ trail ++ after = ')' :: behind rest ∧
      call.complete? name position line =
        some ⟨remaining ++ trail,
          Range.onLine position.line (unitSize (front ++ callMark ++ dashes))
            (unitSize ((front ++ callMark ++ dashes) ++ middle)),
          .completeCall⟩ := by
  obtain ⟨remaining, rfl⟩ := h.mark.trans hn
  obtain ⟨hfirst, hstart⟩ := h.start_eq
  have hcolumn : ∀ {x z : Text}, line = x ++ z → line.byteToColumn (byteSize x) = unitSize x := by
    rintro x z rfl
    exact byteToColumn_append x z
  simp only [complete?, h.min_dashes, if_pos (isCut_append dashes remaining), dropBytes_append,
    hstart, h.dropBytes_cursor, hcolumn hfirst]
  cases hf : rest.find? [')'] with
  | some close =>
    obtain ⟨u, hline, hstop⟩ := h.exists_stop hf
    refine ⟨remaining, typed ++ u, _, [], rfl, hline, List.prefix_append _ _, List.nil_prefix, rfl,
      ?_⟩
    simp only [hstop, hcolumn hline, List.append_nil]
  | none =>
    obtain ⟨hline, hstop⟩ := h.stop_eq
    have hnone := not_mem_of_find?_eq_none hf
    refine ⟨remaining, typed ++ rest.takeWhile isVariableChar, rest.dropWhile isVariableChar, [')'],
      rfl, hline, List.prefix_append _ _, List.prefix_rfl, by rw [behind, if_neg hnone]; rfl, ?_⟩
    simp only [hstop, hcolumn hline]

end OpenCall

end CustomProps
