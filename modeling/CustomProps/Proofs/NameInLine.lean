import CustomProps.Proofs.Cursor
import CustomProps.Proofs.Sheet

/-!
Reading a name where it stands. The columns from the start to the end of a piece of a line lead into
that piece, so the run around a piece of one kind of characters is the one that a cursor there is
touched by. A name is read at all its columns when it stands alone, and when it is the argument of
the first call among the characters around it that are not blank.
-/

namespace CustomProps

namespace Text

theorem columnToByte_mono (line : Text) {a b : Nat} (h : a ≤ b) :
    columnToByte line a ≤ columnToByte line b := by
  induction line generalizing a b with
  | nil => exact Nat.le_refl _
  | cons c line ih =>
    by_cases ha : a = 0
    · simp [columnToByte, ha]
    · have hb : b ≠ 0 := by omega
      rw [columnToByte, columnToByte, if_neg ha, if_neg hb]
      exact Nat.add_le_add_left (ih (Nat.sub_le_sub_right h _)) _

/-- The columns of a piece of a line lead into the piece. -/
theorem columnToByte_within (x y z : Text) {column : Nat} (hx : unitSize x ≤ column)
    (hy : column ≤ unitSize (x ++ y)) :
    byteSize x ≤ columnToByte (x ++ (y ++ z)) column ∧
      columnToByte (x ++ (y ++ z)) column ≤ byteSize (x ++ y) := by
  constructor
  · rw [← columnToByte_append x (y ++ z)]
    exact columnToByte_mono _ hx
  · rw [← List.append_assoc, ← columnToByte_append (x ++ y) z]
    exact columnToByte_mono _ hy

theorem trailing_append_of_forall {p : Char → Bool} (s : Text) {t : Text}
    (ht : ∀ c ∈ t, p c = true) : trailing p (s ++ t) = trailing p s ++ t := by
  obtain ⟨y, hs, hy⟩ := append_trailing p s
  have hall : ∀ c ∈ trailing p s ++ t, p c = true := by
    intro c hc
    rcases List.mem_append.1 hc with hc | hc
    · exact mem_trailing p s c hc
    · exact ht c hc
  conv_lhs => rw [hs, List.append_assoc]
  exact trailing_append_of_getLast? hy hall

theorem trailing_eq_nil {p : Char → Bool} {t : Text} (h : ∀ c ∈ t.getLast?, p c = false) :
    trailing p t = [] := by
  have ht := trailing_append_of_getLast? (t := []) h (by simp)
  rwa [List.append_nil] at ht

theorem takeWhile_eq_nil_of_head {p : Char → Bool} {t : Text} (h : ∀ c ∈ t.head?, p c = false) :
    t.takeWhile p = [] :=
  takeWhile_append_of_head (s := []) (by simp) h

/-- A needle whose first character does not come again in it has no two places that overlap. So a
place of it is the first if what stands before holds none. -/
theorem firstAt_of_not_infix {c : Char} {cs x : Text} (hc : c ∉ cs) (hx : ¬ (c :: cs) <:+: x)
    (z : Text) : FirstAt (c :: cs) (x ++ (c :: cs ++ z)) x z := by
  refine ⟨rfl, ?_⟩
  intro x' z' h
  by_contra hlt
  -- An earlier place starts in `x`, and `y` is what `x` has behind its start.
  have hstart : x' <+: x ++ (c :: cs ++ z) := ⟨_, h.symm⟩
  obtain ⟨y, rfl⟩ := List.prefix_of_prefix_length_le hstart (List.prefix_append _ _) (by omega)
  rw [List.append_assoc] at h
  have hy : y ++ (c :: cs ++ z) = c :: cs ++ z' := List.append_cancel_left h
  rcases List.append_eq_append_iff.1 hy with ⟨w, hw, hz⟩ | ⟨w, rfl, -⟩
  · -- The place ends behind `x`, so the later one starts inside it.
    cases y with
    | nil => simp at hlt
    | cons b y =>
      cases w with
      | nil =>
        rw [List.append_nil] at hw
        exact hx ⟨x', [], by rw [hw, List.append_nil]⟩
      | cons e w =>
        have hce : c = e := (List.cons.inj hz).1
        have hcs : cs = y ++ e :: w := (List.cons.inj hw).2
        exact hc (by rw [hcs, hce]; simp)
  · exact hx ⟨x', w, by rw [List.append_assoc]⟩

theorem dropReturn_append_of_ne_nil (s : Text) {t : Text} (ht : t ≠ [])
    (hr : ∀ c ∈ t, c ≠ '\r') (z : Text) :
    dropReturn (s ++ (t ++ z)) = s ++ (t ++ dropReturn z) := by
  obtain ⟨u, c, rfl⟩ := (List.eq_nil_or_concat t).resolve_left ht
  have h := dropReturn_append_cons (s ++ u) (hr c (by simp)) z
  simpa using h

/-- A text without line feeds is one line. -/
theorem line?_of_not_mem {t : Text} (h : '\n' ∉ t) : t.line? 0 = some (dropReturn t) := by
  have hline : lineOf 0 t = t := by
    rw [lineOf, fromLine_zero, List.takeWhile_eq_self_iff]
    exact forall_bne_of_not_mem h
  rw [line?_eq, if_pos (Nat.zero_le _), hline]

end Text

namespace Token

open Text

/-- A cursor at a piece of `p` characters is touched by the run around the piece. -/
theorem exists_touches_around {p : Char → Bool} (x : Text) {y : Text} (hy : ∀ c ∈ y, p c = true)
    (z : Text) {column : Nat} (hstart : unitSize x ≤ column) (hstop : column ≤ unitSize (x ++ y)) :
    ∃ left, x = left ++ trailing p x ∧
      Touches p (x ++ (y ++ z)) column left (trailing p x ++ (y ++ z.takeWhile p))
        (z.dropWhile p) := by
  obtain ⟨left, hx, hleft⟩ := append_trailing p x
  obtain ⟨hlow, hhigh⟩ := columnToByte_within x y z hstart hstop
  have hsize : byteSize x = byteSize left + byteSize (trailing p x) := by
    rw [← byteSize_append, ← hx]
  refine ⟨left, hx, ?_, ?_, hleft, ?_, ?_, ?_⟩
  · conv_lhs => rw [hx]
    simp only [List.append_assoc, List.takeWhile_append_dropWhile]
  · intro c hc
    rcases List.mem_append.1 hc with hc | hc
    · exact mem_trailing p x c hc
    rcases List.mem_append.1 hc with hc | hc
    · exact hy c hc
    · exact List.mem_takeWhile_imp hc
  · intro c hc
    have h := List.head?_dropWhile_not p z
    rw [hc] at h
    simpa using h
  · omega
  · simp only [byteSize_append] at hhigh ⊢
    omega

/-- The characters around a piece of a line that are not blank. -/
def tokenAround (x y z : Text) : Text :=
  trailing isNonBlank x ++ (y ++ z.takeWhile isNonBlank)

theorem isVariableChar_of_not_isNonBlank {c : Char} (h : isNonBlank c = false) :
    isVariableChar c = false := by
  cases hc : isVariableChar c with
  | false => rfl
  | true =>
    rw [(isNonBlank_of_isVariableChar hc).1] at h
    cases h

end Token

namespace IsPlainName

open Text Token

variable {name : Text}

theorem isVariableChar (h : IsPlainName name) : ∀ c ∈ name, Token.isVariableChar c = true := by
  intro c hc
  rcases h.chars c hc with hc | rfl
  · simp [Token.isVariableChar, hc]
  · decide

theorem isNonBlank (h : IsPlainName name) : ∀ c ∈ name, Token.isNonBlank c = true := fun c hc =>
  (isNonBlank_of_isVariableChar (h.isVariableChar c hc)).1

theorem asName_eq (h : IsPlainName name) : asName name = .ok name := by
  obtain ⟨rest, rfl⟩ := h.mark
  have hne : rest ≠ [] := by
    rintro rfl
    exact absurd h.longer (by decide)
  have hpos := byteSize_pos_of_ne_nil hne
  have hmark : byteSize nameMark = 2 := rfl
  apply asName_of_isPrefix h.mark
  rw [byteSize_append]
  omega

end IsPlainName

namespace Token

open Text

variable {t x name z : Text} {position : Position}

/-- A name that stands alone is read at all its columns, unless a call stands around it. -/
theorem variableAt_of_alone (hl : t.line? position.line = some (x ++ (name ++ z)))
    (hn : IsPlainName name) (hx : ∀ c ∈ x.getLast?, isVariableChar c = false)
    (hz : ∀ c ∈ z.head?, isVariableChar c = false)
    (hcall : ¬ namedCallMark <:+: tokenAround x name z)
    (hstart : unitSize x ≤ position.column) (hstop : position.column ≤ unitSize (x ++ name)) :
    variableAt t position = .ok name := by
  obtain ⟨left, -, ht⟩ := exists_touches_around x hn.isNonBlank z hstart hstop
  obtain ⟨before, -, hr⟩ := exists_touches_around x hn.isVariableChar z hstart hstop
  rw [trailing_eq_nil hx, takeWhile_eq_nil_of_head hz, List.append_nil, List.nil_append] at hr
  rw [(variableAt_of_touches hl ht hr).1 hcall, hn.asName_eq]

/-- The argument of the first call in a token is read at all its columns. -/
theorem variableAt_of_call
    (hl : t.line? position.line = some (x ++ callMark ++ (name ++ ')' :: z)))
    (hn : IsPlainName name) (hx : ¬ callMark <:+: trailing isNonBlank x)
    (hstart : unitSize (x ++ callMark) ≤ position.column)
    (hstop : position.column ≤ unitSize (x ++ callMark ++ name)) :
    variableAt t position = .ok name := by
  have hmark : ∀ c ∈ callMark, isNonBlank c = true := List.all_eq_true.1 (by decide)
  have hparen : isNonBlank ')' = true := by decide
  have htoken : trailing isNonBlank (x ++ callMark) ++ (name ++ (')' :: z).takeWhile isNonBlank) =
      trailing isNonBlank x ++ (callMark ++ (name ++ ')' :: z.takeWhile isNonBlank)) := by
    rw [trailing_append_of_forall x hmark, List.takeWhile_cons_of_pos hparen, List.append_assoc]
  obtain ⟨left, -, ht⟩ := exists_touches_around (x ++ callMark) hn.isNonBlank (')' :: z) hstart hstop
  obtain ⟨before, run, after, hr⟩ :=
    exists_touches isVariableChar (x ++ callMark ++ (name ++ ')' :: z)) position.column
  rw [htoken] at ht
  have hfirst : FirstAt callMark
      (trailing isNonBlank x ++ (callMark ++ (name ++ ')' :: z.takeWhile isNonBlank)))
      (trailing isNonBlank x) (name ++ ')' :: z.takeWhile isNonBlank) :=
    firstAt_of_not_infix (by decide) hx _
  have hnamed : namedCallMark <:+:
      trailing isNonBlank x ++ (callMark ++ (name ++ ')' :: z.takeWhile isNonBlank)) := by
    obtain ⟨rest, rfl⟩ := hn.mark
    exact ⟨trailing isNonBlank x, rest ++ ')' :: z.takeWhile isNonBlank,
      by simp [namedCallMark, callMark, nameMark]⟩
  rw [(variableAt_of_touches hl ht hr).2 _ _ hnamed hfirst,
    takeWhile_isArgumentChar hn.isVariableChar (by simp), hn.asName_eq]

end Token

end CustomProps
