import CustomProps.Proofs.Lines
import CustomProps.Proofs.Utf8
import CustomProps.Region

/-!
The regions of a text read character by character. A literal ends at the first delimiter that no
backslash takes along, and a comment at the end of its line. The search on bytes finds the same
regions: each delimiter is a character below 128, and a backslash that takes along the first byte
of a longer character leaves only bytes that mean nothing to the search. So every region is a piece
of the text, and its start is the size of what stands before it.
-/

namespace CustomProps

namespace Text

def backtick : Char := '\x60'

def isQuoteMark (c : Char) : Bool := c == backtick || c == '\'' || c == '"'

/-- The content of a literal whose opening delimiter was read, and what follows its closing one. A
backslash takes the character after it along; only a literal in backticks goes past a line feed. -/
def literal? (quote : Char) : Text → Option (Text × Text)
  | [] => none
  | c :: t =>
    if c = '\\' then
      match t with
      | [] => none
      | d :: t => (literal? quote t).map fun p => (c :: d :: p.1, p.2)
    else if c = '\n' ∧ quote ≠ backtick then none
    else if c = quote then some ([], t)
    else (literal? quote t).map fun p => (c :: p.1, p.2)

/-- The content and the closing delimiter stand before the rest. -/
theorem eq_append_of_literal? {quote : Char} {t body rest : Text}
    (h : literal? quote t = some (body, rest)) : t = body ++ quote :: rest := by
  fun_induction literal? quote t generalizing body with
  | case1 => cases h
  | case2 => cases h
  | case3 d t ih =>
    obtain ⟨p, hp, he⟩ := Option.map_eq_some_iff.1 h
    cases he
    rw [ih hp]
    rfl
  | case4 => cases h
  | case5 t _ _ =>
    cases h
    rfl
  | case6 c t _ _ _ ih =>
    obtain ⟨p, hp, he⟩ := Option.map_eq_some_iff.1 h
    cases he
    rw [ih hp]
    rfl

/-- The regions of a text whose first character stands at byte `i`. A quote that is not closed on
its line is passed over, and a backtick that is not closed ends the reading. -/
def regionsFrom (i : Nat) : Text → List Region
  | [] => []
  | c :: t =>
    if c = '/' ∧ t.head? = some '/' then
      let line := t.tail.takeWhile (· != '\n')
      ⟨.comment, dropReturn line, i + 2⟩ ::
        regionsFrom (i + 2 + byteSize line) (t.tail.dropWhile (· != '\n'))
    else if isQuoteMark c then
      match h : literal? c t with
      | some (body, rest) => ⟨.literal, body, i + 1⟩ :: regionsFrom (i + 2 + byteSize body) rest
      | none => if c = backtick then [] else regionsFrom (i + 1) t
    else regionsFrom (i + c.utf8Size) t
termination_by t => t.length
decreasing_by
  · have h : (t.tail.dropWhile (· != '\n')).length ≤ t.tail.length :=
      (List.dropWhile_sublist _).length_le
    simp only [List.length_tail, List.length_cons] at h ⊢
    omega
  · rw [eq_append_of_literal? h]
    simp only [List.length_append, List.length_cons]
    omega
  · exact Nat.lt_succ_self _
  · exact Nat.lt_succ_self _

theorem ne_of_high {b x : UInt8} (hb : 0x80 ≤ b) (hx : x < 0x80) : b ≠ x := by
  intro h
  rw [h] at hb
  exact absurd hx (UInt8.not_lt.2 hb)

theorem bodyLength?_cons {quote b : UInt8} (hb : b ≠ Span.backslash) (bs : Bytes) :
    Span.bodyLength? quote (b :: bs) =
      if b == Span.lineFeed && quote != Span.backtick then none
      else if b == quote then some 0
      else (Span.bodyLength? quote bs).map (· + 1) := by
  have h : (b == Span.backslash) = false := by simpa using hb
  cases bs <;> simp [Span.bodyLength?, h]

/-- High bytes are passed over in a literal. -/
theorem bodyLength?_high {quote : UInt8} (hq : quote < 0x80) {high : Bytes}
    (h : ∀ b ∈ high, 0x80 ≤ b) (bs : Bytes) :
    Span.bodyLength? quote (high ++ bs) = (Span.bodyLength? quote bs).map (· + high.length) := by
  induction high with
  | nil => simp
  | cons b high ih =>
    have hb := h b List.mem_cons_self
    have hf : b ≠ Span.lineFeed := ne_of_high hb (by decide)
    have hc : b ≠ quote := ne_of_high hb hq
    have ht := ih fun b hb => h b (List.mem_cons_of_mem _ hb)
    rw [List.cons_append, bodyLength?_cons (ne_of_high hb (by decide)), ht]
    simp [hf, hc, Function.comp_def, Nat.add_assoc]

/-- High bytes are passed over between regions. -/
theorem scan_high (i : Nat) {high : Bytes} (h : ∀ b ∈ high, 0x80 ≤ b) (bs : Bytes) :
    Span.scan i (high ++ bs) = Span.scan (i + high.length) bs := by
  induction high generalizing i with
  | nil => simp
  | cons b high ih =>
    have hb := h b List.mem_cons_self
    have h₁ : (b == Span.slash) = false := by simpa using ne_of_high hb (by decide)
    have h₂ : Span.isQuote b = false := by
      simp [Span.isQuote, ne_of_high hb (show Span.backtick < 0x80 by decide),
        ne_of_high hb (show Span.singleQuote < 0x80 by decide),
        ne_of_high hb (show Span.doubleQuote < 0x80 by decide)]
    have ht := ih (i + 1) fun b hb => h b (List.mem_cons_of_mem _ hb)
    rw [List.cons_append, Span.scan, if_neg (by simp [h₁]), if_neg (by simp [h₂]), ht]
    simp only [List.length_cons]
    congr 1
    omega

/-- A character starts with one byte, and all that follow are high. -/
theorem utf8EncodeChar_eq_cons (c : Char) :
    ∃ b high, String.utf8EncodeChar c = b :: high ∧ ∀ x ∈ high, 0x80 ≤ x := by
  by_cases hc : c.toNat < 128
  · exact ⟨byte c, [], utf8EncodeChar_of_lt hc, by simp⟩
  · obtain ⟨b, high, he⟩ := List.exists_cons_of_ne_nil (String.utf8EncodeChar_ne_nil (c := c))
    refine ⟨b, high, he, ?_⟩
    intro x hx
    apply le_of_mem_utf8EncodeChar (c := c) (by omega)
    rw [he]
    exact List.mem_cons_of_mem _ hx

/-- A line feed ends the search for the delimiter on bytes where it does so on characters. -/
theorem stops_iff {quote c : Char} (hq : quote.toNat < 128) (hc : c.toNat < 128) :
    (byte c == Span.lineFeed && byte quote != Span.backtick) = true ↔
      c = '\n' ∧ quote ≠ backtick := by
  rw [Bool.and_eq_true, beq_iff_eq, bne_iff_ne, show Span.lineFeed = byte '\n' from rfl,
    show Span.backtick = byte backtick from rfl, Ne, byte_inj hc (by decide),
    byte_inj hq (by decide)]

/-- A character that means nothing in a literal is passed over, whatever its bytes. -/
theorem bodyLength?_utf8EncodeChar {quote c : Char} (hq : quote.toNat < 128) (hb : c ≠ '\\')
    (hf : ¬ (c = '\n' ∧ quote ≠ backtick)) (hc : c ≠ quote) (bs : Bytes) :
    Span.bodyLength? (byte quote) (String.utf8EncodeChar c ++ bs) =
      (Span.bodyLength? (byte quote) bs).map (· + c.utf8Size) := by
  by_cases hl : c.toNat < 128
  · have hb' : byte c ≠ Span.backslash := byte_ne hl (by decide) hb
    have hc' : byte c ≠ byte quote := byte_ne hl hq hc
    rw [utf8EncodeChar_of_lt hl, utf8Size_of_lt hl, List.singleton_append, bodyLength?_cons hb',
      if_neg (by rwa [stops_iff hq hl]), if_neg (by simpa using hc')]
  · rw [bodyLength?_high (byte_lt hq) fun b hm => le_of_mem_utf8EncodeChar (by omega) hm,
      String.length_utf8EncodeChar]

/-- A literal has the same content on bytes as on characters. -/
theorem bodyLength?_utf8 {quote : Char} (hq : quote.toNat < 128) (t : Text) :
    Span.bodyLength? (byte quote) t.utf8 = (literal? quote t).map fun p => byteSize p.1 := by
  fun_induction literal? quote t with
  | case1 => rfl
  | case2 => rfl
  | case3 d t ih =>
    -- The backslash takes the first byte of `d` along; the others are high.
    obtain ⟨b, high, he, hh⟩ := utf8EncodeChar_eq_cons d
    have hd : d.utf8Size = high.length + 1 := by
      rw [← String.length_utf8EncodeChar, he, List.length_cons]
    have hs : utf8 ('\\' :: d :: t) = Span.backslash :: b :: (high ++ utf8 t) := by
      rw [utf8_cons_of_lt (by decide), utf8_cons, he]
      rfl
    have hsize : '\\'.utf8Size = 1 := rfl
    rw [hs, Span.bodyLength?, if_pos (by decide), bodyLength?_high (byte_lt hq) hh, ih]
    simp only [Option.map_map, Function.comp_def, byteSize_cons, hd, hsize]
    congr 1
    funext p
    omega
  | case4 c t hb hf =>
    have hc : c.toNat < 128 := by
      rw [hf.1]
      decide
    rw [utf8_cons_of_lt hc, bodyLength?_cons (byte_ne hc (by decide) hb),
      if_pos ((stops_iff hq hc).2 hf)]
    rfl
  | case5 t hb hf =>
    rw [utf8_cons_of_lt hq, bodyLength?_cons (byte_ne hq (by decide) hb),
      if_neg (by rwa [stops_iff hq hq]), if_pos (by simp)]
    rfl
  | case6 c t hb hf hc ih =>
    rw [utf8_cons, bodyLength?_utf8EncodeChar hq hb hf hc, ih]
    simp only [Option.map_map, Function.comp_def, byteSize_cons, Nat.add_comm]

/-- The bytes of a line. -/
theorem lineLength_utf8 (t : Text) :
    Span.lineLength t.utf8 = byteSize (t.takeWhile (· != '\n')) := by
  rw [← length_utf8, ← takeWhile_utf8 (by decide)]
  rfl

theorem take_line_utf8 (t : Text) :
    t.utf8.take (byteSize (t.takeWhile (· != '\n'))) = utf8 (t.takeWhile (· != '\n')) := by
  have h := take_utf8_append (t.takeWhile (· != '\n')) (t.dropWhile (· != '\n'))
  rwa [List.takeWhile_append_dropWhile] at h

theorem drop_line_utf8 (t : Text) :
    t.utf8.drop (byteSize (t.takeWhile (· != '\n'))) = utf8 (t.dropWhile (· != '\n')) := by
  have h := drop_utf8_append (t.takeWhile (· != '\n')) (t.dropWhile (· != '\n'))
  rwa [List.takeWhile_append_dropWhile] at h

theorem commentLength_utf8 (t : Text) :
    Span.commentLength t.utf8 = byteSize (dropReturn (t.takeWhile (· != '\n'))) := by
  have hr : '\r'.toNat < 128 := by decide
  rw [Span.commentLength, lineLength_utf8, take_line_utf8]
  simp only [show Span.carriageReturn = byte '\r' from rfl, getLast?_utf8 hr]
  split
  · rename_i h
    obtain ⟨line, hl⟩ := List.getLast?_eq_some_iff.1 h
    rw [hl, dropReturn_append, byteSize_append_of_lt line hr, Nat.add_sub_cancel]
  · rename_i h
    rw [dropReturn_of_getLast? h]

theorem isQuote_byte {c : Char} (hc : c.toNat < 128) :
    Span.isQuote (byte c) = isQuoteMark c := by
  rw [Bool.eq_iff_iff]
  simp only [Span.isQuote, isQuoteMark, Bool.or_eq_true, beq_iff_eq,
    show Span.backtick = byte backtick from rfl, show Span.singleQuote = byte '\'' from rfl,
    show Span.doubleQuote = byte '"' from rfl, byte_inj hc (show backtick.toNat < 128 by decide),
    byte_inj hc (show '\''.toNat < 128 by decide), byte_inj hc (show '"'.toNat < 128 by decide)]

theorem lt_of_isQuoteMark {c : Char} (h : isQuoteMark c = true) : c.toNat < 128 := by
  simp only [isQuoteMark, Bool.or_eq_true, beq_iff_eq] at h
  rcases h with (rfl | rfl) | rfl <;> decide

theorem ne_lineFeed_of_isQuoteMark {c : Char} (h : isQuoteMark c = true) : c ≠ '\n' := by
  rintro rfl
  exact absurd h (by decide)

/-- A comment found on bytes. -/
theorem scan_comment (i : Nat) (t : Text) :
    Span.scan i (utf8 ('/' :: '/' :: t)) =
      ⟨.comment, i + 2, i + 2 + byteSize (dropReturn (t.takeWhile (· != '\n')))⟩ ::
        Span.scan (i + 2 + byteSize (t.takeWhile (· != '\n')))
          (utf8 (t.dropWhile (· != '\n'))) := by
  have hh : (byte '/' == Span.slash &&
      (byte '/' :: utf8 t).head? == some Span.slash) = true := rfl
  rw [utf8_cons_of_lt (by decide), utf8_cons_of_lt (by decide), Span.scan, if_pos hh]
  simp only [List.tail_cons, commentLength_utf8, lineLength_utf8, drop_line_utf8]

/-- A quote found on bytes. -/
theorem scan_quote (i : Nat) {c : Char} (hc : isQuoteMark c = true) (t : Text) :
    Span.scan i (utf8 (c :: t)) =
      match literal? c t with
      | some (body, rest) =>
        ⟨.literal, i + 1, i + 1 + byteSize body⟩ :: Span.scan (i + 2 + byteSize body) (utf8 rest)
      | none => if c = backtick then [] else Span.scan (i + 1) (utf8 t) := by
  have hl := lt_of_isQuoteMark hc
  have hs : (byte c == Span.slash) = false := by
    have hne : c ≠ '/' := by
      rintro rfl
      exact absurd hc (by decide)
    rw [beq_eq_false_iff_ne]
    exact byte_ne hl (show '/'.toNat < 128 by decide) hne
  rw [utf8_cons_of_lt hl, Span.scan, if_neg (by simp [hs]), if_pos (by rwa [isQuote_byte hl]),
    bodyLength?_utf8 hl]
  cases h : literal? c t with
  | some p =>
    obtain ⟨body, rest⟩ := p
    have hd : (utf8 t).drop (byteSize body + 1) = utf8 rest := by
      have ht : t = (body ++ [c]) ++ rest := by
        rw [eq_append_of_literal? h]
        simp
      rw [ht, ← byteSize_append_of_lt body hl, drop_utf8_append]
    simp only [Option.map_some, hd]
    congr 2
    omega
  | none =>
    simp only [Option.map_none, beq_iff_eq, show Span.backtick = byte backtick from rfl,
      byte_inj hl (show backtick.toNat < 128 by decide)]

/-- Any other character is passed over on bytes. -/
theorem scan_other (i : Nat) {c : Char} {t : Text} (hs : ¬ (c = '/' ∧ t.head? = some '/'))
    (hq : isQuoteMark c = false) :
    Span.scan i (utf8 (c :: t)) = Span.scan (i + c.utf8Size) (utf8 t) := by
  by_cases hl : c.toNat < 128
  · have hs' : ¬ ((byte c == Span.slash && (utf8 t).head? == some Span.slash) = true) := by
      rw [Bool.and_eq_true, beq_iff_eq, beq_iff_eq, show Span.slash = byte '/' from rfl,
        byte_inj hl (by decide), head?_utf8 (by decide)]
      exact hs
    rw [utf8_cons_of_lt hl, Span.scan, if_neg hs', if_neg (by simp [isQuote_byte hl, hq]),
      utf8Size_of_lt hl]
  · rw [utf8_cons, scan_high i fun b hb => le_of_mem_utf8EncodeChar (by omega) hb,
      String.length_utf8EncodeChar]

/-- What stands between two pieces of a text is the slice between their cuts. -/
theorem slice_append (x y z : Text) :
    slice (x ++ (y ++ z)) (byteSize x) (byteSize x + byteSize y) = y := by
  rw [slice, dropBytes_append, Nat.add_sub_cancel_left, takeBytes_append]

/-- The spans of what follows `x` cut its regions out of the whole text. -/
theorem map_scan (x t : Text) :
    (Span.scan (byteSize x) t.utf8).map (Region.ofSpan (x ++ t)) = regionsFrom (byteSize x) t := by
  generalize hi : byteSize x = i
  fun_induction regionsFrom i t generalizing x with
  | case1 i => simp [Span.scan]
  | case2 i c t hs line ih =>
    obtain ⟨rfl, ht⟩ := hs
    obtain ⟨t, rfl⟩ := List.head?_eq_some_iff.1 ht
    simp only [List.tail_cons] at line ih ⊢
    obtain ⟨e, he⟩ := dropReturn_isPrefix line
    have hline : t = line ++ t.dropWhile (· != '\n') := List.takeWhile_append_dropWhile.symm
    have hx : byteSize (x ++ ['/', '/']) = i + 2 := by
      rw [byteSize_append, hi]
      rfl
    have hcut : Region.ofSpan (x ++ '/' :: '/' :: t)
        ⟨.comment, i + 2, i + 2 + byteSize (dropReturn line)⟩ =
          ⟨.comment, dropReturn line, i + 2⟩ := by
      have hw : x ++ '/' :: '/' :: t =
          (x ++ ['/', '/']) ++ (dropReturn line ++ (e ++ t.dropWhile (· != '\n'))) := by
        rw [← List.append_assoc (dropReturn line), he, ← hline]
        simp
      rw [Region.ofSpan, hw, ← hx, slice_append]
    have hrest := ih (x ++ ['/', '/'] ++ line) (by rw [byteSize_append, hx])
    have hw : x ++ ['/', '/'] ++ line ++ t.dropWhile (· != '\n') = x ++ '/' :: '/' :: t := by
      rw [List.append_assoc, ← hline]
      simp
    rw [hw] at hrest
    rw [scan_comment, List.map_cons]
    exact congrArg₂ List.cons hcut hrest
  | case3 i c t hs hc body rest h ih =>
    have ht := eq_append_of_literal? h
    have hl := lt_of_isQuoteMark hc
    have hx : byteSize (x ++ [c]) = i + 1 := by rw [byteSize_append_of_lt x hl, hi]
    have hcut : Region.ofSpan (x ++ c :: t) ⟨.literal, i + 1, i + 1 + byteSize body⟩ =
        ⟨.literal, body, i + 1⟩ := by
      have hw : x ++ c :: t = (x ++ [c]) ++ (body ++ c :: rest) := by
        rw [ht]
        simp
      rw [Region.ofSpan, hw, ← hx, slice_append]
    have hrest := ih (x ++ [c] ++ body ++ [c]) (by
      rw [byteSize_append_of_lt _ hl, byteSize_append, hx]
      omega)
    have hw : x ++ [c] ++ body ++ [c] ++ rest = x ++ c :: t := by
      rw [ht]
      simp
    rw [hw] at hrest
    rw [scan_quote i hc, h]
    simp only [List.map_cons, hcut, hrest]
  | case4 i t hs hc h =>
    rw [scan_quote i hc, h]
    simp
  | case5 i c t hs hc h hb ih =>
    have hrest := ih (x ++ [c]) (by
      rw [byteSize_append_of_lt x (lt_of_isQuoteMark hc), hi])
    rw [List.append_assoc, List.singleton_append] at hrest
    rw [scan_quote i hc, h]
    simp only [if_neg hb, hrest]
  | case6 i c t hs hc ih =>
    have hrest := ih (x ++ [c]) (by
      rw [byteSize_append, hi]
      rfl)
    rw [List.append_assoc, List.singleton_append] at hrest
    rw [scan_other i hs (Bool.eq_false_iff.2 hc), hrest]

/-- The regions found on bytes are those read character by character. -/
theorem regions_eq (t : Text) : t.regions = regionsFrom 0 t := map_scan [] t

/-- A region is a piece of the text, and its start counts the bytes before it. -/
theorem eq_append_of_mem_regionsFrom {i : Nat} {t : Text} {r : Region}
    (hr : r ∈ regionsFrom i t) :
    ∃ x z, t = x ++ (r.content ++ z) ∧ r.start = i + byteSize x := by
  fun_induction regionsFrom i t with
  | case1 i => cases hr
  | case2 i c t hs line ih =>
    obtain ⟨rfl, ht⟩ := hs
    obtain ⟨t, rfl⟩ := List.head?_eq_some_iff.1 ht
    simp only [List.tail_cons] at line ih hr ⊢
    have hline : t = line ++ t.dropWhile (· != '\n') := List.takeWhile_append_dropWhile.symm
    rcases List.mem_cons.1 hr with rfl | hr
    · obtain ⟨e, he⟩ := dropReturn_isPrefix line
      refine ⟨['/', '/'], e ++ t.dropWhile (· != '\n'), ?_, rfl⟩
      show '/' :: '/' :: t = '/' :: '/' :: (dropReturn line ++ (e ++ t.dropWhile (· != '\n')))
      rw [← List.append_assoc, he, ← hline]
    · obtain ⟨x, z, hx, hstart⟩ := ih hr
      refine ⟨'/' :: '/' :: line ++ x, z, ?_, ?_⟩
      · rw [List.append_assoc, ← hx, List.cons_append, List.cons_append, ← hline]
      · rw [hstart, byteSize_append, byteSize_cons, byteSize_cons,
          utf8Size_of_lt (show '/'.toNat < 128 by decide)]
        omega
  | case3 i c t hs hc body rest h ih =>
    have ht := eq_append_of_literal? h
    have hsize := utf8Size_of_lt (lt_of_isQuoteMark hc)
    rcases List.mem_cons.1 hr with rfl | hr
    · refine ⟨[c], c :: rest, ?_, ?_⟩
      · rw [ht]
        rfl
      · rw [byteSize_cons, hsize]
        rfl
    · obtain ⟨x, z, hx, hstart⟩ := ih hr
      refine ⟨c :: body ++ c :: x, z, ?_, ?_⟩
      · rw [ht, hx]
        simp
      · rw [hstart, byteSize_append, byteSize_cons, byteSize_cons, hsize]
        omega
  | case4 => cases hr
  | case5 i c t hs hc h hb ih =>
    obtain ⟨x, z, hx, hstart⟩ := ih hr
    refine ⟨c :: x, z, ?_, ?_⟩
    · rw [hx]
      rfl
    · rw [hstart, byteSize_cons, utf8Size_of_lt (lt_of_isQuoteMark hc)]
      omega
  | case6 i c t hs hc ih =>
    obtain ⟨x, z, hx, hstart⟩ := ih hr
    refine ⟨c :: x, z, ?_, ?_⟩
    · rw [hx]
      rfl
    · rw [hstart, byteSize_cons]
      omega

end Text

end CustomProps
