import CustomProps.Proofs.Region
import Mathlib.Data.List.TakeWhile

/-!
The regions of a text by their grammar. A literal is a body between two equal delimiters, where a
body holds no delimiter and no backslash except in pairs of a backslash and any character. The
grammar says what a text may be read as and no search is made in it; it reads every text in exactly
one way, and the search on bytes finds that reading. The regions stand in order, each with its
delimiters apart from the next.
-/

namespace CustomProps

/-- How many bytes open a region. -/
def RegionKind.opening : RegionKind → Nat
  | literal => 1
  | comment => 2

/-- How many bytes close a region. -/
def RegionKind.closing : RegionKind → Nat
  | literal => 1
  | comment => 0

namespace Region

/-- Where the content of a region starts and stops. -/
def span (r : Region) : Span := ⟨r.kind, r.start, r.start + Text.byteSize r.content⟩

/-- Whether a region with its delimiters ends before another with its delimiters begins. -/
def IsBefore (r s : Region) : Prop := r.span.stop + r.kind.closing + s.kind.opening ≤ s.start

end Region

namespace Text

/-- What may stand between two delimiters: a delimiter or backslash only behind a backslash, and a
line feed only there or between backticks. -/
inductive Body (quote : Char) : Text → Prop where
  | empty : Body quote []
  | plain {c : Char} {t : Text} (hb : c ≠ '\\') (hq : c ≠ quote) (hf : c = '\n' → quote = backtick)
    (h : Body quote t) : Body quote (c :: t)
  | escaped (d : Char) {t : Text} (h : Body quote t) : Body quote ('\\' :: d :: t)

/-- Whether a delimiter that was opened before the text is never closed. -/
def Unclosed (quote : Char) (t : Text) : Prop :=
  ∀ body rest, Body quote body → t ≠ body ++ quote :: rest

/-- The readings of a text whose first character stands at byte `i`. A comment goes to the end of
its line. An open quote is passed over and an open backtick takes all that is left. -/
inductive Reads : Nat → Text → List Region → Prop where
  | done (i : Nat) : Reads i [] []
  | comment {i : Nat} {line rest : Text} {rs : List Region} (hl : '\n' ∉ line)
    (he : ∀ c ∈ rest.head?, c = '\n') (h : Reads (i + 2 + byteSize line) rest rs) :
    Reads i ('/' :: '/' :: (line ++ rest)) (⟨.comment, dropReturn line, i + 2⟩ :: rs)
  | literal {i : Nat} {quote : Char} {body rest : Text} {rs : List Region}
    (hq : isQuoteMark quote = true) (hb : Body quote body)
    (h : Reads (i + 2 + byteSize body) rest rs) :
    Reads i (quote :: (body ++ quote :: rest)) (⟨.literal, body, i + 1⟩ :: rs)
  | openQuote {i : Nat} {quote : Char} {t : Text} {rs : List Region}
    (hq : isQuoteMark quote = true) (hb : quote ≠ backtick) (hu : Unclosed quote t)
    (h : Reads (i + 1) t rs) : Reads i (quote :: t) rs
  | openBacktick {i : Nat} {t : Text} (hu : Unclosed backtick t) : Reads i (backtick :: t) []
  | other {i : Nat} {c : Char} {t : Text} {rs : List Region} (hq : isQuoteMark c = false)
    (hs : ¬ (c = '/' ∧ t.head? = some '/')) (h : Reads (i + c.utf8Size) t rs) : Reads i (c :: t) rs

theorem body_of_literal? {quote : Char} {t body rest : Text}
    (h : literal? quote t = some (body, rest)) : Body quote body := by
  fun_induction literal? quote t generalizing body with
  | case1 => cases h
  | case2 => cases h
  | case3 d t ih =>
    obtain ⟨p, hp, he⟩ := Option.map_eq_some_iff.1 h
    cases he
    exact .escaped d (ih hp)
  | case4 => cases h
  | case5 t hb hf =>
    cases h
    exact .empty
  | case6 c t hb hf hc ih =>
    obtain ⟨p, hp, he⟩ := Option.map_eq_some_iff.1 h
    cases he
    refine .plain hb hc ?_ (ih hp)
    intro hn
    by_contra hq
    exact hf ⟨hn, hq⟩

/-- The search for the closing delimiter stops behind a body. -/
theorem literal?_append {quote : Char} (hq : isQuoteMark quote = true) {body : Text}
    (h : Body quote body) (rest : Text) :
    literal? quote (body ++ quote :: rest) = some (body, rest) := by
  have hback : quote ≠ '\\' := by
    rintro rfl
    exact absurd hq (by decide)
  have hfeed := ne_lineFeed_of_isQuoteMark hq
  induction h with
  | empty =>
    rw [List.nil_append, literal?.eq_def]
    simp [hback, hfeed]
  | @plain c t hb hc hf _ ih =>
    have hn : ¬ (c = '\n' ∧ quote ≠ backtick) := fun hn => hn.2 (hf hn.1)
    rw [List.cons_append, literal?.eq_def]
    simp [hb, hn, hc, ih]
  | escaped d _ ih => simp [literal?, ih]

/-- A literal is found exactly where the text goes on with a body and its delimiter. -/
theorem literal?_eq_some_iff {quote : Char} (hq : isQuoteMark quote = true)
    {t body rest : Text} :
    literal? quote t = some (body, rest) ↔ Body quote body ∧ t = body ++ quote :: rest := by
  constructor
  · intro h
    exact ⟨body_of_literal? h, eq_append_of_literal? h⟩
  · rintro ⟨hb, rfl⟩
    exact literal?_append hq hb rest

theorem literal?_eq_none_iff {quote : Char} (hq : isQuoteMark quote = true) {t : Text} :
    literal? quote t = none ↔ Unclosed quote t := by
  constructor
  · intro h body rest hb ht
    rw [(literal?_eq_some_iff hq).2 ⟨hb, ht⟩] at h
    cases h
  · intro h
    cases hl : literal? quote t with
    | none => rfl
    | some p => exact absurd (eq_append_of_literal? hl) (h p.1 p.2 (body_of_literal? hl))

/-- The reading character by character is one of the grammar's. -/
theorem reads_regionsFrom (i : Nat) (t : Text) : Reads i t (regionsFrom i t) := by
  fun_induction regionsFrom i t with
  | case1 i => exact .done i
  | case2 i c t hs line ih =>
    obtain ⟨rfl, ht⟩ := hs
    obtain ⟨t, rfl⟩ := List.head?_eq_some_iff.1 ht
    simp only [List.tail_cons] at line ih ⊢
    have hline : t = line ++ t.dropWhile (· != '\n') := List.takeWhile_append_dropWhile.symm
    have hl : '\n' ∉ line := by
      intro hm
      simpa using List.mem_takeWhile_imp hm
    have he : ∀ c ∈ (t.dropWhile (· != '\n')).head?, c = '\n' := by
      intro c hc
      have h := List.head?_dropWhile_not (· != '\n') t
      rw [hc] at h
      simpa using h
    have h := Reads.comment hl he ih
    rwa [← hline] at h
  | case3 i c t hs hc body rest h ih =>
    obtain ⟨hb, rfl⟩ := (literal?_eq_some_iff hc).1 h
    exact .literal hc hb ih
  | case4 i t hs hc h => exact .openBacktick ((literal?_eq_none_iff hc).1 h)
  | case5 i c t hs hc h hb ih => exact .openQuote hc hb ((literal?_eq_none_iff hc).1 h) ih
  | case6 i c t hs hc ih => exact .other (Bool.eq_false_iff.2 hc) hs ih

/-- The grammar reads a text in no other way. -/
theorem Reads.eq_regionsFrom {i : Nat} {t : Text} {rs : List Region} (h : Reads i t rs) :
    rs = regionsFrom i t := by
  -- A quote mark is no slash, so a comment and a literal never start at one place.
  have hslash : ∀ {c : Char} {t : Text}, isQuoteMark c = true →
      ¬ (c = '/' ∧ t.head? = some '/') := by
    rintro c t hq ⟨rfl, -⟩
    exact absurd hq (by decide)
  induction h with
  | done i => rw [regionsFrom]
  | @comment i line rest rs hl he _ ih =>
    have hin := forall_bne_of_not_mem hl
    have hout : ∀ c ∈ rest.head?, (c != '\n') = false := by
      intro c hc
      simp [he c hc]
    have htake := takeWhile_append_of_head hin hout
    have hdrop := dropWhile_append_of_head hin hout
    rw [regionsFrom, if_pos ⟨rfl, rfl⟩]
    simp only [List.tail_cons, htake, hdrop, ih]
  | @literal i quote body rest rs hq hb _ ih =>
    rw [regionsFrom, if_neg (hslash hq), if_pos hq]
    split
    · rename_i body' rest' hl
      rw [literal?_append hq hb] at hl
      cases hl
      rw [ih]
    · rename_i hl
      rw [literal?_append hq hb] at hl
      cases hl
  | @openQuote i quote t rs hq hb hu _ ih =>
    rw [regionsFrom, if_neg (hslash hq), if_pos hq]
    split
    · rename_i hl
      rw [(literal?_eq_none_iff hq).2 hu] at hl
      cases hl
    · rw [if_neg hb, ih]
  | @openBacktick i t hu =>
    have hq : isQuoteMark backtick = true := rfl
    rw [regionsFrom, if_neg (hslash hq), if_pos hq]
    split
    · rename_i hl
      rw [(literal?_eq_none_iff hq).2 hu] at hl
      cases hl
    · rfl
  | @other i c t rs hq hs _ ih =>
    rw [regionsFrom, if_neg hs, if_neg (by simp [hq]), ih]

/-- The search on bytes stops each content where the reading ends it. -/
theorem scan_utf8 (i : Nat) (t : Text) :
    Span.scan i t.utf8 = (regionsFrom i t).map Region.span := by
  fun_induction regionsFrom i t with
  | case1 i => simp [Span.scan]
  | case2 i c t hs line ih =>
    obtain ⟨rfl, ht⟩ := hs
    obtain ⟨t, rfl⟩ := List.head?_eq_some_iff.1 ht
    rw [scan_comment, List.map_cons, ← ih]
    rfl
  | case3 i c t hs hc body rest h ih =>
    rw [scan_quote i hc, h, List.map_cons, ← ih]
    rfl
  | case4 i t hs hc h =>
    rw [scan_quote i hc, h]
    rfl
  | case5 i c t hs hc h hb ih =>
    rw [scan_quote i hc, h, ← ih]
    exact if_neg hb
  | case6 i c t hs hc ih => rw [scan_other i hs (Bool.eq_false_iff.2 hc), ih]

theorem byteSize_dropReturn_le (line : Text) : byteSize (dropReturn line) ≤ byteSize line := by
  obtain ⟨e, he⟩ := dropReturn_isPrefix line
  have hsize := congrArg byteSize he
  rw [byteSize_append] at hsize
  omega

/-- The regions of a reading lie with their delimiters in the text that was read. -/
theorem Reads.bounds {i : Nat} {t : Text} {rs : List Region} (h : Reads i t rs) :
    ∀ r ∈ rs, i + r.kind.opening ≤ r.start ∧ r.span.stop + r.kind.closing ≤ i + byteSize t := by
  have hsize : ∀ {c : Char}, isQuoteMark c = true → c.utf8Size = 1 := fun hq =>
    utf8Size_of_lt (lt_of_isQuoteMark hq)
  induction h with
  | done => simp
  | @comment i line rest rs hl he _ ih =>
    have hle := byteSize_dropReturn_le line
    have hs : '/'.utf8Size = 1 := rfl
    simp only [byteSize_cons, byteSize_append, hs] at ih ⊢
    intro r hr
    rcases List.mem_cons.1 hr with rfl | hr
    · simp only [RegionKind.opening, RegionKind.closing, Region.span]
      omega
    · have := ih r hr
      omega
  | @literal i quote body rest rs hq hb _ ih =>
    simp only [byteSize_cons, byteSize_append, hsize hq] at ih ⊢
    intro r hr
    rcases List.mem_cons.1 hr with rfl | hr
    · simp only [RegionKind.opening, RegionKind.closing, Region.span]
      omega
    · have := ih r hr
      omega
  | @openQuote i quote t rs hq hb hu _ ih =>
    intro r hr
    have := ih r hr
    simp only [byteSize_cons, hsize hq]
    omega
  | openBacktick hu => simp
  | @other i c t rs hq hs _ ih =>
    intro r hr
    have := ih r hr
    simp only [byteSize_cons]
    omega

/-- The regions of a reading are in order and apart. -/
theorem Reads.pairwise {i : Nat} {t : Text} {rs : List Region} (h : Reads i t rs) :
    rs.Pairwise Region.IsBefore := by
  induction h with
  | done => exact .nil
  | @comment i line rest rs hl he h ih =>
    refine .cons ?_ ih
    intro r hr
    have hr := (h.bounds r hr).1
    have hle := byteSize_dropReturn_le line
    simp only [Region.IsBefore, Region.span, RegionKind.closing]
    omega
  | @literal i quote body rest rs hq hb h ih =>
    refine .cons ?_ ih
    intro r hr
    have hr := (h.bounds r hr).1
    simp only [Region.IsBefore, Region.span, RegionKind.closing]
    omega
  | openQuote _ _ _ _ ih => exact ih
  | openBacktick _ => exact .nil
  | other _ _ _ ih => exact ih

/-- Between two pieces of a text there is a cut. -/
theorem isCut_append (x z : Text) : isCut (x ++ z) (byteSize x) = true := by
  induction x with
  | nil => cases z <;> rfl
  | cons c x ih => simp [isCut, ih]

/-- The search on bytes gives the one reading that the grammar has of a text. Each region is what
stands between two cuts of the text, and the regions with their delimiters follow one another. -/
theorem regions_eq_reading (t : Text) :
    (∀ rs, Reads 0 t rs ↔ rs = t.regions) ∧
    Span.scan 0 t.utf8 = t.regions.map Region.span ∧
    (∀ r ∈ t.regions, t.isCut r.start = true ∧ t.isCut r.span.stop = true ∧
      t.slice r.start r.span.stop = r.content ∧
      r.kind.opening ≤ r.start ∧ r.span.stop + r.kind.closing ≤ byteSize t) ∧
    t.regions.Pairwise Region.IsBefore := by
  have hreads : Reads 0 t t.regions := by
    rw [regions_eq]
    exact reads_regionsFrom 0 t
  refine ⟨?_, ?_, ?_, hreads.pairwise⟩
  · intro rs
    constructor
    · intro h
      rw [regions_eq]
      exact h.eq_regionsFrom
    · rintro rfl
      exact hreads
  · rw [regions_eq, scan_utf8]
  · intro r hr
    obtain ⟨hopen, hclose⟩ := hreads.bounds r hr
    rw [regions_eq] at hr
    obtain ⟨x, z, ht, hstart⟩ := eq_append_of_mem_regionsFrom hr
    rw [Nat.zero_add] at hstart hopen hclose
    have hstop : r.span.stop = byteSize (x ++ r.content) := by
      rw [byteSize_append, ← hstart]
      rfl
    refine ⟨?_, ?_, ?_, hopen, hclose⟩
    · rw [ht, hstart]
      exact isCut_append x _
    · rw [hstop, ht, ← List.append_assoc]
      exact isCut_append _ z
    · rw [hstop, byteSize_append, hstart, ht]
      exact slice_append x r.content z

end Text

end CustomProps
