import CustomProps.Proofs.Change
import CustomProps.Proofs.Concatenation

/-!
Comments and what stands around them. What is written in a comment takes part in the reading before
it only where an open quote seeks its end across the comment, and such a quote was not closed there
or the comment would be part of a literal. A comment without quotes and backslashes closes none
either and does not reach past its line, so it may be written for any other: no declaration of the
text changes.
-/

namespace CustomProps

namespace Text

/-- Whether no quote that stands open before a text is closed in it. -/
def ClosesNoQuote (t : Text) : Prop :=
  ∀ quote, isQuoteMark quote = true → quote ≠ backtick → literal? quote t = none

/-- Characters that neither close a quote nor end a line nor take another along. -/
def IsInert (c : Char) : Prop := c ≠ '\n' ∧ c ≠ '\\' ∧ c ≠ '\'' ∧ c ≠ '"'

instance : DecidablePred IsInert := fun c =>
  inferInstanceAs (Decidable (c ≠ '\n' ∧ c ≠ '\\' ∧ c ≠ '\'' ∧ c ≠ '"'))

theorem ne_quote_of_isInert {c quote : Char} (hc : IsInert c) (hq : isQuoteMark quote = true)
    (hb : quote ≠ backtick) : c ≠ quote := by
  obtain ⟨-, -, hs, hd⟩ := hc
  rintro rfl
  simp [isQuoteMark, hs, hd, hb] at hq

theorem literal?_cons_of_isInert {c quote : Char} (hc : IsInert c) (hq : isQuoteMark quote = true)
    (hb : quote ≠ backtick) (t : Text) :
    literal? quote (c :: t) = (literal? quote t).map fun p => (c :: p.1, p.2) := by
  rw [literal?_cons hc.2.1, if_neg fun h => hc.1 h.1, if_neg (ne_quote_of_isInert hc hq hb)]

theorem ClosesNoQuote.cons {t : Text} (h : ClosesNoQuote t) {c : Char} (hc : IsInert c) :
    ClosesNoQuote (c :: t) := by
  intro quote hq hb
  rw [literal?_cons_of_isInert hc hq hb, h quote hq hb, Option.map_none]

/-- A line of inert characters closes no quote. -/
theorem closesNoQuote_line {line rest : Text} (hl : ∀ c ∈ line, IsInert c)
    (he : ∀ c ∈ rest.head?, c = '\n') : ClosesNoQuote (line ++ rest) := by
  induction line with
  | nil =>
    intro quote hq hb
    cases rest with
    | nil => rfl
    | cons c rest =>
      rw [he c rfl, List.nil_append, literal?_cons (by decide), if_pos ⟨rfl, hb⟩]
  | cons c line ih =>
    obtain ⟨hc, ht⟩ := List.forall_mem_cons.1 hl
    exact (ih ht).cons hc

theorem isInert_slash : IsInert '/' := by simp [IsInert]

/-- A quote that is not closed where a comment follows stays so when something else stands in the
comment that closes none. -/
theorem unclosed_before_comment {quote : Char} (hq : isQuoteMark quote = true)
    (hb : quote ≠ backtick) {x u u' : Text} (h : Unclosed quote (x ++ '/' :: '/' :: u))
    (hu : ClosesNoQuote u') : Unclosed quote (x ++ '/' :: '/' :: u') := by
  rw [← literal?_eq_none_iff hq] at h ⊢
  have hone := hu.cons isInert_slash
  exact literal?_append_eq_none h (hone.cons isInert_slash quote hq hb) fun _ => hone quote hq hb

theorem head?_append_cons (x : Text) (c : Char) (u u' : Text) :
    (x ++ c :: u).head? = (x ++ c :: u').head? := by cases x <;> rfl

/-- A reading comes to each comment past a beginning `x` with regions `pre`, and comes there just so
when something else stands behind the slashes that closes no quote. -/
theorem Reads.exists_comment {i : Nat} {t : Text} {rs : List Region} (h : Reads i t rs)
    {r : Region} (hr : r ∈ rs) (hk : r.kind = .comment) :
    ∃ x u pre post, t = x ++ '/' :: '/' :: u ∧ rs = pre ++ r :: post ∧
      Reads (i + byteSize x) ('/' :: '/' :: u) (r :: post) ∧
      ∀ u' rs', ClosesNoQuote u' → Reads (i + byteSize x) ('/' :: '/' :: u') rs' →
        Reads i (x ++ '/' :: '/' :: u') (pre ++ rs') := by
  induction h with
  | done => cases hr
  | @comment i line rest rs hl he h ih =>
    rcases List.mem_cons.1 hr with rfl | hr
    · refine ⟨[], line ++ rest, [], rs, rfl, rfl, .comment hl he h, ?_⟩
      exact fun u' rs' _ hu => hu
    · obtain ⟨x, u, pre, post, rfl, rfl, hat, hnew⟩ := ih hr
      have hsize := add_byteSize_comment i line x
      refine ⟨'/' :: '/' :: (line ++ x), u, ⟨.comment, dropReturn line, i + 2⟩ :: pre, post,
        by simp, rfl, hsize ▸ hat, ?_⟩
      intro u' rs' hu hread
      rw [head?_append_cons x '/' _ ('/' :: u')] at he
      have h := Reads.comment hl he (hnew u' rs' hu (hsize ▸ hread))
      simpa using h
  | @literal i quote body rest rs hq hb h ih =>
    rcases List.mem_cons.1 hr with rfl | hr
    · cases hk
    · obtain ⟨x, u, pre, post, rfl, rfl, hat, hnew⟩ := ih hr
      have hsize := add_byteSize_literal hq i body x
      refine ⟨quote :: (body ++ quote :: x), u, ⟨.literal, body, i + 1⟩ :: pre, post,
        by simp, rfl, hsize ▸ hat, ?_⟩
      intro u' rs' hu hread
      have h := Reads.literal hq hb (hnew u' rs' hu (hsize ▸ hread))
      simpa using h
  | @openQuote i quote t rs hq hb hopen h ih =>
    obtain ⟨x, u, pre, post, rfl, rfl, hat, hnew⟩ := ih hr
    have hsize := add_byteSize_quote hq i x
    refine ⟨quote :: x, u, pre, post, rfl, rfl, hsize ▸ hat, ?_⟩
    intro u' rs' hu hread
    exact .openQuote hq hb (unclosed_before_comment hq hb hopen hu)
      (hnew u' rs' hu (hsize ▸ hread))
  | openBacktick => cases hr
  | @other i c t rs hq hs h ih =>
    obtain ⟨x, u, pre, post, rfl, rfl, hat, hnew⟩ := ih hr
    have hsize : i + byteSize (c :: x) = i + c.utf8Size + byteSize x := by
      rw [byteSize_cons, Nat.add_assoc]
    refine ⟨c :: x, u, pre, post, rfl, rfl, hsize ▸ hat, ?_⟩
    intro u' rs' hu hread
    rw [head?_append_cons x '/' _ ('/' :: u')] at hs
    exact .other hq hs (hnew u' rs' hu (hsize ▸ hread))

/-- A reading that starts with a comment goes on behind its line. -/
theorem Reads.exists_line {i : Nat} {u : Text} {rs : List Region}
    (h : Reads i ('/' :: '/' :: u) rs) :
    ∃ line rest, u = line ++ rest ∧ '\n' ∉ line ∧ (∀ c ∈ rest.head?, c = '\n') ∧
      rs = ⟨.comment, dropReturn line, i + 2⟩ :: regionsFrom (i + 2 + byteSize line) rest := by
  refine ⟨u.takeWhile (· != '\n'), u.dropWhile (· != '\n'),
    List.takeWhile_append_dropWhile.symm, lineFeed_not_mem_takeWhile u, ?_, ?_⟩
  · intro c hc
    have hd := List.head?_dropWhile_not (· != '\n') u
    rw [hc] at hd
    simpa using hd
  · rw [h.eq_regionsFrom, regionsFrom, if_pos ⟨rfl, rfl⟩]
    rfl

/-- A line is its text with or without a carriage return. -/
theorem exists_eq_dropReturn_append (line : Text) :
    ∃ e, (∀ c ∈ e, c = '\r') ∧ line = dropReturn line ++ e := by
  by_cases h : line.getLast? = some '\r'
  · obtain ⟨s, rfl⟩ := List.getLast?_eq_some_iff.1 h
    exact ⟨['\r'], by simp, by rw [dropReturn_append]⟩
  · exact ⟨[], by simp, by rw [dropReturn_of_getLast? h, List.append_nil]⟩

/-- What is written around a comment that stands behind `x`: nothing of it but its line feeds, and
it has none. -/
theorem written_around_comment {x line rest : Text} {pre : List Region} {r : Region}
    (hr : (x ++ '/' :: '/' :: (line ++ rest)).regions =
      pre ++ r :: regionsFrom (byteSize x + 2 + byteSize line) rest)
    (hk : r.kind = .comment) (hpre : ∀ s ∈ pre, s.start ≤ byteSize x) (hl : '\n' ∉ line)
    (uri : Uri) :
    (x ++ '/' :: '/' :: (line ++ rest)).written uri = pre.flatMap (x.writtenIn uri) ++
      (rest.written uri).map (Declaration.lower (x.count '\n')) := by
  have ht : x ++ '/' :: '/' :: (line ++ rest) = (x ++ '/' :: '/' :: line) ++ rest := by simp
  have hsize : byteSize x + 2 + byteSize line = byteSize (x ++ '/' :: '/' :: line) := by
    simp only [byteSize_append, byteSize_cons, utf8Size_of_lt (show '/'.toNat < 128 by decide)]
    omega
  have hcount : (x ++ '/' :: '/' :: line).count '\n' = x.count '\n' := by
    simp [List.count_append, List.count_eq_zero_of_not_mem hl]
  rw [written_eq_flatMap, hr, List.flatMap_append, flatMap_writtenIn_left hpre, List.flatMap_cons,
    writtenIn_of_comment hk, List.nil_append, hsize, regionsFrom_eq_map_shift, ht,
    flatMap_writtenIn_right, hcount, written_eq_flatMap]

/-- A text falls into what stands before a comment, its content, and what stands behind it; and what
is written in the text stays the same with any inert content. -/
theorem exists_written_around {t : Text} {r : Region} (hr : r ∈ t.regions)
    (hk : r.kind = .comment) (uri : Uri) :
    ∃ x z, t = x ++ r.content ++ z ∧ r.start = byteSize x ∧
      ∀ new, (∀ c ∈ new, IsInert c) → (x ++ new ++ z).written uri = t.written uri := by
  have hread := reads_regionsFrom 0 t
  rw [regions_eq] at hr
  obtain ⟨x, u, pre, post, rfl, hrs, hat, hnew⟩ := hread.exists_comment hr hk
  rw [Nat.zero_add] at hat hnew
  obtain ⟨line, rest, rfl, hl, he, hhead⟩ := hat.exists_line
  obtain ⟨rfl, rfl⟩ := List.cons.inj hhead
  obtain ⟨e, hreturn, hline⟩ := exists_eq_dropReturn_append line
  have hpre : ∀ s ∈ pre, s.start ≤ byteSize x := by
    intro s hs
    have hpair := hread.pairwise
    rw [hrs] at hpair
    have hbefore := (List.pairwise_append.1 hpair).2.2 s hs _ List.mem_cons_self
    simp only [Region.IsBefore, Region.span, RegionKind.opening] at hbefore
    omega
  refine ⟨x ++ ['/', '/'], e ++ rest, ?_, ?_, ?_⟩
  · conv_lhs => rw [hline]
    simp
  · rw [byteSize_append]
    rfl
  · intro new hinert
    -- A carriage return behind the content is part of the line, but not of the content.
    have hnewline : ∀ c ∈ new ++ e, IsInert c := by
      intro c hc
      rcases List.mem_append.1 hc with hc | hc
      · exact hinert c hc
      · rw [hreturn c hc]
        simp [IsInert]
    have hnofeed : '\n' ∉ new ++ e := fun hm => (hnewline '\n' hm).1 rfl
    have hreads := hnew (new ++ e ++ rest) _ (closesNoQuote_line hnewline he)
      (.comment hnofeed he (reads_regionsFrom _ rest))
    have hold := written_around_comment (hrs ▸ regions_eq _) rfl hpre hl uri
    have hnew := written_around_comment (hreads.eq_regionsFrom ▸ regions_eq _) rfl hpre hnofeed uri
    rw [hold, ← hnew]
    simp

/-- The content of a comment may be replaced by any text without line feeds, backslashes and quotes,
backticks allowed: the declarations stay the same, each in its place. -/
theorem declarations_splice_comment {t : Text} {r : Region} (hr : r ∈ t.regions)
    (hk : r.kind = .comment) {new : Text} (hnew : ∀ c ∈ new, IsInert c) (uri : Uri) :
    (t.splice r.start (r.start + byteSize r.content) new).declarations uri =
      t.declarations uri := by
  obtain ⟨x, z, ht, hstart, hwritten⟩ := exists_written_around hr hk uri
  have hsplice : t.splice r.start (r.start + byteSize r.content) new = x ++ new ++ z := by
    rw [hstart, ← byteSize_append]
    conv_lhs => rw [ht]
    exact splice_append x r.content z new
  rw [declarations_eq, declarations_eq, hsplice, hwritten new hnew]

end Text

namespace Sample

/-- A quote that is sought past the end of its line, across a comment. -/
def commented : Text := "x = 'a\\\n y // it`s \"\n`--x: 1px;`".toList

def comment : Region := ⟨.comment, " it`s \"".toList, 13⟩

def livelyComment : Text := "`--x: 2px;`".toList

end Sample

namespace Text

theorem declarations_splice_comment_of_sample :
    Sample.comment ∈ Sample.commented.regions ∧ Sample.comment.kind = .comment ∧
    (∀ c ∈ Sample.livelyComment, IsInert c) ∧
    (Sample.commented.declarations Sample.script).map (fun d => (d.value, d.range.start.line)) =
      [("1px".toList, 2)] ∧
    (Sample.commented.splice Sample.comment.start
        (Sample.comment.start + byteSize Sample.comment.content)
        Sample.livelyComment).declarations Sample.script =
      Sample.commented.declarations Sample.script := by
  have hr : Sample.comment ∈ Sample.commented.regions := by decide +kernel
  have hall : Sample.livelyComment.all (decide <| IsInert ·) = true := by decide +kernel
  have hnew : ∀ c ∈ Sample.livelyComment, IsInert c := by simpa using hall
  exact ⟨hr, rfl, hnew, by decide +kernel, declarations_splice_comment hr rfl hnew Sample.script⟩

end Text

end CustomProps
