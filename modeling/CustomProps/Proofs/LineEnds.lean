import CustomProps.Proofs.Concatenation

/-!
The two ways to end a line. When every line feed of a text is written with a carriage return before
it, the text is read as before: what a comment gains it does not keep, a quote still ends its search
at the line feed, and no name or colon has a line feed in it. So the same declarations stand on the
same lines, and a value that goes over several lines has its line feeds written so too. A backslash
that took a line feed along would take the carriage return instead, so there must be none.
-/

namespace CustomProps

namespace Text

/-- The text with a carriage return before each line feed. -/
def withReturns : Text → Text
  | [] => []
  | c :: t => if c = '\n' then '\r' :: '\n' :: withReturns t else c :: withReturns t

/-- Whether no backslash takes a line feed along. -/
def KeepsFeeds (t : Text) : Prop := ¬ ['\\', '\n'] <:+: t

@[simp] theorem withReturns_nil : withReturns [] = [] := rfl
@[simp] theorem withReturns_feed (t : Text) :
    withReturns ('\n' :: t) = '\r' :: '\n' :: withReturns t := rfl

theorem withReturns_cons {c : Char} (hc : c ≠ '\n') (t : Text) :
    withReturns (c :: t) = c :: withReturns t := by rw [withReturns, if_neg hc]

@[simp] theorem withReturns_append (s t : Text) :
    withReturns (s ++ t) = withReturns s ++ withReturns t := by
  induction s with
  | nil => rfl
  | cons c s ih => by_cases hc : c = '\n' <;> simp [withReturns, hc, ih]

theorem withReturns_of_not_mem {t : Text} (h : '\n' ∉ t) : withReturns t = t := by
  induction t with
  | nil => rfl
  | cons c t ih =>
    obtain ⟨hc, ht⟩ := List.ne_and_not_mem_of_not_mem_cons h
    rw [withReturns_cons hc.symm, ih ht]

@[simp] theorem withReturns_eq_nil_iff {t : Text} : withReturns t = [] ↔ t = [] := by
  cases t with
  | nil => simp
  | cons c t => by_cases hc : c = '\n' <;> simp [withReturns, hc]

/-- No line feed comes or goes. -/
theorem count_withReturns (t : Text) : (withReturns t).count '\n' = t.count '\n' := by
  induction t with
  | nil => rfl
  | cons c t ih => by_cases hc : c = '\n' <;> simp [withReturns, hc, ih]

/-- What treats the two characters alike takes the same beginning of a text. -/
theorem takeWhile_withReturns {p : Char → Bool} (hp : p '\r' = p '\n') (t : Text) :
    (withReturns t).takeWhile p = withReturns (t.takeWhile p) := by
  induction t with
  | nil => rfl
  | cons c t ih =>
    by_cases hc : c = '\n'
    · subst hc
      cases h : p '\n' <;> simp [hp, h, ih]
    · cases h : p c <;> simp [withReturns_cons hc, h, ih]

theorem dropWhile_withReturns {p : Char → Bool} (hp : p '\r' = p '\n') (t : Text) :
    (withReturns t).dropWhile p = withReturns (t.dropWhile p) := by
  induction t with
  | nil => rfl
  | cons c t ih =>
    by_cases hc : c = '\n'
    · subst hc
      cases h : p '\n' <;> simp [hp, h, ih]
    · cases h : p c <;> simp [withReturns_cons hc, h, ih]

theorem trimEnd_append_singleton (t : Text) (c : Char) :
    trimEnd (t ++ [c]) = if isBlank c then trimEnd t else t ++ [c] := by
  by_cases hc : isBlank c <;> simp [trimEnd, hc]

theorem trimEnd_withReturns (t : Text) : trimEnd (withReturns t) = withReturns (trimEnd t) := by
  have hfeed : isBlank '\n' = true := by decide
  have hreturn : isBlank '\r' = true := by decide
  induction t using List.reverseRecOn with
  | nil => rfl
  | append_singleton t c ih =>
    rw [withReturns_append, trimEnd_append_singleton]
    by_cases hc : c = '\n'
    · subst hc
      have htwo : withReturns t ++ withReturns ['\n'] = withReturns t ++ ['\r'] ++ ['\n'] := by simp
      rw [htwo, trimEnd_append_singleton, trimEnd_append_singleton, if_pos hfeed, if_pos hreturn,
        if_pos hfeed, ih]
    · rw [withReturns_cons hc, withReturns_nil, trimEnd_append_singleton]
      by_cases hb : isBlank c = true
      · rw [if_pos hb, if_pos hb, ih]
      · rw [if_neg hb, if_neg hb, withReturns_append, withReturns_cons hc, withReturns_nil]

theorem trim_withReturns (t : Text) : trim (withReturns t) = withReturns (trim t) := by
  rw [trim, trimStart, dropWhile_withReturns (by decide), trimEnd_withReturns]
  rfl

/-- A delimiter is no line feed. -/
theorem withoutDelimiter_withReturns (t : Text) :
    withoutDelimiter (withReturns t) = withReturns (withoutDelimiter t) := by
  induction t using List.reverseRecOn with
  | nil => rfl
  | append_singleton t c _ =>
    by_cases hc : c = '\n'
    · subst hc
      have hd : isDelimiter '\n' = false := by decide
      have htwo : withReturns (t ++ ['\n']) = withReturns t ++ ['\r'] ++ ['\n'] := by simp
      simp only [withoutDelimiter, htwo, List.getLast?_concat, Option.any_some, hd]
      simp
    · have hone : withReturns (t ++ [c]) = withReturns t ++ [c] := by
        simp [withReturns_cons hc]
      simp only [withoutDelimiter, hone, List.getLast?_concat, Option.any_some,
        List.dropLast_concat]
      split
      · rfl
      · exact hone.symm

end Text

namespace Declaration

/-- The declaration with the line feeds of its value written with carriage returns. -/
def withReturns (d : Declaration) : Declaration := { d with value := d.value.withReturns }

@[simp] theorem name_withReturns (d : Declaration) : d.withReturns.name = d.name := rfl

/-- Lines are counted without a look at values. -/
theorem map_lower_withReturns (n : Nat) (ds : List Declaration) :
    (ds.map withReturns).map (lower n) = (ds.map (lower n)).map withReturns := by
  simp only [List.map_map]
  rfl

end Declaration

namespace Match

open Text

theorem head?_eq_none {c : Char} (hc : c ≠ '-') (t : Text) : head? (c :: t) = none := by
  unfold head?
  split
  · rename_i h
    cases h
    exact absurd rfl hc
  · rfl

theorem head?_eq_none_of_next {d : Char} (hd : d ≠ '-') (t : Text) :
    head? ('-' :: d :: t) = none := by
  unfold head?
  split
  · rename_i h
    cases h
    exact absurd rfl hd
  · rfl

/-- Behind the mark of a name the characters of the name and the colon are those that they were. -/
theorem head?_mark_withReturns (t : Text) :
    head? ('-' :: '-' :: withReturns t) =
      (head? ('-' :: '-' :: t)).map fun p => (p.1, withReturns p.2) := by
  have hname : withReturns (t.takeWhile isNameChar) = t.takeWhile isNameChar :=
    withReturns_of_not_mem fun h => absurd (List.mem_takeWhile_imp h) (by decide)
  simp only [head?, takeWhile_withReturns (p := isNameChar) (by decide),
    dropWhile_withReturns (p := isNameChar) (by decide), hname]
  cases t.takeWhile isNameChar with
  | nil => rfl
  | cons c cs =>
    cases t.dropWhile isNameChar with
    | nil => rfl
    | cons d rest =>
      by_cases hcolon : d = ':'
      · subst hcolon
        rfl
      · by_cases hfeed : d = '\n'
        · subst hfeed
          rfl
        · simp [withReturns_cons hfeed, hcolon]

/-- A declaration starts where it started before, with the same name. -/
theorem head?_withReturns (t : Text) :
    head? (withReturns t) = (head? t).map fun p => (p.1, withReturns p.2) := by
  cases t with
  | nil => rfl
  | cons c t =>
    by_cases hc : c = '-'
    · subst hc
      cases t with
      | nil => rfl
      | cons d t =>
        by_cases hd : d = '-'
        · subst hd
          exact head?_mark_withReturns t
        · rw [head?_eq_none_of_next hd]
          by_cases hf : d = '\n' <;>
            simp [withReturns, hf, head?_eq_none_of_next hd, head?_eq_none_of_next (d := '\r')]
    · rw [head?_eq_none hc]
      by_cases hf : c = '\n' <;> simp [withReturns, hf, head?_eq_none hc, head?_eq_none (c := '\r')]

/-- A match gives what it gave, with its value written so. -/
theorem declaration?_withReturns (t : Text) (uri : Uri) (name raw : Text) :
    declaration? (withReturns t) uri ⟨name, withReturns raw, 0, 0⟩ =
      (declaration? t uri ⟨name, raw, 0, 0⟩).map Declaration.withReturns := by
  simp only [declaration?, trim_withReturns, withoutDelimiter_withReturns, trimEnd_withReturns,
    withReturns_eq_nil_iff, List.take_zero]
  split <;> rfl

end Match

namespace Text

theorem KeepsFeeds.of_infix {s t : Text} (h : KeepsFeeds t) (hs : s <:+: t) : KeepsFeeds s :=
  fun hn => h (hn.trans hs)

theorem KeepsFeeds.of_append_right {s t : Text} (h : KeepsFeeds (s ++ t)) : KeepsFeeds t :=
  h.of_infix (List.suffix_append s t).isInfix

theorem KeepsFeeds.of_cons {c : Char} {t : Text} (h : KeepsFeeds (c :: t)) : KeepsFeeds t :=
  KeepsFeeds.of_append_right (s := [c]) h

theorem KeepsFeeds.ne_of_escape {d : Char} {t : Text} (h : KeepsFeeds ('\\' :: d :: t)) :
    d ≠ '\n' := by
  rintro rfl
  exact h (List.prefix_append ['\\', '\n'] t).isInfix

/-- A piece gives what it gave: no line feed is part of a name, and none ends a value. -/
theorem given_withReturns (t : Text) (uri : Uri) :
    given (withReturns t) uri = (given t uri).map Declaration.withReturns := by
  induction hn : t.length using Nat.strong_induction_on generalizing t with
  | _ n ih =>
    subst hn
    cases hh : Match.head? t with
    | some p =>
      obtain ⟨name, rest⟩ := p
      have hh' : Match.head? (withReturns t) = some (name, withReturns rest) := by
        rw [Match.head?_withReturns, hh]
        rfl
      obtain ⟨ht, hname⟩ := Match.eq_append_of_head? hh
      have hlt : (rest.dropWhile Match.isValueChar).length < t.length := by
        have hle := (List.dropWhile_sublist Match.isValueChar (l := rest)).length_le
        rw [ht, List.length_append, List.length_cons]
        omega
      have hcount : (name ++ ':' :: withReturns (rest.takeWhile Match.isValueChar)).count '\n' =
          (name ++ ':' :: rest.takeWhile Match.isValueChar).count '\n' := by
        simp [count_withReturns]
      rw [given_of_head? hh, given_of_head? hh', takeWhile_withReturns (by decide),
        dropWhile_withReturns (by decide), ih _ hlt _ rfl, hcount, Match.declaration?_withReturns,
        Declaration.map_lower_withReturns, List.map_append]
      cases Match.declaration? t uri ⟨name, rest.takeWhile Match.isValueChar, 0, 0⟩ <;> rfl
    | none =>
      have hh' : Match.head? (withReturns t) = none := by
        rw [Match.head?_withReturns, hh]
        rfl
      cases t with
      | nil => simp [given, Text.matches, Match.scan]
      | cons c t =>
        have htail : given (withReturns t) uri = (given t uri).map Declaration.withReturns :=
          ih t.length (Nat.lt_succ_self _) t rfl
        rw [given_cons hh]
        by_cases hc : c = '\n'
        · subst hc
          rw [withReturns_feed, given_cons (Match.head?_eq_none (by decide) _),
            given_cons (Match.head?_eq_none (by decide) _), htail,
            Declaration.map_lower_withReturns, Declaration.map_lower_withReturns,
            Declaration.map_lower_lower]
          rfl
        · rw [withReturns_cons hc] at hh' ⊢
          rw [given_cons hh', htail, Declaration.map_lower_withReturns]

/-- A delimiter finds the end that it found. -/
theorem literal?_withReturns {quote : Char} (hq : isQuoteMark quote = true) {t : Text}
    (h : KeepsFeeds t) :
    literal? quote (withReturns t) =
      (literal? quote t).map fun p => (withReturns p.1, withReturns p.2) := by
  have hreturn : '\r' ≠ quote := by
    rintro rfl
    exact absurd hq (by decide)
  have hfeed := ne_lineFeed_of_isQuoteMark hq
  fun_induction literal? quote t with
  | case1 => rfl
  | case2 => rfl
  | case3 d t ih =>
    have hd := h.ne_of_escape
    rw [withReturns_cons (by decide), withReturns_cons hd]
    simp only [literal?, if_pos, ih h.of_cons.of_cons, Option.map_map, Function.comp_def,
      withReturns_cons hd, withReturns_cons (show '\\' ≠ '\n' by decide)]
  | case4 c t hb hf =>
    obtain ⟨rfl, hback⟩ := hf
    rw [withReturns_feed, literal?_cons (by decide), if_neg (by simp), if_neg hreturn,
      literal?_cons (by decide), if_pos ⟨rfl, hback⟩]
    rfl
  | case5 t hb hf =>
    rw [withReturns_cons hfeed, literal?_cons hb, if_neg hf, if_pos rfl]
    rfl
  | case6 c t hb hf hc ih =>
    have ih := ih h.of_cons
    by_cases hn : c = '\n'
    · subst hn
      rw [withReturns_feed, literal?_cons (by decide), if_neg (by simp), if_neg hreturn,
        literal?_cons hb, if_neg hf, if_neg hc, ih]
      simp [Function.comp_def]
    · rw [withReturns_cons hn, literal?_cons hb, if_neg hf, if_neg hc, ih]
      simp [Function.comp_def, withReturns_cons hn]

theorem Body.withReturns {quote : Char} (hq : isQuoteMark quote = true) {body rest : Text}
    (hb : Body quote body) (h : KeepsFeeds (body ++ quote :: rest)) :
    Body quote (withReturns body) := by
  have hl := literal?_withReturns hq h
  rw [literal?_append hq hb] at hl
  exact body_of_literal? hl

theorem Unclosed.withReturns {quote : Char} (hq : isQuoteMark quote = true) {t : Text}
    (hu : Unclosed quote t) (h : KeepsFeeds t) : Unclosed quote (withReturns t) := by
  rw [← literal?_eq_none_iff hq] at hu ⊢
  rw [literal?_withReturns hq h, hu]
  rfl

/-- A comment may gain a carriage return at its end, which stands before the line feed. -/
theorem written_comment_withReturns {line rest : Text} (hl : '\n' ∉ line)
    (he : ∀ c ∈ rest.head?, c = '\n') (uri : Uri) :
    written ('/' :: '/' :: (line ++ withReturns rest)) uri = (withReturns rest).written uri := by
  cases rest with
  | nil => exact written_comment hl (by simp) uri
  | cons c rest =>
    obtain rfl := he c rfl
    have hpiece : line ++ withReturns ('\n' :: rest) =
        line ++ ['\r'] ++ '\n' :: withReturns rest := by simp
    have hreturn := written_other (c := '\r') (t := '\n' :: withReturns rest) (by decide)
      (by simp) uri
    rw [show ['\r'].count '\n' = 0 by decide, Declaration.lower_zero, List.map_id] at hreturn
    rw [hpiece, written_comment (by simpa using hl) (by simp), withReturns_feed, hreturn]

/-- A slash stands before a slash where it stood before one. -/
theorem head?_withReturns_eq_slash {t : Text} :
    (withReturns t).head? = some '/' ↔ t.head? = some '/' := by
  cases t with
  | nil => rfl
  | cons c t => by_cases hc : c = '\n' <;> simp [withReturns, hc]

/-- Outside of regions every line feed still counts for one line. -/
theorem written_other_withReturns {c : Char} {t : Text} (hq : isQuoteMark c = false)
    (hs : ¬ (c = '/' ∧ t.head? = some '/')) (uri : Uri) :
    written (withReturns (c :: t)) uri =
      ((withReturns t).written uri).map (Declaration.lower ([c].count '\n')) := by
  by_cases hc : c = '\n'
  · subst hc
    rw [withReturns_feed, written_other (by decide) (by simp), written_other (by decide) (by simp),
      Declaration.map_lower_lower]
    rfl
  · rw [withReturns_cons hc, written_other hq]
    rwa [head?_withReturns_eq_slash]

/-- Region by region, a text declares what it declared. -/
theorem written_withReturns {t : Text} (h : KeepsFeeds t) (uri : Uri) :
    (withReturns t).written uri = (t.written uri).map Declaration.withReturns := by
  obtain ⟨i, rs, hread⟩ : ∃ i rs, Reads i t rs := ⟨0, _, reads_regionsFrom 0 t⟩
  induction hread with
  | done => simp
  | @comment i line rest rs hl he _ ih =>
    have hpiece : withReturns ('/' :: '/' :: (line ++ rest)) =
        '/' :: '/' :: (line ++ withReturns rest) := by
      rw [withReturns_cons (by decide), withReturns_cons (by decide), withReturns_append,
        withReturns_of_not_mem hl]
    rw [hpiece, written_comment_withReturns hl he, written_comment hl he,
      ih h.of_cons.of_cons.of_append_right]
  | @literal i quote body rest rs hq hb _ ih =>
    have hfeed := ne_lineFeed_of_isQuoteMark hq
    have hpiece : withReturns (quote :: (body ++ quote :: rest)) =
        quote :: (withReturns body ++ quote :: withReturns rest) := by
      rw [withReturns_cons hfeed, withReturns_append, withReturns_cons hfeed]
    rw [hpiece, written_literal hq (hb.withReturns hq h.of_cons),
      written_literal hq hb, given_withReturns, count_withReturns,
      ih h.of_cons.of_append_right.of_cons, Declaration.map_lower_withReturns, List.map_append]
  | @openQuote i quote t rs hq hb hu _ ih =>
    rw [withReturns_cons (ne_lineFeed_of_isQuoteMark hq),
      written_openQuote hq hb (hu.withReturns hq h.of_cons), written_openQuote hq hb hu,
      ih h.of_cons]
  | @openBacktick i t hu =>
    rw [withReturns_cons (by decide), written_openBacktick (hu.withReturns rfl h.of_cons),
      written_openBacktick hu]
    rfl
  | @other i c t rs hq hs _ ih =>
    rw [written_other_withReturns hq hs, ih h.of_cons, written_other hq hs,
      Declaration.map_lower_withReturns]

/-- A text in which no backslash takes a line feed along declares the same under either way to end
a line, at the same places and in the same order. Only the line feeds in its values are written with
the carriage returns of the text. -/
theorem declarations_withReturns {t : Text} (h : KeepsFeeds t) (uri : Uri) :
    (withReturns t).declarations uri =
      (t.declarations uri).map fun d => { d with value := withReturns d.value } := by
  rw [declarations_eq, written_withReturns h, declarations_eq]
  exact Index.firsts_map Declaration.name_withReturns _

end Text

/-! A script with a comment, a quote that is left open at the end of its line, a value on several
lines and one that goes up to the end of its line; and one that ends a line behind a backslash. -/

namespace Sample

def lines : Text := "// it's `\nno \" f(`--x: 1px\n  2px;\n--y:\n3px`)\n".toList

def joined : Text := "\"--x: 1px;\\\n--y: 2px\"".toList

end Sample

namespace Text

theorem declarations_withReturns_of_sample :
    KeepsFeeds Sample.lines ∧
    ((withReturns Sample.lines).declarations Sample.script).map
        (fun d => (d.name, d.value, d.range.start.line)) =
      [("--x".toList, "1px\r\n  2px".toList, 1), ("--y".toList, "3px".toList, 3)] ∧
    (withReturns Sample.lines).declarations Sample.script =
      (Sample.lines.declarations Sample.script).map
        fun d => { d with value := withReturns d.value } := by
  have h : KeepsFeeds Sample.lines := by
    rw [KeepsFeeds]
    decide +kernel
  exact ⟨h, by decide +kernel, declarations_withReturns h Sample.script⟩

/-- Behind a backslash the carriage return is taken along and the line feed closes the search. -/
example :
    (Sample.joined.declarations Sample.script).map (·.name) = ["--x".toList, "--y".toList] ∧
    ((withReturns Sample.joined).declarations Sample.script).map (·.name) = [] := by
  decide +kernel

end Text

end CustomProps
