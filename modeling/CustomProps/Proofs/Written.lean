import CustomProps.Proofs.Extract
import CustomProps.Proofs.Grammar
import Mathlib.Data.List.Basic

/-!
What each region of a text declares. The matches of a literal depend on its content alone; where
the literal stands only says how many lines lie above it. So the declarations written in a text are
those of its regions one after the other, and they move down with their region when text is put
before it.
-/

namespace CustomProps

/-- The region when `n` bytes more stand before it. -/
def Region.shift (n : Nat) (r : Region) : Region := { r with start := n + r.start }

namespace Declaration

/-- The declaration when `n` lines more stand above it. -/
def lower (n : Nat) (d : Declaration) : Declaration :=
  { d with range := ⟨⟨n + d.range.start.line, d.range.start.column⟩,
      ⟨n + d.range.stop.line, d.range.stop.column⟩⟩ }

@[simp] theorem name_lower (n : Nat) (d : Declaration) : (d.lower n).name = d.name := rfl

@[simp] theorem lower_zero : lower 0 = id := by
  funext d
  simp [lower]

theorem lower_lower (m n : Nat) (d : Declaration) : (d.lower n).lower m = d.lower (m + n) := by
  simp [lower, Nat.add_assoc]

theorem map_lower_lower (m n : Nat) (ds : List Declaration) :
    (ds.map (lower n)).map (lower m) = ds.map (lower (m + n)) := by
  simp [Function.comp_def, lower_lower]

end Declaration

namespace Match

theorem scan_of_head? {t name rest : Text} (h : head? t = some (name, rest))
    (start offset : Nat) :
    scan start offset t =
      ⟨name, rest.takeWhile isValueChar, offset, start + offset⟩ ::
        scan start (offset + Text.byteSize name + 1 + Text.byteSize (rest.takeWhile isValueChar))
          (rest.dropWhile isValueChar) := by
  cases t with
  | nil => cases h
  | cons c t =>
    rw [scan]
    split
    · rename_i h'
      rw [h] at h'
      cases h'
      rfl
    · rename_i h'
      rw [h] at h'
      cases h'

theorem scan_of_head?_eq_none {c : Char} {t : Text} (h : head? (c :: t) = none)
    (start offset : Nat) : scan start offset (c :: t) = scan start (offset + c.utf8Size) t := by
  rw [scan]
  split
  · rename_i h'
    rw [h] at h'
    cases h'
  · rfl

/-- A search that starts further on finds the same matches further on. -/
theorem scan_add (n k start offset : Nat) (t : Text) :
    scan (n + start) (k + offset) t = (scan start offset t).map fun m =>
      ⟨m.name, m.rawValue, k + m.offset, n + k + m.position⟩ := by
  fun_induction scan start offset t with
  | case1 => simp [scan]
  | case2 offset c t name rest h value ih =>
    have hpos : n + start + (k + offset) = n + k + (start + offset) := by omega
    have hoff : k + offset + Text.byteSize name + 1 + Text.byteSize value =
        k + (offset + Text.byteSize name + 1 + Text.byteSize value) := by omega
    rw [scan_of_head? h, hoff, ih, hpos, List.map_cons]
  | case3 offset c t h ih => rw [scan_of_head?_eq_none h, ← ih, Nat.add_assoc]

end Match

namespace Text

/-- A reading that starts further on finds the same regions further on. -/
theorem Reads.shift (n : Nat) {i : Nat} {t : Text} {rs : List Region} (h : Reads i t rs) :
    Reads (n + i) t (rs.map (Region.shift n)) := by
  induction h with
  | done i => exact .done _
  | comment hl he _ ih =>
    simp only [← Nat.add_assoc] at ih
    exact .comment hl he ih
  | literal hq hb _ ih =>
    simp only [← Nat.add_assoc] at ih
    exact .literal hq hb ih
  | openQuote hq hb hu _ ih => exact .openQuote hq hb hu ih
  | openBacktick hu => exact .openBacktick hu
  | other hq hs _ ih =>
    simp only [← Nat.add_assoc] at ih
    exact .other hq hs ih

theorem regionsFrom_eq_map_shift (n : Nat) (t : Text) :
    regionsFrom n t = t.regions.map (Region.shift n) := by
  rw [regions_eq]
  exact ((reads_regionsFrom 0 t).shift n).eq_regionsFrom.symm

/-- What a piece of text declares by itself. -/
def given (content : Text) (uri : Uri) : List Declaration :=
  (Text.matches content 0).filterMap (Match.declaration? content uri)

/-- What a region of a text declares: a comment nothing, and a literal what its content does, as
many lines down as there are line feeds before it. -/
def writtenIn (t : Text) (uri : Uri) (r : Region) : List Declaration :=
  match r.kind with
  | .literal => (given r.content uri).map (Declaration.lower ((t.utf8.take r.start).count 0x0A))
  | .comment => []

/-- Line feeds up to a place behind `x`. -/
theorem count_take_append (x y : Text) (n : Nat) :
    ((x ++ y).utf8.take (byteSize x + n)).count 0x0A =
      x.count '\n' + (y.utf8.take n).count 0x0A := by
  have hx : x.utf8.count 0x0A = x.count '\n' := count_utf8 (a := '\n') (by decide) x
  rw [utf8_append, ← length_utf8, List.take_length_add_append, List.count_append, hx]

theorem take_append_of_le {x : Text} {n : Nat} (h : n ≤ byteSize x) (y : Text) :
    (x ++ y).utf8.take n = x.utf8.take n := by
  rw [← length_utf8] at h
  rw [utf8_append, List.take_append_of_le_length h]

/-- A match declares the same wherever its content stands, only further down. -/
theorem declaration?_append (x z : Text) {content : Text} (uri : Uri) {m : Match} (offset : Nat)
    (hm : m.position ≤ byteSize content) :
    Match.declaration? (x ++ (content ++ z)) uri
        ⟨m.name, m.rawValue, offset, byteSize x + m.position⟩ =
      (Match.declaration? content uri m).map (Declaration.lower (x.count '\n')) := by
  simp only [Match.declaration?, count_take_append, take_append_of_le hm]
  split <;> rfl

/-- So do all matches of a piece, wherever the search in it began to count. -/
theorem filterMap_scan {x : Text} {start offset : Nat} (h : start + offset = byteSize x)
    (content z : Text) (uri : Uri) :
    (Match.scan start offset content).filterMap (Match.declaration? (x ++ (content ++ z)) uri) =
      (given content uri).map (Declaration.lower (x.count '\n')) := by
  have hadd := Match.scan_add start offset 0 0 content
  simp only [Nat.add_zero, h] at hadd
  rw [hadd, given, Text.matches, List.filterMap_map, List.map_filterMap]
  apply List.filterMap_congr
  intro m hm
  refine declaration?_append x z uri (offset + m.offset) ?_
  obtain ⟨y, w, hc, -, hp⟩ := Match.eq_append_of_mem_scan hm
  rw [hp, hc, byteSize_append]
  omega

/-- A character at which no declaration starts is passed over. -/
theorem given_cons {c : Char} {t : Text} (h : Match.head? (c :: t) = none) (uri : Uri) :
    given (c :: t) uri = (given t uri).map (Declaration.lower ([c].count '\n')) := by
  have hsize : 0 + (0 + c.utf8Size) = byteSize [c] := by simp
  have hscan := filterMap_scan hsize t [] uri
  rw [List.append_nil, List.singleton_append] at hscan
  rw [given, Text.matches, Match.scan_of_head?_eq_none h, hscan]

/-- A declaration at the start of a piece, and what follows its value. -/
theorem given_of_head? {t name rest : Text} (h : Match.head? t = some (name, rest)) (uri : Uri) :
    given t uri =
      (Match.declaration? t uri ⟨name, rest.takeWhile Match.isValueChar, 0, 0⟩).toList ++
        (given (rest.dropWhile Match.isValueChar) uri).map
          (Declaration.lower ((name ++ ':' :: rest.takeWhile Match.isValueChar).count '\n')) := by
  obtain ⟨ht, -⟩ := Match.eq_append_of_head? h
  have hsize : 0 + (0 + byteSize name + 1 + byteSize (rest.takeWhile Match.isValueChar)) =
      byteSize (name ++ ':' :: rest.takeWhile Match.isValueChar) := by
    rw [byteSize_append, byteSize_cons, utf8Size_of_lt (show ':'.toNat < 128 by decide)]
    omega
  have hpiece : t = name ++ ':' :: rest.takeWhile Match.isValueChar ++
      (rest.dropWhile Match.isValueChar ++ []) := by
    rw [List.append_nil, List.append_assoc, List.cons_append, List.takeWhile_append_dropWhile, ← ht]
  have hscan := filterMap_scan hsize (rest.dropWhile Match.isValueChar) [] uri
  rw [← hpiece] at hscan
  rw [given, Text.matches, Match.scan_of_head? h, List.filterMap_cons, hscan]
  cases Match.declaration? t uri ⟨name, rest.takeWhile Match.isValueChar, 0, 0⟩ <;> rfl

theorem writtenIn_literal (x y content : Text) (uri : Uri) :
    (x ++ y).writtenIn uri ⟨.literal, content, byteSize x⟩ =
      (given content uri).map (Declaration.lower (x.count '\n')) := by
  have h := count_take_append x y 0
  simp only [Nat.add_zero, List.take_zero, List.count_nil] at h
  rw [writtenIn, h]

/-- The declarations written in a text are those of its regions in a row. -/
theorem written_eq_flatMap (t : Text) (uri : Uri) :
    t.written uri = t.regions.flatMap (t.writtenIn uri) := by
  rw [written, ← literalMatches_eq, literalMatches, List.filterMap_flatMap]
  apply List.flatMap_congr
  intro r hr
  rw [regions_eq] at hr
  obtain ⟨x, z, ht, hstart⟩ := eq_append_of_mem_regionsFrom hr
  rw [Nat.zero_add] at hstart
  obtain ⟨kind, content, start⟩ := r
  subst hstart
  cases kind with
  | comment => rfl
  | literal =>
    rw [ht, writtenIn_literal]
    exact filterMap_scan (Nat.add_zero _) content z uri

theorem writtenIn_of_comment {r : Region} (h : r.kind = .comment) (t : Text) (uri : Uri) :
    t.writtenIn uri r = [] := by rw [writtenIn, h]

/-- What follows a region does not change what it declares. -/
theorem writtenIn_append_left {a : Text} {r : Region} (h : r.start ≤ byteSize a) (b : Text)
    (uri : Uri) : (a ++ b).writtenIn uri r = a.writtenIn uri r := by
  rw [writtenIn, take_append_of_le h, writtenIn]

/-- What is put before a region moves its declarations down. -/
theorem writtenIn_append_right (a b : Text) (uri : Uri) (r : Region) :
    (a ++ b).writtenIn uri (r.shift (byteSize a)) =
      (b.writtenIn uri r).map (Declaration.lower (a.count '\n')) := by
  simp only [writtenIn, Region.shift, count_take_append]
  cases r.kind with
  | comment => rfl
  | literal => simp only [Declaration.map_lower_lower]

theorem flatMap_writtenIn_left {a : Text} {rs : List Region} (h : ∀ r ∈ rs, r.start ≤ byteSize a)
    (b : Text) (uri : Uri) :
    rs.flatMap ((a ++ b).writtenIn uri) = rs.flatMap (a.writtenIn uri) :=
  List.flatMap_congr fun r hr => writtenIn_append_left (h r hr) b uri

theorem flatMap_writtenIn_right (a b : Text) (uri : Uri) (rs : List Region) :
    (rs.map (Region.shift (byteSize a))).flatMap ((a ++ b).writtenIn uri) =
      (rs.flatMap (b.writtenIn uri)).map (Declaration.lower (a.count '\n')) := by
  rw [List.flatMap_map, List.map_flatMap]
  exact List.flatMap_congr fun r _ => writtenIn_append_right a b uri r

/-- Where the reading of a text goes on behind a piece of it, the rest declares what it does alone,
as many lines down as the piece has line feeds. -/
theorem written_of_reads (x : Text) {t : Text} (rs : List Region)
    (h : Reads 0 (x ++ t) (rs ++ regionsFrom (byteSize x) t)) (uri : Uri) :
    (x ++ t).written uri =
      rs.flatMap ((x ++ t).writtenIn uri) ++
        (t.written uri).map (Declaration.lower (x.count '\n')) := by
  rw [written_eq_flatMap, regions_eq, ← h.eq_regionsFrom, List.flatMap_append,
    regionsFrom_eq_map_shift, flatMap_writtenIn_right, ← written_eq_flatMap]

@[simp] theorem written_nil (uri : Uri) : written [] uri = [] := by
  rw [written_eq_flatMap, regions_eq, regionsFrom, List.flatMap_nil]

/-- Text outside of regions declares nothing. -/
theorem written_other {c : Char} {t : Text} (hq : isQuoteMark c = false)
    (hs : ¬ (c = '/' ∧ t.head? = some '/')) (uri : Uri) :
    written (c :: t) uri = (t.written uri).map (Declaration.lower ([c].count '\n')) := by
  have h := Reads.other (i := 0) hq hs (reads_regionsFrom _ t)
  rw [Nat.zero_add] at h
  exact written_of_reads [c] [] h uri

theorem written_openQuote {quote : Char} {t : Text} (hq : isQuoteMark quote = true)
    (hb : quote ≠ backtick) (hu : Unclosed quote t) (uri : Uri) :
    written (quote :: t) uri = t.written uri := by
  have hsize : quote.utf8Size = 1 := utf8Size_of_lt (lt_of_isQuoteMark hq)
  have hcount : List.count '\n' [quote] = 0 := by simp [ne_lineFeed_of_isQuoteMark hq]
  have h := Reads.openQuote (i := 0) hq hb hu (reads_regionsFrom _ t)
  have hw := written_of_reads [quote] [] (by simpa [hsize] using h) uri
  simpa [hcount] using hw

/-- Behind a backtick that is not closed nothing is declared. -/
theorem written_openBacktick {t : Text} (hu : Unclosed backtick t) (uri : Uri) :
    written (backtick :: t) uri = [] := by
  rw [written_eq_flatMap, regions_eq, ← (Reads.openBacktick hu).eq_regionsFrom, List.flatMap_nil]

theorem written_comment {line rest : Text} (hl : '\n' ∉ line) (he : ∀ c ∈ rest.head?, c = '\n')
    (uri : Uri) : written ('/' :: '/' :: (line ++ rest)) uri = rest.written uri := by
  have hsize : byteSize ('/' :: '/' :: line) = 0 + 2 + byteSize line := by
    simp only [byteSize_cons, utf8Size_of_lt (show '/'.toNat < 128 by decide)]
    omega
  have hcount : List.count '\n' ('/' :: '/' :: line) = 0 := by
    simpa [List.count_eq_zero] using hl
  have h := Reads.comment hl he (reads_regionsFrom (0 + 2 + byteSize line) rest)
  rw [← hsize] at h
  have hw := written_of_reads ('/' :: '/' :: line) [_] h uri
  simpa [writtenIn, hcount] using hw

theorem written_literal {quote : Char} {body rest : Text} (hq : isQuoteMark quote = true)
    (hb : Body quote body) (uri : Uri) :
    written (quote :: (body ++ quote :: rest)) uri =
      given body uri ++ (rest.written uri).map (Declaration.lower (body.count '\n')) := by
  have hone : quote.utf8Size = 1 := utf8Size_of_lt (lt_of_isQuoteMark hq)
  have hfeed := ne_lineFeed_of_isQuoteMark hq
  have hsize : byteSize (quote :: (body ++ [quote])) = 0 + 2 + byteSize body := by
    simp only [byteSize_cons, byteSize_append, byteSize_nil, hone]
    omega
  have hcountq : List.count '\n' [quote] = 0 := by simp [hfeed]
  have hcount : List.count '\n' (quote :: (body ++ [quote])) = body.count '\n' := by
    simp [hfeed]
  have hpiece : quote :: (body ++ quote :: rest) = quote :: (body ++ [quote]) ++ rest := by simp
  have h := Reads.literal hq hb (reads_regionsFrom (0 + 2 + byteSize body) rest)
  rw [← hsize, hpiece] at h
  have hw := written_of_reads (quote :: (body ++ [quote])) [_] h uri
  have hregion := writtenIn_literal [quote] (body ++ [quote] ++ rest) body uri
  rw [byteSize_cons, byteSize_nil, hone, hcountq, Declaration.lower_zero, List.map_id] at hregion
  rw [hpiece, hw, hcount, List.flatMap_singleton]
  exact congrArg (· ++ _) hregion

theorem declarations_eq (t : Text) (uri : Uri) :
    t.declarations uri = Index.firsts (t.written uri) := by
  rw [declarations, foldl_registerMatch _ (LineCounter.counts_start _),
    Registry.declarations_foldl_add, literalMatches_eq]
  exact List.filter_eq_self.2 fun _ _ => rfl

end Text

end CustomProps
