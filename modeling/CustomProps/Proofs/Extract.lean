import CustomProps.Index
import CustomProps.Proofs.Region
import Mathlib.Data.List.TakeWhile

/-!
The declarations of a text said without counters or registries. Every match in a literal region is
read by itself: its value is cleaned, a match without a value is left out, and its line counts the
line feeds before its own place. Of these the first of each name stays. A match is a piece of the
whole text, so its line is there and shows its name with the colon.
-/

namespace CustomProps

namespace LineCounter

/-- The line of a counter is the number of line feeds in the bytes counted. -/
structure Counts (bs : Bytes) (k : LineCounter) : Prop where
  counted : k.counted ≤ bs.length
  line : k.line = (bs.take k.counted).count 0x0A

theorem counts_start (bs : Bytes) : start.Counts bs := ⟨Nat.zero_le _, rfl⟩

theorem count_take_add_feeds (bs : Bytes) {i j : Nat} (h : i ≤ j) :
    (bs.take i).count 0x0A + feeds bs i j = (bs.take j).count 0x0A := by
  have hj : j = i + (j - i) := by omega
  conv_rhs => rw [hj, List.take_add, List.count_append]
  rfl

/-- Whatever the counter was asked before, it answers the line feeds before the offset. -/
theorem Counts.line_advance {bs : Bytes} {k : LineCounter} (hk : k.Counts bs) (offset : Nat) :
    (k.advance bs offset).line = (bs.take offset).count 0x0A := by
  have hmin : bs.take (min offset bs.length) = bs.take offset := by
    rw [← List.take_eq_take_min]
  rw [LineCounter.advance]
  by_cases h : k.counted ≤ min offset bs.length
  · simp only [if_pos h]
    rw [hk.line, count_take_add_feeds bs h, hmin]
  · simp only [if_neg h]
    rw [← hmin]
    rfl

theorem Counts.advance {bs : Bytes} {k : LineCounter} (hk : k.Counts bs) (offset : Nat) :
    (k.advance bs offset).Counts bs := by
  have hc : (k.advance bs offset).counted = min offset bs.length := by
    rw [LineCounter.advance]
    split <;> rfl
  refine ⟨?_, ?_⟩
  · rw [hc]
    exact Nat.min_le_right _ _
  · rw [hk.line_advance, hc, ← List.take_eq_take_min]

end LineCounter

/-- What a declaration may name: two dashes and one or more name characters. -/
structure IsDeclaredName (name : Text) : Prop where
  mark : nameMark <+: name
  longer : nameMark.length < name.length
  chars : ∀ c ∈ name, Match.isNameChar c = true

namespace Match

/-- A declaration starts with two dashes, one or more name characters and a colon. -/
theorem exists_of_head? {t name rest : Text} (h : head? t = some (name, rest)) :
    ∃ body, name = nameMark ++ body ∧ body ≠ [] ∧ (∀ c ∈ body, isNameChar c = true) ∧
      t = name ++ ':' :: rest := by
  unfold head? at h
  split at h
  · rename_i t
    split at h
    · rename_i c cs rest' hname hrest
      cases h
      have ht : t = c :: cs ++ ':' :: rest := by
        rw [← hname, ← hrest, List.takeWhile_append_dropWhile]
      refine ⟨c :: cs, rfl, List.cons_ne_nil _ _, ?_, by rw [ht]; rfl⟩
      intro d hd
      rw [← hname] at hd
      exact List.mem_takeWhile_imp hd
    · cases h
  · cases h

/-- A text starts with a declaration exactly if a name and a colon begin it, in one way only. -/
theorem head?_eq_some_iff {t name rest : Text} :
    head? t = some (name, rest) ↔ IsDeclaredName name ∧ t = name ++ ':' :: rest := by
  constructor
  · intro h
    obtain ⟨body, rfl, hne, hbody, ht⟩ := exists_of_head? h
    have hpos : 0 < body.length := List.length_pos_iff.2 hne
    refine ⟨⟨List.prefix_append _ _, by rw [List.length_append]; omega, ?_⟩, ht⟩
    intro c hc
    rcases List.mem_append.1 hc with hc | hc
    · obtain rfl : c = '-' := by simpa [nameMark] using hc
      decide
    · exact hbody c hc
  · rintro ⟨⟨⟨body, rfl⟩, hlen, hchars⟩, rfl⟩
    have hbody : ∀ c ∈ body, isNameChar c = true := fun c hc =>
      hchars c (List.mem_append_right _ hc)
    have hcolon : isNameChar ':' = false := by decide
    have hne : body ≠ [] := by
      rintro rfl
      exact absurd hlen (by decide)
    obtain ⟨c, cs, rfl⟩ := List.exists_cons_of_ne_nil hne
    simp only [nameMark, List.cons_append, List.nil_append, head?]
    rw [← List.cons_append, List.takeWhile_append_of_pos hbody, List.dropWhile_append_of_pos hbody,
      List.takeWhile_cons_of_neg (by simp [hcolon]), List.dropWhile_cons_of_neg (by simp [hcolon]),
      List.append_nil]
    rfl

/-- A declaration starts with its name, and its colon follows. -/
theorem eq_append_of_head? {t name rest : Text} (h : head? t = some (name, rest)) :
    t = name ++ ':' :: rest ∧ '\n' ∉ name := by
  obtain ⟨hname, ht⟩ := head?_eq_some_iff.1 h
  exact ⟨ht, fun hn => absurd (hname.chars _ hn) (by decide)⟩

theorem isDeclaredName_of_mem_scan {start offset : Nat} {t : Text} {m : Match}
    (hm : m ∈ scan start offset t) : IsDeclaredName m.name := by
  fun_induction scan start offset t with
  | case1 => cases hm
  | case2 offset c t name rest h value ih =>
    rcases List.mem_cons.1 hm with rfl | hm
    · exact (head?_eq_some_iff.1 h).1
    · exact ih hm
  | case3 offset c t h ih => exact ih hm

/-- A match is a piece of the text searched, and its position counts the bytes before it. -/
theorem eq_append_of_mem_scan {start offset : Nat} {t : Text} {m : Match}
    (hm : m ∈ scan start offset t) :
    ∃ x z, t = x ++ (m.name ++ ':' :: z) ∧ '\n' ∉ m.name ∧
      m.position = start + offset + Text.byteSize x := by
  fun_induction scan start offset t with
  | case1 offset => cases hm
  | case2 offset c t name rest h value ih =>
    obtain ⟨ht, hn⟩ := eq_append_of_head? h
    rcases List.mem_cons.1 hm with rfl | hm
    · exact ⟨[], rest, ht, hn, rfl⟩
    · obtain ⟨x, z, hx, hname, hp⟩ := ih hm
      refine ⟨name ++ ':' :: (value ++ x), z, ?_, hname, ?_⟩
      · have hv : rest = value ++ rest.dropWhile isValueChar :=
          List.takeWhile_append_dropWhile.symm
        rw [ht, hv, hx]
        simp
      · have hs : ':'.utf8Size = 1 := rfl
        rw [hp, Text.byteSize_append, Text.byteSize_cons, Text.byteSize_append, hs]
        omega
  | case3 offset c t h ih =>
    obtain ⟨x, z, hx, hname, hp⟩ := ih hm
    refine ⟨c :: x, z, ?_, hname, ?_⟩
    · rw [hx]
      rfl
    · rw [hp, Text.byteSize_cons]
      omega

end Match

namespace Text

/-- The text without one delimiter at its end. -/
def withoutDelimiter (t : Text) : Text := if t.getLast?.any isDelimiter then t.dropLast else t

theorem normalValue_eq (raw : Text) :
    normalValue raw = trimEnd (withoutDelimiter (trim raw)) := by
  rw [normalValue, withoutDelimiter]
  cases h : (trim raw).getLast? with
  | none =>
    rw [List.getLast?_eq_none_iff] at h
    rw [h]
    rfl
  | some c =>
    simp only [Option.any_some]
    split <;> rfl

end Text

/-- What a match in the text declares by itself, if it gives a value. -/
def Match.declaration? (t : Text) (uri : Uri) (m : Match) : Option Declaration :=
  let value := Text.trimEnd (Text.withoutDelimiter (Text.trim m.rawValue))
  let line := (t.utf8.take m.position).count 0x0A
  if value = [] then none
  else some ⟨m.name, value, uri, ⟨⟨line, 4⟩, ⟨line, 4 + Text.unitSize m.name⟩⟩⟩

/-- What the matches in the literals of a text declare, one by one. -/
def Text.written (t : Text) (uri : Uri) : List Declaration :=
  ((t.regions.filter (·.kind = .literal)).flatMap fun r => Text.matches r.content r.start).filterMap
    (Match.declaration? t uri)

theorem Match.name_of_declaration? {t : Text} {uri : Uri} {m : Match} {d : Declaration}
    (h : m.declaration? t uri = some d) :
    d.name = m.name ∧ d.range.start.line = (t.utf8.take m.position).count 0x0A := by
  simp only [declaration?] at h
  split at h
  · cases h
  · cases h
    exact ⟨rfl, rfl⟩

theorem Index.firsts_subset (ds : List Declaration) : Index.firsts ds ⊆ ds := by
  induction ds with
  | nil => exact List.Subset.refl _
  | cons d ds ih =>
    apply List.cons_subset_cons
    intro e he
    exact ih (List.mem_filter.1 he).1

namespace Registry

/-- The registry with a declaration added, unless its name is taken. -/
def add (r : Registry) (d : Declaration) : Registry :=
  if r.declares d.name then r else { r with declarations := r.declarations ++ [d] }

@[simp] theorem uri_add (r : Registry) (d : Declaration) : (r.add d).uri = r.uri := by
  unfold add
  split <;> rfl

/-- Adding one after the other keeps the first of each name that was not taken before. -/
theorem declarations_foldl_add (ds : List Declaration) (r : Registry) :
    (ds.foldl add r).declarations =
      r.declarations ++ (Index.firsts ds).filter fun d => !r.declares d.name := by
  induction ds generalizing r with
  | nil => simp [Index.firsts]
  | cons d ds ih =>
    rw [List.foldl_cons, ih, Index.firsts, add]
    by_cases hd : r.declares d.name = true
    · -- Of the names that are not taken none is that of `d`.
      have hsame : ((Index.firsts ds).filter (·.name != d.name)).filter
          (fun e => !r.declares e.name) =
            (Index.firsts ds).filter fun e => !r.declares e.name := by
        rw [List.filter_filter]
        apply List.filter_congr
        intro e _
        by_cases he : e.name = d.name
        · simp [he, hd]
        · simp [he]
      rw [if_pos hd, List.filter_cons_of_neg (by simp [hd]), hsame]
    · have hnew : ((Index.firsts ds).filter (·.name != d.name)).filter
          (fun e => !r.declares e.name) =
            (Index.firsts ds).filter
              fun e => !declares { r with declarations := r.declarations ++ [d] } e.name := by
        rw [List.filter_filter]
        apply List.filter_congr
        intro e _
        simp only [declares, List.any_append, List.any_cons, List.any_nil, Bool.or_false,
          Bool.not_or, bne]
        rw [BEq.comm]
      rw [if_neg hd, List.filter_cons_of_pos (by simp [hd]), hnew]
      simp

end Registry

/-- Registering a match adds what it declares. -/
theorem registerMatch_eq {t : Text} {k : LineCounter} (hk : k.Counts t.utf8) (r : Registry)
    (m : Match) :
    registerMatch t.utf8 (k, r) m =
      (k.advance t.utf8 m.position, (m.declaration? t r.uri).elim r r.add) := by
  have hv := Text.normalValue_eq m.rawValue
  have hl := hk.line_advance m.position
  rw [registerMatch, Registry.insert, Registry.accepts, Match.declaration?]
  simp only [hv, hl]
  by_cases h : Text.trimEnd (Text.withoutDelimiter (Text.trim m.rawValue)) = []
  · simp [h]
  · simp only [if_neg h, Option.elim_some, Registry.add]
    by_cases hd : r.declares m.name = true
    · simp [hd]
    · simp [hd, h, nameRange, Range.onLine, declarationColumn]

/-- Registering matches adds what each of them declares by itself, whatever the counter and the
registry went through before. -/
theorem foldl_registerMatch {t : Text} (ms : List Match) {k : LineCounter}
    (hk : k.Counts t.utf8) (r : Registry) :
    (ms.foldl (registerMatch t.utf8) (k, r)).2 =
      (ms.filterMap (Match.declaration? t r.uri)).foldl Registry.add r := by
  induction ms generalizing k r with
  | nil => rfl
  | cons m ms ih =>
    have hk' := hk.advance m.position
    rw [List.foldl_cons, registerMatch_eq hk, ih hk']
    cases hd : m.declaration? t r.uri with
    | none => rw [List.filterMap_cons_none hd]; rfl
    | some d =>
      rw [List.filterMap_cons_some hd, List.foldl_cons, Option.elim_some, Registry.uri_add]

namespace Text

/-- Comments hold no matches. -/
theorem literalMatches_eq (t : Text) :
    t.literalMatches =
      (t.regions.filter (·.kind = .literal)).flatMap fun r => Text.matches r.content r.start := by
  rw [literalMatches]
  induction t.regions with
  | nil => rfl
  | cons r rs ih =>
    rw [List.flatMap_cons, ih]
    cases hk : r.kind with
    | literal => rw [List.filter_cons_of_pos (by simp [hk]), List.flatMap_cons]
    | comment =>
      rw [List.filter_cons_of_neg (by simp [hk])]
      rfl

theorem isDeclaredName_of_mem_literalMatches {t : Text} {m : Match} (hm : m ∈ t.literalMatches) :
    IsDeclaredName m.name := by
  rw [literalMatches_eq] at hm
  obtain ⟨r, -, hm⟩ := List.mem_flatMap.1 hm
  exact Match.isDeclaredName_of_mem_scan hm

/-- A match in a literal is a piece of the whole text, and its position counts the bytes before
it. -/
theorem eq_append_of_mem_literalMatches {t : Text} {m : Match} (hm : m ∈ t.literalMatches) :
    ∃ x z, t = x ++ (m.name ++ ':' :: z) ∧ '\n' ∉ m.name ∧ m.position = byteSize x := by
  rw [literalMatches_eq] at hm
  obtain ⟨r, hr, hm⟩ := List.mem_flatMap.1 hm
  have hr' : r ∈ regionsFrom 0 t := by
    rw [← regions_eq]
    exact (List.mem_filter.1 hr).1
  obtain ⟨x, z, ht, hstart⟩ := eq_append_of_mem_regionsFrom hr'
  obtain ⟨y, w, hc, hname, hp⟩ := Match.eq_append_of_mem_scan hm
  refine ⟨x ++ y, w ++ z, ?_, hname, ?_⟩
  · rw [ht, hc]
    simp
  · rw [hp, hstart, byteSize_append]
    omega

/-- The line that a name with its colon stands on. -/
theorem line?_count_append (x z : Text) {name : Text} (hn : '\n' ∉ name) :
    (x ++ (name ++ ':' :: z)).line? (x.count '\n') =
      some (trailing (· != '\n') x ++ (name ++ ':' :: dropReturn (z.takeWhile (· != '\n')))) := by
  have hl : x.count '\n' ≤ lastLine (x ++ (name ++ ':' :: z)) := by
    rw [lastLine, List.count_append]
    exact Nat.le_add_right _ _
  have hcolon : (':' :: z).takeWhile (· != '\n') = ':' :: z.takeWhile (· != '\n') := rfl
  rw [line?_eq, if_pos hl, lineOf_count_append,
    List.takeWhile_append_of_pos (forall_bne_of_not_mem hn), hcolon, ← List.append_assoc,
    dropReturn_append_cons _ (by decide), List.append_assoc]

/-- A name with its colon stands on the line that its place has. -/
theorem line?_of_append (x z : Text) {name : Text} (hn : '\n' ∉ name) :
    ∃ line, (x ++ (name ++ ':' :: z)).line? (x.count '\n') = some line ∧
      (name ++ [':']) <:+: line := by
  refine ⟨_, line?_count_append x z hn, trailing (· != '\n') x,
    dropReturn (z.takeWhile (· != '\n')), ?_⟩
  simp

/-- The declarations of a text are, in order, the first of each name among those that its matches
in literals give by themselves, and each stands with its colon on the line it is given. -/
theorem declarations_eq_firsts (t : Text) (uri : Uri) :
    t.declarations uri = Index.firsts (t.written uri) ∧
      ∀ d ∈ t.declarations uri, ∃ line,
        t.line? d.range.start.line = some line ∧ (d.name ++ [':']) <:+: line := by
  have heq : t.declarations uri = Index.firsts (t.written uri) := by
    rw [declarations, foldl_registerMatch _ (LineCounter.counts_start _),
      Registry.declarations_foldl_add, literalMatches_eq]
    exact List.filter_eq_self.2 fun _ _ => rfl
  refine ⟨heq, ?_⟩
  intro d hd
  rw [heq] at hd
  obtain ⟨m, hm, hmd⟩ := List.mem_filterMap.1 (Index.firsts_subset _ hd)
  rw [← literalMatches_eq] at hm
  obtain ⟨hname, hline⟩ := Match.name_of_declaration? hmd
  obtain ⟨x, z, ht, hn, hp⟩ := eq_append_of_mem_literalMatches hm
  have hcount : d.range.start.line = x.count '\n' := by
    rw [hline, hp, ht, take_utf8_append]
    exact count_utf8 (a := '\n') (by decide) x
  rw [hcount, hname, ht]
  exact line?_of_append x z hn

end Text

end CustomProps
