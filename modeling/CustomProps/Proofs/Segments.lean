import CustomProps.Proofs.Written
import Mathlib.Data.List.Forall2
import Mathlib.Data.List.ReduceOption

/-!
Matches by segments. A value runs to the next semicolon, and neither a name nor its colon holds one,
so a match never leaves the piece between two semicolons that it starts in, and it takes all that is
left of it. The search therefore gives for each piece, in order, the leftmost declaration that
stands in it, if there is any.
-/

namespace CustomProps

open Text

/-- A piece of a text between two semicolons, with the number of bytes before it. -/
structure Segment where
  offset : Nat
  text : Text
  deriving DecidableEq, Repr

/-- Pieces with one byte between them, the first of which starts at byte `offset`. -/
def Segment.place (offset : Nat) : List Text → List Segment
  | [] => []
  | piece :: pieces => ⟨offset, piece⟩ :: place (offset + piece.byteSize + 1) pieces

/-- The pieces of a text between semicolons. -/
def Text.segments (content : Text) : List Segment := Segment.place 0 (split ';' content)

/-- A declaration stands in a text behind `before`. -/
structure Declares (t before name value : Text) : Prop where
  eq : t = before ++ (name ++ ':' :: value)
  isName : IsDeclaredName name

/-- A declaration stands in a text, and none further left. -/
structure DeclaresFirst (t before name value : Text) : Prop extends
    Declares t before name value where
  first : ∀ before' name' value', Declares t before' name' value' → before.length ≤ before'.length

/-- What a segment of a text gives that itself starts at byte `start`: its first declaration, with
all that follows the colon for a value. -/
inductive Segment.Gives (start : Nat) (s : Segment) : Option Match → Prop
  | nothing (h : ∀ before name value, ¬ Declares s.text before name value) : Gives start s none
  | first {before name value : Text} (h : DeclaresFirst s.text before name value) :
      Gives start s (some ⟨name, value, s.offset + before.byteSize,
        start + (s.offset + before.byteSize)⟩)

/-- The first declaration in a text: what stands before it, its name and what follows its colon. -/
def firstDeclared? : Text → Option (Text × Text × Text)
  | [] => none
  | c :: t =>
    match Match.head? (c :: t) with
    | some (name, value) => some ([], name, value)
    | none => (firstDeclared? t).map fun (before, name, value) => (c :: before, name, value)

/-- The first declaration of a segment as a match. -/
def Segment.match? (start : Nat) (s : Segment) : Option Match :=
  (firstDeclared? s.text).map fun (before, name, value) =>
    ⟨name, value, s.offset + before.byteSize, start + (s.offset + before.byteSize)⟩

theorem IsDeclaredName.semicolon_not_mem {name : Text} (h : IsDeclaredName name) : ';' ∉ name :=
  fun hc => absurd (h.chars _ hc) (by decide)

/-- Where none stands at the start of a text, the declarations in it are those behind its first
character. -/
theorem declares_cons_iff {c : Char} {t before name value : Text}
    (h : Match.head? (c :: t) = none) :
    Declares (c :: t) before name value ↔
      ∃ before', before = c :: before' ∧ Declares t before' name value := by
  constructor
  · rintro ⟨heq, hname⟩
    cases before with
    | nil =>
      rw [Match.head?_eq_some_iff.2 ⟨hname, heq⟩] at h
      cases h
    | cons d before =>
      obtain ⟨rfl, ht⟩ := List.cons.inj heq
      exact ⟨before, rfl, ht, hname⟩
  · rintro ⟨before', rfl, heq, hname⟩
    exact ⟨by rw [heq]; rfl, hname⟩

theorem firstDeclared?_eq_none_iff {t : Text} :
    firstDeclared? t = none ↔ ∀ before name value, ¬ Declares t before name value := by
  induction t with
  | nil =>
    refine iff_of_true rfl ?_
    rintro before name value ⟨heq, -⟩
    simp at heq
  | cons c t ih =>
    rw [firstDeclared?]
    cases hh : Match.head? (c :: t) with
    | some found =>
      obtain ⟨name, value⟩ := found
      obtain ⟨hname, heq⟩ := Match.head?_eq_some_iff.1 hh
      refine iff_of_false (by simp) ?_
      intro hnone
      exact hnone [] name value ⟨heq, hname⟩
    | none =>
      simp only [Option.map_eq_none_iff, ih, declares_cons_iff hh]
      constructor
      · rintro hnone before name value ⟨before', -, hd⟩
        exact hnone before' name value hd
      · intro hnone before name value hd
        exact hnone (c :: before) name value ⟨before, rfl, hd⟩

theorem firstDeclared?_eq_some_iff {t before name value : Text} :
    firstDeclared? t = some (before, name, value) ↔ DeclaresFirst t before name value := by
  induction t generalizing before with
  | nil =>
    refine iff_of_false (by simp [firstDeclared?]) ?_
    rintro ⟨⟨heq, -⟩, -⟩
    simp at heq
  | cons c t ih =>
    rw [firstDeclared?]
    cases hh : Match.head? (c :: t) with
    | some found =>
      obtain ⟨hname, heq⟩ := Match.head?_eq_some_iff.1 (hh.trans rfl : _ = some (found.1, found.2))
      simp only [Option.some.injEq, Prod.mk.injEq]
      constructor
      · rintro ⟨rfl, rfl, rfl⟩
        exact ⟨⟨heq, hname⟩, fun _ _ _ _ => Nat.zero_le _⟩
      · rintro ⟨⟨heq', hname'⟩, hfirst⟩
        have hnil : before = [] :=
          List.eq_nil_of_length_eq_zero (Nat.le_zero.1 (hfirst [] _ _ ⟨heq, hname⟩))
        rw [hnil] at heq'
        have hsame := Match.head?_eq_some_iff.2 ⟨hname', heq'⟩
        rw [hh] at hsame
        obtain ⟨rfl, rfl⟩ := Prod.mk.inj (Option.some.inj hsame)
        exact ⟨hnil.symm, rfl, rfl⟩
    | none =>
      simp only [Option.map_eq_some_iff]
      constructor
      · rintro ⟨⟨before', name', value'⟩, hf, heq⟩
        obtain ⟨rfl, rfl, rfl⟩ := by simpa using heq
        obtain ⟨hd, hfirst⟩ := ih.1 hf
        refine ⟨(declares_cons_iff hh).2 ⟨before', rfl, hd⟩, ?_⟩
        intro other name'' value'' hother
        obtain ⟨other', rfl, hother'⟩ := (declares_cons_iff hh).1 hother
        exact Nat.succ_le_succ (hfirst other' _ _ hother')
      · rintro ⟨hd, hfirst⟩
        obtain ⟨before', rfl, hd'⟩ := (declares_cons_iff hh).1 hd
        refine ⟨(before', name, value), ih.2 ⟨hd', ?_⟩, rfl⟩
        intro other name'' value'' hother
        exact Nat.le_of_succ_le_succ
          (hfirst (c :: other) _ _ ((declares_cons_iff hh).2 ⟨other, rfl, hother⟩))

theorem Segment.match?_of_head? {t name value : Text} (h : Match.head? t = some (name, value))
    (start offset : Nat) :
    match? start ⟨offset, t⟩ = some ⟨name, value, offset, start + offset⟩ := by
  cases t with
  | nil => cases h
  | cons c t =>
    simp only [match?, firstDeclared?, h, Option.map_some, byteSize_nil, Nat.add_zero]

/-- A character at which no declaration starts may be counted to what is before the segment. -/
theorem Segment.match?_of_head?_eq_none {c : Char} {t : Text} (h : Match.head? (c :: t) = none)
    (start offset : Nat) :
    match? start ⟨offset, c :: t⟩ = match? start ⟨offset + c.utf8Size, t⟩ := by
  simp only [match?, firstDeclared?, h, Option.map_map]
  congr 1
  funext p
  simp only [Function.comp_apply, byteSize_cons, Nat.add_assoc]

/-- A segment gives exactly one thing. -/
theorem Segment.gives_iff (start : Nat) (s : Segment) (found : Option Match) :
    s.Gives start found ↔ found = s.match? start := by
  rw [match?]
  cases hf : firstDeclared? s.text with
  | none =>
    have hnone := firstDeclared?_eq_none_iff.1 hf
    constructor
    · rintro (h | h)
      · rfl
      · exact absurd h.toDeclares (hnone _ _ _)
    · rintro rfl
      exact .nothing hnone
  | some p =>
    obtain ⟨before, name, value⟩ := p
    have hfirst := firstDeclared?_eq_some_iff.1 hf
    constructor
    · rintro (h | h)
      · exact absurd hfirst.toDeclares (h _ _ _)
      · rw [firstDeclared?_eq_some_iff.2 h] at hf
        cases hf
        rfl
    · rintro rfl
      exact .first hfirst

/-- There is one way to say what each segment gives. -/
theorem Segment.forall₂_gives_iff (start : Nat) (segments : List Segment)
    (found : List (Option Match)) :
    List.Forall₂ (Gives start) segments found ↔ found = segments.map (match? start) := by
  induction segments generalizing found with
  | nil => rw [List.forall₂_nil_left_iff, List.map_nil]
  | cons s segments ih =>
    rw [List.forall₂_cons_left_iff, List.map_cons]
    constructor
    · rintro ⟨m, ms, hm, hms, rfl⟩
      rw [(gives_iff start s m).1 hm, (ih ms).1 hms]
    · rintro rfl
      exact ⟨_, _, (gives_iff start s _).2 rfl, (ih _).2 rfl, rfl⟩

namespace Match

/-- A declaration at the start of a piece is the one at the start of what the piece begins, where
the piece ends at a semicolon. -/
theorem head?_append {piece tail : Text} (hp : ';' ∉ piece) (ht : ∀ c ∈ tail.head?, c = ';') :
    head? (piece ++ tail) = (head? piece).map fun (name, value) => (name, value ++ tail) := by
  apply Option.ext
  rintro ⟨name, rest⟩
  simp only [Option.map_eq_some_iff, Prod.exists, head?_eq_some_iff, Prod.mk.injEq]
  constructor
  · rintro ⟨hname, heq⟩
    have hsplit : piece ++ tail = (name ++ [':']) ++ rest := by simpa using heq
    rcases List.append_eq_append_iff.1 hsplit with ⟨w, hw, hrest⟩ | ⟨w, hw, hrest⟩
    · -- The name with its colon is as long as the piece, or else it would hold the semicolon.
      cases w with
      | nil => exact ⟨name, [], ⟨hname, by simpa using hw.symm⟩, rfl, by simpa using hrest⟩
      | cons c w =>
        have hc : c = ';' := ht c (by rw [hrest]; rfl)
        have hmem : ';' ∈ name ++ [':'] := by rw [hw, hc]; simp
        rcases List.mem_append.1 hmem with hmem | hmem
        · exact absurd hmem hname.semicolon_not_mem
        · exact absurd hmem (by decide)
    · exact ⟨name, w, ⟨hname, by simpa using hw⟩, rfl, hrest.symm⟩
  · rintro ⟨name, value, ⟨hname, rfl⟩, rfl, rfl⟩
    exact ⟨hname, by simp⟩

/-- The search gives the match of the piece that it is in, and goes on behind the piece. -/
theorem scan_append (start : Nat) {piece tail : Text} (hp : ';' ∉ piece)
    (ht : ∀ c ∈ tail.head?, c = ';') (offset : Nat) :
    scan start offset (piece ++ tail) =
      (Segment.match? start ⟨offset, piece⟩).toList ++
        scan start (offset + byteSize piece) tail := by
  induction piece generalizing offset with
  | nil => rfl
  | cons c piece ih =>
    have hhead := head?_append hp ht
    cases hh : head? (c :: piece) with
    | some found =>
      obtain ⟨name, value⟩ := found
      rw [hh, Option.map_some] at hhead
      obtain ⟨-, heq⟩ := head?_eq_some_iff.1 hh
      have hvalue : ∀ d ∈ value, isValueChar d = true := by
        intro d hd
        rw [isValueChar, bne_iff_ne]
        rintro rfl
        exact hp (by rw [heq]; simp [hd])
      have htail : ∀ d ∈ tail.head?, isValueChar d = false := by
        intro d hd
        rw [ht d hd]
        rfl
      have hsize : offset + byteSize name + 1 + byteSize value =
          offset + byteSize (c :: piece) := by
        have hcolon : ':'.utf8Size = 1 := rfl
        rw [heq, byteSize_append, byteSize_cons, hcolon]
        omega
      rw [scan_of_head? hhead, takeWhile_append_of_head hvalue htail,
        dropWhile_append_of_head hvalue htail, hsize, Segment.match?_of_head? hh]
      rfl
    | none =>
      rw [hh, Option.map_none] at hhead
      have hpiece : ';' ∉ piece := fun hc => hp (List.mem_cons_of_mem _ hc)
      rw [Segment.match?_of_head?_eq_none hh, byteSize_cons, ← Nat.add_assoc, ← ih hpiece]
      exact scan_of_head?_eq_none hhead start offset

/-- The search gives what the pieces between semicolons give. -/
theorem scan_eq_filterMap (start offset : Nat) (content : Text) :
    scan start offset content =
      (Segment.place offset (split ';' content)).filterMap (Segment.match? start) := by
  induction hn : content.length using Nat.strong_induction_on generalizing offset content with
  | _ n ih =>
    by_cases hc : ';' ∈ content
    · obtain ⟨piece, rest, rfl, hp⟩ := List.eq_append_cons_of_mem hc
      have hlt : rest.length < n := by
        rw [← hn, List.length_append, List.length_cons]
        omega
      have hnone : head? (';' :: rest) = none := rfl
      have hsize : ';'.utf8Size = 1 := rfl
      rw [scan_append start hp (by simp), scan_of_head?_eq_none hnone, hsize, ih _ hlt _ _ rfl,
        split_append hp, Segment.place, List.filterMap_cons]
      cases Segment.match? start ⟨offset, piece⟩ <;> rfl
    · have hend : ∀ c ∈ ([] : Text).head?, c = ';' := by simp
      have h := scan_append start hc hend offset
      rw [List.append_nil, scan, List.append_nil] at h
      rw [h, split_of_not_mem hc, Segment.place, Segment.place, List.filterMap_cons]
      cases Segment.match? start ⟨offset, content⟩ <;> rfl

/-- The position of a match is counted from the start of the whole text. -/
theorem position_of_mem_scan {start offset : Nat} {t : Text} {m : Match}
    (hm : m ∈ scan start offset t) : m.position = start + m.offset := by
  fun_induction scan start offset t with
  | case1 => cases hm
  | case2 offset c t name rest h value ih =>
    rcases List.mem_cons.1 hm with rfl | hm
    · rfl
    · exact ih hm
  | case3 offset c t h ih => exact ih hm

end Match

/-- The matches of a text are, in order, what its segments give: each at most one match, with the
leftmost name that a colon follows. A position that fits into 64 bits is told as it is. -/
theorem Text.matches_by_segment (content : Text) (start : Nat) :
    ∃ found : List (Option Match),
      (∀ list, List.Forall₂ (Segment.Gives start) content.segments list ↔ list = found) ∧
      content.matches start = found.reduceOption ∧
      ∀ m ∈ content.matches start, start + m.offset < 0x10000000000000000 →
        m.address = start + m.offset := by
  refine ⟨content.segments.map (Segment.match? start), Segment.forall₂_gives_iff start _, ?_, ?_⟩
  · rw [Text.matches, Match.scan_eq_filterMap, List.reduceOption, List.filterMap_map]
    rfl
  · intro m hm hfits
    rw [Match.address, Match.position_of_mem_scan hm]
    exact Nat.mod_eq_of_lt hfits

/-! Dashes before a name belong to it, a value takes the declarations in it, a blank before the
colon leaves none, and the Kelvin sign is a name character. -/

namespace Sample

def segmentText : Text := "a---b:1--c:2;--d :3;é--\u212A:".toList

def kelvinMatch : Match := ⟨"--\u212A".toList, [], 22, 29⟩

end Sample

theorem Text.matches_by_segment_of_sample :
    Text.matches Sample.segmentText 7 =
      [⟨"---b".toList, "1--c:2".toList, 1, 8⟩, Sample.kelvinMatch] ∧
    7 + Sample.kelvinMatch.offset < 0x10000000000000000 ∧
    Sample.kelvinMatch.address = 7 + Sample.kelvinMatch.offset := by
  have hall : Text.matches Sample.segmentText 7 =
      [⟨"---b".toList, "1--c:2".toList, 1, 8⟩, Sample.kelvinMatch] := by decide +kernel
  have hfits : 7 + Sample.kelvinMatch.offset < 0x10000000000000000 := by decide
  obtain ⟨-, -, -, haddress⟩ := matches_by_segment Sample.segmentText 7
  exact ⟨hall, hfits, haddress Sample.kelvinMatch (by simp [hall]) hfits⟩

end CustomProps
